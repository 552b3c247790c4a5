import ZyWebRtc.Fec.DecoderRun

namespace ZyWebRtc.Fec

/-! When decoding stays inside the packet buffers. -/

open List Option

namespace Packet

/-- The bytes in use are inside the buffer. -/
def Small (packet : Packet) : Prop := packet.length.toNat ≤ ipPacketSize

instance (packet : Packet) : Decidable packet.Small := inferInstanceAs (Decidable (_ ≤ _))

end Packet

/-! ## One recovery -/

def missingPayloadLength (fecPacket : FecPacket) : UInt16 :=
  (fecPacket.protectedPktList.filterMap (·.pkt)).foldl
    (fun length pkt => length ^^^ pkt.mediaPayloadLength) fecPacket.pkt.lengthRecovery

/-- What a received FEC packet says fits the buffers: the protected bytes are inside the FEC
packet's buffer, and the missing packet is not longer than a buffer. -/
structure Fits (fecPacket : FecPacket) : Prop where
  protection : kFecHeaderSize + fecPacket.pkt.ulpHeaderSize +
    fecPacket.pkt.protectionLength.toNat ≤ ipPacketSize
  length : (missingPayloadLength fecPacket + 12).toNat ≤ ipPacketSize

instance (fecPacket : FecPacket) : Decidable (Fits fecPacket) :=
  decidable_of_iff (_ ∧ _) ⟨fun fits => ⟨fits.1, fits.2⟩, fun fits => ⟨fits.1, fits.2⟩⟩

def protectedBytes (pkt : Packet) : Bytes :=
  pkt.data.slice (kFecHeaderSize + pkt.ulpHeaderSize) pkt.protectionLength.toNat

theorem initRecovery_inside {fecPacket : FecPacket}
    (inside : kFecHeaderSize + fecPacket.pkt.ulpHeaderSize +
      fecPacket.pkt.protectionLength.toNat ≤ ipPacketSize) :
    initRecovery fecPacket = some (Recovery.start fecPacket
      (Buffer.zeros.overwrite kRtpHeaderSize (protectedBytes fecPacket.pkt))) := by
  have behind : kRtpHeaderSize ≤ kFecHeaderSize + fecPacket.pkt.ulpHeaderSize := by
    simp only [kRtpHeaderSize, kFecHeaderSize, Packet.ulpHeaderSize]
    omega
  have fits : kRtpHeaderSize + (protectedBytes fecPacket.pkt).length ≤ ipPacketSize := by
    rw [protectedBytes, Buffer.slice_length]
    omega
  rw [initRecovery, Buffer.copyOut_inside _ inside, bind_eq_bind, bind_some,
    ← protectedBytes, Buffer.copyIn_inside _ fits]
  rfl

theorem initRecovery_outside {fecPacket : FecPacket}
    (outside : ipPacketSize < kFecHeaderSize + fecPacket.pkt.ulpHeaderSize +
      fecPacket.pkt.protectionLength.toNat) : initRecovery fecPacket = none := by
  rw [initRecovery, Buffer.copyOut, if_neg (not_le.mpr outside)]
  rfl

def missingSeqNum : List ProtectedPacket → Option UInt16 → Option UInt16
  | [], seqNum => seqNum
  | protectedPacket :: rest, seqNum =>
    missingSeqNum rest (if protectedPacket.pkt.isNone then some protectedPacket.seqNum else seqNum)

/-- All packets that are there are inside their buffers. -/
abbrev SmallProtected (list : List ProtectedPacket) : Prop :=
  HoldsOnly (fun _ pkt => pkt.Small) list

variable {list : List ProtectedPacket}

theorem xorProtected_inside (small : SmallProtected list)
    (seqNum : Option UInt16) (recovered : Recovery) :
    xorProtected list seqNum recovered =
      some (missingSeqNum list seqNum, (list.filterMap (·.pkt)).foldl Recovery.xor recovered) := by
  induction list generalizing seqNum recovered with
  | nil => rfl
  | cons first rest induction =>
    rcases holdsOnly_cons.mp small with ⟨smallFirst, smallRest⟩
    cases present : first.pkt with
    | none =>
      rw [filterMap_cons_none present]
      simp only [xorProtected, missingSeqNum, present, isNone_none, if_true]
      exact induction smallRest _ _
    | some pkt =>
      have fits : ¬ ipPacketSize < pkt.length.toNat := not_lt.mpr (smallFirst pkt present)
      rw [filterMap_cons_some present]
      simp only [xorProtected, missingSeqNum, present, xorPackets, if_neg fits]
      exact induction smallRest _ _

theorem xorProtected_seqNum {seqNum number : Option UInt16} {recovered result : Recovery}
    (xored : xorProtected list seqNum recovered = some (number, result)) :
    missingSeqNum list seqNum = number := by
  induction list generalizing seqNum recovered with
  | nil =>
    cases xored
    rfl
  | cons first rest induction =>
    unfold xorProtected at xored
    unfold missingSeqNum
    cases present : first.pkt with
    | none =>
      rw [present] at xored
      exact induction xored
    | some pkt =>
      rw [present] at xored
      simp only [bind_eq_bind, bind_eq_some_iff] at xored
      rcases xored with ⟨next, _, later⟩
      exact induction later

theorem exists_missingSeqNum {seqNum : Option UInt16}
    (missing : seqNum ≠ none ∨ 0 < list.countP (·.pkt.isNone)) :
    ∃ number, missingSeqNum list seqNum = some number := by
  induction list generalizing seqNum with
  | nil => exact ne_none_iff_exists'.mp (missing.resolve_right (by simp))
  | cons first rest induction =>
    apply induction
    by_cases here : first.pkt.isNone = true
    · simp [here]
    · simpa [here] using missing

theorem foldl_xor_lengthRecovery (packets : List Packet) (recovered : Recovery) :
    (packets.foldl Recovery.xor recovered).lengthRecovery =
      packets.foldl (fun length pkt => length ^^^ pkt.mediaPayloadLength)
        recovered.lengthRecovery := by
  induction packets generalizing recovered with
  | nil => rfl
  | cons first rest induction => exact induction (recovered.xor first)

/-- What is recovered, without the checks. -/
def recovery (fecPacket : FecPacket) : Recovery :=
  (fecPacket.protectedPktList.filterMap (·.pkt)).foldl Recovery.xor
    (Recovery.start fecPacket
      (Buffer.zeros.overwrite kRtpHeaderSize (protectedBytes fecPacket.pkt)))

theorem recovery_lengthRecovery (fecPacket : FecPacket) :
    (recovery fecPacket).lengthRecovery = missingPayloadLength fecPacket :=
  foldl_xor_lengthRecovery _ _

section

variable {fecPacket : FecPacket} (small : SmallProtected fecPacket.protectedPktList)
  (missing : 0 < fecPacket.protectedPktList.countP (·.pkt.isNone))

include small missing

theorem recoverPacket_inside (inside : kFecHeaderSize + fecPacket.pkt.ulpHeaderSize +
      fecPacket.pkt.protectionLength.toNat ≤ ipPacketSize) :
    ∃ number, missingSeqNum fecPacket.protectedPktList none = some number ∧
      recoverPacket fecPacket = some (finishRecovery (recovery fecPacket) number) := by
  rcases exists_missingSeqNum (.inr missing) with ⟨number, numberEq⟩
  refine ⟨number, numberEq, ?_⟩
  rw [recoverPacket, initRecovery_inside inside]
  simp only [bind_eq_bind, bind_some, xorProtected_inside small, numberEq]
  rfl

theorem recoverPacket_small_iff :
    (∃ packet, recoverPacket fecPacket = some packet ∧ packet.pkt.Small) ↔ Fits fecPacket := by
  by_cases inside : kFecHeaderSize + fecPacket.pkt.ulpHeaderSize +
      fecPacket.pkt.protectionLength.toNat ≤ ipPacketSize
  · rcases recoverPacket_inside small missing inside with ⟨number, _, recover⟩
    have length : (finishRecovery (recovery fecPacket) number).pkt.length =
        missingPayloadLength fecPacket + 12 := by
      rw [finishRecovery, recovery_lengthRecovery]
    constructor
    · rintro ⟨packet, recovered, fits⟩
      rw [recover] at recovered
      rw [← Option.some.inj recovered, Packet.Small, length] at fits
      exact ⟨inside, fits⟩
    · intro fits
      refine ⟨_, recover, ?_⟩
      rw [Packet.Small, length]
      exact fits.length
  · constructor
    · rintro ⟨packet, recovered, _⟩
      rw [recoverPacket, initRecovery_outside (not_le.mp inside)] at recovered
      cases recovered
    · exact fun fits => absurd fits.protection inside

end

/-! ## The search for recovered packets -/

theorem eq_of_not_lessThan {first second : UInt16} (notLess : lessThan first second = false)
    (notGreater : lessThan second first = false) (near : first - second ≠ 0x8000) :
    first = second := by
  by_contra different
  have firstBound := first.toNat_lt
  have secondBound := second.toNat_lt
  have apart : (first - second).toNat ≠ 0x8000 := fun same => near (UInt16.toNat_inj.mp same)
  have numbers : first.toNat ≠ second.toNat := fun same => different (UInt16.toNat_inj.mp same)
  simp only [lessThan, isNewerSequenceNumber, Bool.and_eq_false_imp, decide_eq_true_eq,
    decide_eq_false_iff_not, UInt16.lt_iff_toNat_lt, not_lt] at notLess notGreater
  have forward := notGreater different
  have backward := notLess (Ne.symm different)
  rw [show (0x8000 : UInt16).toNat = 32768 from rfl, UInt16.toNat_sub] at forward backward
  rw [UInt16.toNat_sub] at apart
  omega

theorem suffix_dropWhile {Element : Type} (test : Element → Bool) {found : Element}
    {behind list : List Element} (suffix : found :: behind <:+ list) (stops : test found = false) :
    found :: behind <:+ list.dropWhile test := by
  induction list with
  | nil => exact absurd (suffix_nil.mp suffix) (cons_ne_nil _ _)
  | cons first rest induction =>
    rcases suffix_cons_iff.mp suffix with same | later
    · rw [← same, dropWhile_cons_of_neg (by simp [stops])]
    · by_cases passed : test first = true
      · rw [dropWhile_cons_of_pos passed]
        exact induction later
      · rw [dropWhile_cons_of_neg passed]
        exact suffix

/-- No recovered packet is half the circle away from a protected one. -/
def NoneOpposite (recoveredPackets : List RecoveredPacket) (seqNums : List UInt16) : Prop :=
  ∀ recovered ∈ recoveredPackets, ∀ seqNum ∈ seqNums, recovered.seqNum - seqNum ≠ 0x8000

instance (recoveredPackets : List RecoveredPacket) (seqNums : List UInt16) :
    Decidable (NoneOpposite recoveredPackets seqNums) :=
  inferInstanceAs (Decidable (∀ recovered ∈ recoveredPackets, ∀ seqNum ∈ seqNums, _))

theorem NoneOpposite.mono {recoveredPackets fewer : List RecoveredPacket}
    {seqNums fewerSeqNums : List UInt16} (near : NoneOpposite recoveredPackets seqNums)
    (packets : fewer ⊆ recoveredPackets) (numbers : fewerSeqNums ⊆ seqNums) :
    NoneOpposite fewer fewerSeqNums := fun recovered member seqNum numberMember =>
  near recovered (packets member) seqNum (numbers numberMember)

theorem assignEach_finds {recoveredPackets : List RecoveredPacket}
    {remaining : List ProtectedPacket}
    (near : NoneOpposite recoveredPackets (remaining.map (·.seqNum)))
    (suffix : remaining.map (·.seqNum) <:+ list.map (·.seqNum)) :
    ∃ assigned, assignEach (alreadyRecovered recoveredPackets remaining) list = some assigned := by
  induction recoveredPackets generalizing remaining list with
  | nil => exact ⟨list, rfl⟩
  | cons recovered more induction =>
    unfold alreadyRecovered
    split
    case h_1 => exact ⟨list, rfl⟩
    case h_2 first rest dropped =>
      have stops := List.head?_dropWhile_not (fun protectedPacket : ProtectedPacket =>
        !lessThan recovered.seqNum protectedPacket.seqNum &&
          lessThan protectedPacket.seqNum recovered.seqNum) remaining
      have remainingSuffix : (first :: rest).map (·.seqNum) <:+ remaining.map (·.seqNum) :=
        (dropped ▸ dropWhile_suffix _).map _
      have nearRest := near.mono (subset_cons_self _ _) remainingSuffix.subset
      have suffixRest := remainingSuffix.trans suffix
      rw [dropped] at stops
      by_cases less : lessThan recovered.seqNum first.seqNum = true
      · rw [if_pos less]
        exact induction nearRest suffixRest
      · rw [if_neg less]
        rw [Bool.not_eq_true] at less
        have notGreater : lessThan first.seqNum recovered.seqNum = false := by
          simpa [less] using stops
        have same : recovered.seqNum = first.seqNum :=
          eq_of_not_lessThan less notGreater (near recovered mem_cons_self first.seqNum
            (remainingSuffix.subset mem_cons_self))
        have suffixHere : first.seqNum :: rest.map (·.seqNum) <:+ list.map (·.seqNum) :=
          suffixRest
        have reached := suffix_dropWhile (· ≠ recovered.seqNum) suffixHere (by simp [same])
        rw [dropWhile_map] at reached
        change _ <:+ (list.dropWhile (·.seqNum ≠ recovered.seqNum)).map (·.seqNum) at reached
        unfold assignEach
        cases search : list.dropWhile (·.seqNum ≠ recovered.seqNum) with
        | nil =>
          rw [search] at reached
          exact absurd (suffix_nil.mp reached) (cons_ne_nil _ _)
        | cons found behind =>
          rw [search] at reached
          have suffixBehind : rest.map (·.seqNum) <:+
              ({ found with pkt := some recovered.pkt } :: behind).map (·.seqNum) :=
            (suffix_cons _ _).trans reached
          rcases induction (nearRest.mono (List.Subset.refl _) (subset_cons_self _ _))
              suffixBehind with ⟨assigned, assignedEq⟩
          exact ⟨_, by simp only [assignedEq]; rfl⟩

/-! ## Decoding calls -/

/-- No search for a recovered packet runs off its list: no recovered packet is half the circle
away from a packet that a new FEC packet protects. -/
def SearchesFind : List ReceivedPacket → Decoder → Prop
  | [], _ => True
  | rxPacket :: rest, decoder =>
    (rxPacket.isFec = true → NoneOpposite decoder.recoveredPacketList
      ((protectedPackets rxPacket.pkt).map (·.seqNum))) ∧
      ∀ next, insertPacket rxPacket decoder = some next → SearchesFind rest next

def decideSearchesFind :
    ∀ receivedPacketList decoder, Decidable (SearchesFind receivedPacketList decoder)
  | [], _ => .isTrue trivial
  | rxPacket :: rest, decoder =>
    have := fun next => decideSearchesFind rest next
    inferInstanceAs (Decidable (_ ∧ ∀ next, insertPacket rxPacket decoder = some next → _))

instance (receivedPacketList : List ReceivedPacket) (decoder : Decoder) :
    Decidable (SearchesFind receivedPacketList decoder) :=
  decideSearchesFind receivedPacketList decoder

/-- In a decoding call every search finds its packet, and every FEC packet that is used for a
recovery fits. -/
def DecodesInside (receivedPacketList : List ReceivedPacket) (decoder : Decoder) : Prop :=
  ∀ reset, resetAtGap receivedPacketList decoder = some reset →
    SearchesFind receivedPacketList reset ∧
      ∀ inserted, insertPackets receivedPacketList reset = some inserted →
        EachRecovery (fun _ fecPacket => Fits fecPacket) inserted.fecPacketList.length inserted

instance (receivedPacketList : List ReceivedPacket) (decoder : Decoder) :
    Decidable (DecodesInside receivedPacketList decoder) :=
  inferInstanceAs (Decidable (∀ reset, resetAtGap receivedPacketList decoder = some reset →
    _ ∧ ∀ inserted, insertPackets receivedPacketList reset = some inserted → _))

/-- The media packets of a received list are inside their buffers. -/
def SmallMedia (receivedPacketList : List ReceivedPacket) : Prop :=
  ∀ rxPacket ∈ receivedPacketList, rxPacket.isFec = false → rxPacket.pkt.Small

instance (receivedPacketList : List ReceivedPacket) : Decidable (SmallMedia receivedPacketList) :=
  inferInstanceAs (Decidable (∀ rxPacket ∈ receivedPacketList, rxPacket.isFec = false → _))

abbrev SmallPackets (decoder : Decoder) : Prop := Stores (fun _ pkt => pkt.Small) decoder

theorem exists_insertPacket {rxPacket : ReceivedPacket} {decoder : Decoder}
    (near : rxPacket.isFec = true → NoneOpposite decoder.recoveredPacketList
      ((protectedPackets rxPacket.pkt).map (·.seqNum))) :
    ∃ next, insertPacket rxPacket decoder = some next := by
  unfold insertPacket
  split
  case isTrue isFec =>
    unfold insertFecPacket
    split
    · exact ⟨_, rfl⟩
    · split
      · exact ⟨_, rfl⟩
      · rcases assignEach_finds (near isFec) (suffix_refl _) with ⟨assigned, assignedEq⟩
        exact ⟨_, by simp only [assignRecoveredPackets, assignedEq]; rfl⟩
  case isFalse => exact ⟨_, rfl⟩

section

variable {receivedPacketList : List ReceivedPacket}

theorem insertEach_small {decoder : Decoder}
    (media : SmallMedia receivedPacketList) (finds : SearchesFind receivedPacketList decoder)
    (small : SmallPackets decoder) :
    ∃ next, insertEach receivedPacketList decoder = some next ∧ SmallPackets next := by
  induction receivedPacketList generalizing decoder with
  | nil => exact ⟨decoder, rfl, small⟩
  | cons rxPacket rest induction =>
    rcases exists_insertPacket finds.1 with ⟨next, inserted⟩
    have smallNext := small.insertPacket (media rxPacket mem_cons_self) inserted
    rcases induction (fun other member => media other (mem_cons_of_mem _ member))
        (finds.2 next inserted) smallNext with ⟨last, rest, smallLast⟩
    refine ⟨last, ?_, smallLast⟩
    rw [insertEach, inserted]
    exact rest

theorem exists_resetAtGap (decoder : Decoder) (nonempty : receivedPacketList ≠ []) :
    ∃ reset, resetAtGap receivedPacketList decoder = some reset := by
  unfold resetAtGap
  split
  case isTrue full =>
    have recovered : decoder.recoveredPacketList ≠ [] := by
      intro empty
      rw [empty] at full
      cases full
    rw [List.head?_eq_some_head nonempty, List.getLast?_eq_some_getLast recovered]
    simp only [bind_eq_bind, bind_some]
    split <;> exact ⟨_, rfl⟩
  case isFalse => exact ⟨_, rfl⟩

theorem decodeFec_small {decoder : Decoder}
    (nonempty : receivedPacketList ≠ []) (media : SmallMedia receivedPacketList)
    (inside : DecodesInside receivedPacketList decoder) (small : SmallPackets decoder) :
    ∃ next packets, decodeFec receivedPacketList decoder = some (next, packets) ∧
      SmallPackets next ∧ ∀ packet ∈ packets, packet.pkt.Small := by
  rcases exists_resetAtGap decoder nonempty with ⟨reset, resetEq⟩
  rcases insertEach_small media (inside reset resetEq).1 (small.resetAtGap resetEq) with
    ⟨inserted, insertedEq, smallInserted⟩
  have insertPacketsEq : insertPackets receivedPacketList reset = some { inserted with
        recoveredPacketList := discardOldPackets inserted.recoveredPacketList } := by
    rw [insertPackets, insertedEq]
    rfl
  have recoveries := (inside reset resetEq).2 _ insertPacketsEq
  rcases attemptRecover_invariant (fun _ kept => kept.findRecoverable)
      (fun before fecPacket kept found fits => by
        have member := mem_of_mem_findRecoverable (.inr found)
        have missing := missing_of_findRecoverable found
        rcases (recoverPacket_small_iff (kept.covered fecPacket member) (by omega)).mpr fits with
          ⟨packet, recovered, smallPacket⟩
        exact ⟨packet, recovered, smallPacket, kept.insertRecovered smallPacket⟩)
      _ _ smallInserted.discardOldPackets recoveries with
    ⟨next, packets, attempted, smallNext, smallRecovered⟩
  refine ⟨next, packets, ?_, smallNext, smallRecovered⟩
  rw [decodeFec, resetEq, bind_eq_bind, bind_some, insertPacketsEq]
  exact attempted

end

/-! ## Runs -/

/-- The decoder, and all packets that were recovered so far. -/
structure Decoding where
  decoder : Decoder
  recovered : List RecoveredPacket

namespace Decoding

def new : Decoding where
  decoder := Decoder.new
  recovered := []

def step (decoding : Decoding) (receivedPacketList : List ReceivedPacket) : Option Decoding := do
  let (decoder, packets) ← decodeFec receivedPacketList decoding.decoder
  pure { decoder := decoder, recovered := decoding.recovered ++ packets }

/-- In runs of decoding calls that decode inside, every copy and XOR stays inside the packet
buffers, and so does every recovered packet. -/
theorem recovered_small {calls : List (List ReceivedPacket)}
    (received : ∀ call ∈ calls, call ≠ [] ∧ SmallMedia call)
    (inside : Run.Permitted step (fun decoding call => DecodesInside call decoding.decoder) new
      calls) :
    ∃ last, Run.reached step new calls = some last ∧
      ∀ packet ∈ last.recovered, packet.pkt.Small := by
  have preserved : ∀ (decoding : Decoding) (call : List ReceivedPacket),
      (SmallPackets decoding.decoder ∧ ∀ packet ∈ decoding.recovered, packet.pkt.Small) →
      ((call ≠ [] ∧ SmallMedia call) ∧ DecodesInside call decoding.decoder) →
      ∃ next, step decoding call = some next ∧
        (SmallPackets next.decoder ∧ ∀ packet ∈ next.recovered, packet.pkt.Small) := by
    rintro decoding call ⟨small, smallRecovered⟩ ⟨⟨nonempty, media⟩, inside⟩
    rcases decodeFec_small nonempty media inside small with
      ⟨decoder, packets, decoded, smallDecoder, smallPackets⟩
    refine ⟨{ decoder := decoder, recovered := decoding.recovered ++ packets }, ?_, smallDecoder, ?_⟩
    · rw [step, decoded]
      rfl
    · intro packet member
      rcases mem_append.mp member with before | now
      · exact smallRecovered packet before
      · exact smallPackets packet now
  rcases Run.invariant_reached step preserved ⟨stores_new, by simp [new]⟩
      (Run.permitted_and step received inside) with ⟨last, run, _, smallLast⟩
  exact ⟨last, run, smallLast⟩

def fecPacketOf (seqNum : UInt16) (bytes : Bytes) : ReceivedPacket where
  seqNum := seqNum
  ssrc := 7
  isFec := true
  pkt := { length := UInt16.ofNat bytes.length, data := Buffer.zeros.overwrite 0 bytes }

def longProtection : ReceivedPacket :=
  fecPacketOf 9 [0, 0, 0, 1, 0, 0, 0, 0, 0, 0, 0xff, 0xff, 0x80, 0]

/-- FEC packets can make decoding leave a buffer, and recover a packet that is longer than one. -/
theorem not_recovered_small :
    ¬ ∀ calls : List (List ReceivedPacket), (∀ call ∈ calls, call ≠ [] ∧ SmallMedia call) →
        ∃ last, Run.reached step new calls = some last ∧
          ∀ packet ∈ last.recovered, packet.pkt.Small := by
  intro safe
  have outside : (Run.reached step new [[longProtection]]).isNone = true := by decide +kernel
  rcases safe [[longProtection]] (by decide +kernel) with ⟨last, reached, _⟩
  rw [reached] at outside
  cases outside

def exampleCalls : List (List ReceivedPacket) :=
  [[fecPacketOf 9 [0x80, 96, 0, 1, 0, 0, 0, 0, 0, 2, 0, 2, 0x80, 0, 5, 6]]]

theorem recovered_small_example :
    ∃ last, Run.reached step new exampleCalls = some last ∧
      ∀ packet ∈ last.recovered, packet.pkt.Small :=
  recovered_small (by decide +kernel) (by decide +kernel)

end Decoding

end ZyWebRtc.Fec
