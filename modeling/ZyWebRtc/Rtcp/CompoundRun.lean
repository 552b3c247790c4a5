import ZyWebRtc.Rtcp.CompoundPlan

namespace ZyWebRtc.Rtcp.RTCPSender

/-! Every builder does what is planned for it, and so does the packet. -/

open List Option Plan RtcpBuffer

open Bytes (uint16Bytes uint24Bytes uint32Bytes)

/-! ## Lengths -/

theorem flatMap_length_const {Item : Type} (bytes : Item → Bytes) (size : Nat)
    (each : ∀ item, (bytes item).length = size) (items : List Item) :
    (items.flatMap bytes).length = size * items.length := by
  induction items with
  | nil => simp
  | cons item rest induction =>
    rw [flatMap_cons, length_append, each, induction, length_cons,
      Nat.mul_add, Nat.mul_one, Nat.add_comm]

@[simp] theorem reportBlockBytes_length (entry : UInt32 × RTCPReportBlock) :
    (reportBlockBytes entry).length = 24 := rfl

@[simp] theorem tmmbrBytes_length (tmmbr packetOH : UInt32) :
    (tmmbrBytes tmmbr packetOH).length = 4 := rfl

@[simp] theorem voIPMetricBytes_length (metric : RTCPVoIPMetric) :
    (voIPMetricBytes metric).length = 28 := rfl

@[simp] theorem rembIdentifier_length : rembIdentifier.length = 4 := rfl

theorem reportBlocksBytes_length (entries : List (UInt32 × RTCPReportBlock)) :
    (entries.flatMap reportBlockBytes).length = 24 * entries.length :=
  flatMap_length_const reportBlockBytes 24 (fun _ => rfl) entries

theorem pictureIDBytes_length (pictureID : UInt64) (count : Nat) :
    (pictureIDBytes pictureID count).length = count := by
  induction count with
  | zero => rfl
  | succ count induction =>
    cases count with
    | zero => rfl
    | succ count => rw [pictureIDBytes, length_cons, induction]

theorem nackFields_length_le (count : Nat) (list : List UInt16) :
    (nackFields count list).1.length ≤ count := by
  induction count generalizing list with
  | zero => exact le_rfl
  | succ count induction =>
    cases list with
    | nil => exact Nat.zero_le _
    | cons nack rest => exact Nat.succ_le_succ (induction _)

theorem sdesChunk_length {position : Nat} (aligned : 4 ∣ position) (ssrc : UInt32)
    (cname : CName) : (sdesChunk position ssrc cname).length = chunkSize cname := by
  simp only [sdesChunk, length_append, Bytes.uint32Bytes_length, length_cons,
    length_nil, length_replicate, chunkSize]
  omega

theorem sdesChunks_length (entries : List (UInt32 × CName)) :
    ∀ {position}, 4 ∣ position → (sdesChunks position entries).length =
        (entries.map fun entry => chunkSize entry.2).sum := by
  induction entries with
  | nil => exact fun _ => rfl
  | cons entry rest induction =>
    intro position aligned
    rcases entry with ⟨ssrc, cname⟩
    have chunk := sdesChunk_length aligned ssrc cname
    have next : 4 ∣ position + (sdesChunk position ssrc cname).length := by
      rw [chunk, chunkSize]
      omega
    rw [sdesChunks, length_append, induction next, chunk, map_cons, sum_cons]

theorem chunkSize_le (cname : CName) : chunkSize cname ≤ 264 := by
  have bound := cname.name_lt
  rw [RTCP_CNAME_SIZE] at bound
  rw [chunkSize]
  omega

theorem chunkSizes_le (entries : List (UInt32 × CName)) :
    (entries.map fun entry => chunkSize entry.2).sum ≤ 264 * entries.length ∧
      4 ∣ (entries.map fun entry => chunkSize entry.2).sum := by
  induction entries with
  | nil => exact ⟨Nat.zero_le _, Nat.dvd_zero 4⟩
  | cons entry rest induction =>
    have bound := chunkSize_le entry.2
    have words : 4 ∣ chunkSize entry.2 := Nat.dvd_mul_right 4 _
    rw [map_cons, sum_cons, length_cons]
    omega

theorem bytesRequiredLoop_endless {pictureID : UInt64} (large : 2 ^ 63 ≤ pictureID.toNat)
    (fuel : Nat) : ∀ bitsRequired bytesRequired,
      bytesRequiredLoop pictureID fuel bitsRequired bytesRequired = none := by
  induction fuel with
  | zero => exact fun _ _ => rfl
  | succ fuel induction =>
    intro bitsRequired bytesRequired
    have left : pictureID >>> bitsRequired > 0 := by
      apply UInt64.lt_iff_toNat_lt.mpr
      rw [UInt64.toNat_shiftRight, Nat.shiftRight_eq_div_pow]
      apply Nat.div_pos _ (Nat.two_pow_pos _)
      have shift : bitsRequired.toNat % 64 ≤ 63 := by omega
      exact (Nat.pow_le_pow_right (by decide) shift).trans large
    rw [bytesRequiredLoop, if_pos left]
    exact induction _ _

theorem bytesRequiredLoop_le {pictureID : UInt64} {count : Nat} (fuel : Nat) :
    ∀ {bytesRequired}, 1 ≤ bytesRequired → bytesRequired ≤ 9 →
      bytesRequiredLoop pictureID fuel (UInt64.ofNat (7 * bytesRequired)) bytesRequired =
        some count → 1 ≤ count ∧ count ≤ 9 := by
  induction fuel with
  | zero => exact fun _ _ absurdity => nomatch absurdity
  | succ fuel induction =>
    intro bytesRequired positive bound counted
    by_cases large : 2 ^ 63 ≤ pictureID.toNat
    · rw [bytesRequiredLoop_endless large] at counted
      cases counted
    rw [bytesRequiredLoop] at counted
    split at counted
    · rename_i more
      have few : bytesRequired ≠ 9 := by
        rintro rfl
        have shifted := UInt64.lt_iff_toNat_lt.mp more
        rw [UInt64.toNat_shiftRight, Nat.shiftRight_eq_div_pow] at shifted
        rw [show (UInt64.ofNat (7 * 9)).toNat % 64 = 63 from rfl,
          Nat.div_eq_of_lt (Nat.lt_of_not_le large)] at shifted
        exact absurd shifted (by decide)
      have next : UInt64.ofNat (7 * bytesRequired) + 7 =
          UInt64.ofNat (7 * (bytesRequired + 1)) := by
        rw [Nat.mul_add, UInt64.ofNat_add]
        rfl
      rw [next] at counted
      exact induction (by omega) (by omega) counted
    · cases counted
      exact ⟨positive, bound⟩

theorem bytesRequired_le {pictureID : UInt64} {count : Nat}
    (counted : bytesRequired pictureID = some count) : 1 ≤ count ∧ count ≤ 9 :=
  bytesRequiredLoop_le 65 le_rfl (by decide) counted

theorem rpsiSize_words {count : Nat} (positive : 1 ≤ count) (bound : count ≤ 9) :
    4 * (rpsiSize count).toNat = 8 + (2 + (count + rpsiPaddingBytes count)) := by
  interval_cases count <;> rfl

theorem octetsOfLength_toNat {words : Nat} (short : words < 2 ^ 14 - 1) :
    (octetsOfLength (UInt16.ofNat words)).toNat = 4 * (words + 1) := by
  rw [octetsOfLength, UInt16.toNat_mul, UInt16.toNat_add, UInt16.toNat_ofNat',
    show (1 : UInt16).toNat = 1 from rfl, show (4 : UInt16).toNat = 4 from rfl]
  omega

theorem uint16Bytes_short (words : UInt8) :
    uint16Bytes (UInt16.ofNat words.toNat) = [0, words] := by
  have bound := words.toNat_lt
  have high : (UInt16.ofNat words.toNat >>> 8).toUInt8 = 0 := by
    apply UInt8.toNat_inj.mp
    simp [UInt16.toNat_shiftRight, Nat.shiftRight_eq_div_pow]
    omega
  have low : (UInt16.ofNat words.toNat).toUInt8 = words := by
    apply UInt8.toNat_inj.mp
    simp only [UInt16.toNat_toUInt8, UInt16.toNat_ofNat']
    omega
  rw [uint16Bytes, high, low]

theorem framed_short {first pt words : UInt8} {rest : Bytes} {items : Option Nat} :
    Framed ([first, pt, 0, words] ++ rest) (wholeBlock ([first, pt, 0, words] ++ rest) items) ↔
      (128 ≤ first.toNat ∧ first.toNat < 160) ∧ 4 * words.toNat = rest.length ∧
        ∀ count ∈ items, first.toNat = 128 + count := by
  have word : [first, pt, 0, words] ++ rest =
      first :: pt :: (uint16Bytes (UInt16.ofNat words.toNat) ++ rest) := by
    rw [uint16Bytes_short]
    rfl
  have bound := words.toNat_lt
  rw [word, framed_cons, octetsOfLength_toNat (by omega)]
  have lengths : 4 * (words.toNat + 1) = rest.length + 4 ↔ 4 * words.toNat = rest.length := by
    omega
  rw [lengths]

theorem framed_constant {first pt words : UInt8} {rest : Bytes}
    (plain : 128 ≤ first.toNat ∧ first.toNat < 160) (length : 4 * words.toNat = rest.length) :
    Framed ([first, pt, 0, words] ++ rest) (wholeBlock ([first, pt, 0, words] ++ rest) none) ↔
      true := by
  rw [framed_short]
  simp [plain, length]

/-! ## Outcomes of the builders -/

section Outcomes

variable {ready sender next : RTCPSender} {buffer : RtcpBuffer}

theorem outcome_writeBlock {room : Nat} {size : Nat → Nat} {block : Bytes} {items : Option Nat}
    {fits : Bool} (kept : Kept ready next)
    (written : buffer.position + room < IP_PACKET_SIZE →
      block.length = size buffer.position ∧ 4 ≤ block.length ∧ 4 ∣ block.length ∧
        (Framed block (wholeBlock block items) ↔ fits)) :
    Outcome ready sender buffer (.block room false size fits)
      (some (writeBlock room block items sender next buffer)) := by
  by_cases hasRoom : buffer.position + room < IP_PACKET_SIZE
  · have notFull : buffer.full room = false := decide_eq_false (Nat.not_le.mpr hasRoom)
    simp only [Outcome, writeBlock, hasRoom, if_true, notFull, Bool.false_eq_true, if_false]
    exact ⟨next, block, items, rfl, kept, written hasRoom⟩
  · have full : buffer.full room = true := decide_eq_true (Nat.not_lt.mp hasRoom)
    simp only [Outcome, writeBlock, hasRoom, if_false, full, if_true, Bool.false_eq_true]

theorem outcome_constant {first pt words : UInt8} {rest : Bytes} {room size : Nat}
    (kept : Kept ready next) (plain : 128 ≤ first.toNat ∧ first.toNat < 160)
    (length : 4 * words.toNat = rest.length) (whole : rest.length + 4 = size) :
    Outcome ready sender buffer (.fixed room size)
      (some (writeBlock room ([first, pt, 0, words] ++ rest) none sender next buffer)) := by
  apply outcome_writeBlock kept
  intro _
  have size : ([first, pt, 0, words] ++ rest).length = rest.length + 4 := by simp
  refine ⟨size.trans whole, by omega, by omega, framed_constant plain length⟩

theorem Outcome.leftOut {room : Nat} {size : Nat → Nat} {fits : Bool} {built : Built}
    (outcome : Outcome ready sender buffer (.block room false size fits) (some built)) :
    Outcome ready sender buffer (.block room true size fits) (some built.ignoringRoom) := by
  simp only [Outcome] at outcome ⊢
  split at outcome
  · rename_i hasRoom
    rw [if_pos hasRoom]
    rcases outcome with ⟨next, block, items, same, rest⟩
    cases same
    exact ⟨next, block, items, rfl, rest⟩
  · rename_i full
    rw [if_neg full]
    cases outcome
    rfl

theorem writeBlock_count (room : Nat) (block : Bytes) (items : Option Nat)
    (update : RTCPSender → RTCPSender) :
    (writeBlock room block items sender next buffer).count update =
      writeBlock room block items sender (update next) buffer := by
  rw [writeBlock, writeBlock]
  split <;> rfl

theorem follows_onlyIf {wanted : Bool} {build : RTCPSender → RtcpBuffer → Option Built}
    {plan : Plan}
    (follows : ∀ sender buffer, Kept ready sender → 4 ∣ buffer.position →
      Outcome ready sender buffer plan (build sender buffer)) :
    Follows ready { wanted, build } (.onlyIf wanted plan) := by
  intro sender buffer kept aligned
  cases wanted with
  | true => exact follows sender buffer kept aligned
  | false => rfl

end Outcomes

section Builders

variable {ready sender : RTCPSender} {buffer : RtcpBuffer} (kept : Kept ready sender)
include kept

theorem buildExtendedJitterReport_outcome (jitterTransmissionTimeOffset : UInt32) :
    Outcome ready sender buffer ready.extendedJitterPlan
      (some (sender.buildExtendedJitterReport jitterTransmissionTimeOffset buffer)) := by
  rcases kept with ⟨records, rfl⟩
  by_cases none : ready.externalReportBlocks.entries.length = 0
  · have external : ¬ (ready.withRecords records).externalReportBlocks.entries.length > 0 :=
      Nat.not_lt.mpr none.le
    rw [buildExtendedJitterReport, if_neg external, extendedJitterPlan, onlyIf,
      if_pos (decide_eq_true none)]
    apply outcome_writeBlock ⟨records, rfl⟩
    intro _
    refine ⟨rfl, by simp, by simp, ?_⟩
    rw [framed_short]
    simp
  · have external : (ready.withRecords records).externalReportBlocks.entries.length > 0 :=
      Nat.pos_of_ne_zero none
    rw [buildExtendedJitterReport, if_pos external, extendedJitterPlan, onlyIf,
      if_neg (by simpa using none)]
    rfl

theorem buildPLI_outcome :
    Outcome ready sender buffer (.fixed 12 12) (some ((sender.buildPLI buffer).count countPli)) := by
  rcases kept with ⟨records, rfl⟩
  rw [buildPLI, writeBlock_count, append_assoc]
  exact outcome_constant ⟨{ records with pliCount := records.pliCount + 1 }, rfl⟩ (by decide) rfl rfl

theorem buildFIR_outcome (repeatFir : Bool) :
    Outcome ready sender buffer (.fixed 20 20)
      (some ((sender.buildFIR repeatFir buffer).count countFir)) := by
  rcases kept with ⟨records, rfl⟩
  rw [buildFIR, writeBlock_count]
  simp only [append_assoc]
  apply outcome_constant _ (by decide) rfl rfl
  cases repeatFir with
  | true =>
    exact ⟨{ records with fullIntraRequestCount := records.fullIntraRequestCount + 1 }, rfl⟩
  | false =>
    exact ⟨{ records with
      fullIntraRequestCount := records.fullIntraRequestCount + 1
      sequenceNumberFIR := records.sequenceNumberFIR + 1 }, rfl⟩

theorem buildSLI_outcome (pictureID : UInt8) :
    Outcome ready sender buffer (.fixed 16 16) (some (sender.buildSLI pictureID buffer)) := by
  rw [buildSLI]
  simp only [append_assoc]
  exact outcome_constant kept (by decide) rfl rfl

theorem buildRPSIFor_outcome (request : PrepareRequest) :
    Outcome ready sender buffer (rpsiPlan request) (sender.buildRPSIFor request buffer) := by
  rw [buildRPSIFor, rpsiPlan]
  by_cases unknown : request.feedbackState.sendPayloadType = 255
  · rw [if_pos unknown, if_pos unknown]
    exact ⟨_, rfl, rfl⟩
  rw [if_neg unknown, if_neg unknown]
  cases counted : bytesRequired request.pictureID with
  | none =>
    simp only [Outcome, buildRPSI, counted]
    by_cases hasRoom : buffer.position + 24 < IP_PACKET_SIZE
    · have notFull : buffer.full 24 = false := decide_eq_false (Nat.not_le.mpr hasRoom)
      rw [if_pos hasRoom, notFull]
      rfl
    · have full : buffer.full 24 = true := decide_eq_true (Nat.not_lt.mp hasRoom)
      rw [if_neg hasRoom, full]
      rfl
  | some count =>
    rcases bytesRequired_le counted with ⟨positive, bound⟩
    have words := rpsiSize_words positive bound
    simp only [buildRPSI, counted, append_assoc]
    by_cases full : buffer.full 24 = true
    · have noRoom : ¬ buffer.position + 24 < IP_PACKET_SIZE :=
        Nat.not_lt.mpr (of_decide_eq_true full)
      rw [if_pos full, Plan.fixed, Outcome, if_neg noRoom]
      rfl
    · rw [if_neg full]
      apply outcome_constant kept (by decide)
      · simp only [length_append, Bytes.uint32Bytes_length, length_cons,
          length_nil, pictureIDBytes_length, length_replicate]
        omega
      · simp only [length_append, Bytes.uint32Bytes_length, length_cons,
          length_nil, pictureIDBytes_length, length_replicate]
        omega

theorem buildREMB_outcome :
    Outcome ready sender buffer ready.rembPlan (some (sender.buildREMB buffer)) := by
  rcases kept with ⟨records, rfl⟩
  have bound := ready.rembSSRC.property
  rw [buildREMB, rembPlan]
  simp only [append_assoc]
  apply outcome_writeBlock ⟨records, rfl⟩
  intro _
  have sources : ((ready.withRecords records).rembSSRC.val.flatMap uint32Bytes).length =
      4 * ready.rembSSRC.val.length := Bytes.flatMap_uint32Bytes_length ready.rembSSRC.val
  rw [framed_short]
  simp only [length_append, Bytes.uint32Bytes_length, length_cons, length_nil,
    rembIdentifier_length, sources, UInt8.toNat_add, UInt8.toNat_ofNat', decide_eq_true_eq,
    reduceCtorEq, false_implies, implies_true, and_true, mem_def]
  refine ⟨by omega, by omega, by omega, ?_⟩
  change (_ ∧ 4 * ((ready.rembSSRC.val.length % 2 ^ 8 + 4) % 2 ^ 8) = _) ↔ _
  have plain : 128 ≤ ((128 : UInt8).toNat + (15 : UInt8).toNat) % 2 ^ 8 ∧
      ((128 : UInt8).toNat + (15 : UInt8).toNat) % 2 ^ 8 < 160 := by decide
  simp only [plain, true_and]
  omega

theorem buildBYE_outcome :
    Outcome ready sender buffer ready.byePlan (some (sender.buildBYE buffer)) := by
  rcases kept with ⟨records, rfl⟩
  have bound : ready.csrcs.val.length ≤ 15 := ready.csrcs.property
  have included : (ready.withRecords records).includeCSRCs = ready.includeCSRCs := rfl
  rw [buildBYE, byePlan, included]
  cases ready.includeCSRCs with
  | true =>
    simp only [if_true, append_assoc]
    apply outcome_writeBlock ⟨records, rfl⟩
    intro _
    have sources : ((ready.withRecords records).csrcs.val.flatMap uint32Bytes).length =
        4 * ready.csrcs.val.length := Bytes.flatMap_uint32Bytes_length ready.csrcs.val
    have number : (UInt8.ofNat (ready.withRecords records).csrcs.val.length).toNat =
        ready.csrcs.val.length := by
      rw [UInt8.toNat_ofNat']
      exact Nat.mod_eq_of_lt (by change ready.csrcs.val.length < 2 ^ 8; omega)
    rw [framed_short]
    simp only [length_append, Bytes.uint32Bytes_length, length_cons, length_nil,
      sources, UInt8.toNat_add, number, mem_def, Option.some.injEq, forall_eq', iff_true]
    have first : ((128 : UInt8).toNat + (1 : UInt8).toNat) % 2 ^ 8 = 129 := by decide
    have one : (1 : UInt8).toNat = 1 := rfl
    change _ ∧ _ ∧ _ ∧ _ ∧ _ ∧ _ = 128 + (1 + ready.csrcs.val.length)
    rw [first, one]
    omega
  | false =>
    apply outcome_writeBlock ⟨records, rfl⟩
    intro _
    refine ⟨rfl, by simp, by simp, ?_⟩
    rw [framed_short]
    simp

theorem buildAPP_outcome :
    Outcome ready sender buffer ready.appPlan (some (sender.buildAPP buffer)) := by
  rcases kept with ⟨records, rfl⟩
  have given : (ready.withRecords records).appData = ready.appData := rfl
  rw [buildAPP, appPlan, given]
  cases ready.appData with
  | none => exact ⟨_, rfl, rfl⟩
  | some appData =>
    simp only [append_assoc]
    apply outcome_writeBlock ⟨records, rfl⟩
    intro hasRoom
    have words := appData.words
    rw [IP_PACKET_SIZE] at hasRoom
    have length : (UInt16.ofNat appData.data.length >>> 2) + 2 =
        UInt16.ofNat (appData.data.length / 4 + 2) := by
      apply UInt16.toNat_inj.mp
      simp [UInt16.toNat_shiftRight, Nat.shiftRight_eq_div_pow]
      omega
    rw [length]
    refine ⟨?_, ?_, ?_, ?_⟩
    · simp only [length_append, Bytes.uint32Bytes_length, Bytes.uint16Bytes_length,
        length_cons, length_nil]
      omega
    · simp
    · simp only [length_append, Bytes.uint32Bytes_length, Bytes.uint16Bytes_length,
        length_cons, length_nil]
      omega
    · apply framed_cons.trans
      rw [octetsOfLength_toNat (by omega)]
      have subType := ready.appSubType.toNat_lt
      simp only [length_append, Bytes.uint32Bytes_length, UInt8.toNat_add,
        mem_def, reduceCtorEq, false_implies, implies_true, and_true,
        decide_eq_true_eq, UInt8.lt_iff_toNat_lt]
      have version : (128 : UInt8).toNat = 128 := rfl
      have limit : (32 : UInt8).toNat = 32 := rfl
      have same : (ready.withRecords records).appSubType = ready.appSubType := rfl
      rw [version, limit, same]
      omega

theorem buildTMMBR_outcome (world : SenderWorld) (request : PrepareRequest) :
    Outcome ready sender buffer (ready.tmmbrPlan world request)
      (some (sender.buildTMMBR world request.feedbackState.module buffer)) := by
  rcases kept with ⟨records, rfl⟩
  rw [tmmbrPlan]
  cases request.feedbackState.module with
  | none => exact ⟨_, rfl, rfl⟩
  | some received =>
    rw [buildTMMBR]
    have same : (received.all ((ready.withRecords records).sendsTMMBR world) ∧
        (ready.withRecords records).tmmbrSend ≠ 0) =
        (received.all (ready.sendsTMMBR world) ∧ ready.tmmbrSend ≠ 0) := rfl
    simp only [same]
    by_cases sends : received.all (ready.sendsTMMBR world) ∧ ready.tmmbrSend ≠ 0
    · rw [if_pos sends, onlyIf, if_pos (decide_eq_true sends)]
      simp only [append_assoc]
      exact outcome_constant ⟨records, rfl⟩ (by decide) rfl rfl
    · rw [if_neg sends, onlyIf, if_neg (by simpa using sends)]
      rfl

theorem buildTMMBN_outcome :
    Outcome ready sender buffer ready.tmmbnPlan (some (sender.buildTMMBN buffer)) := by
  rcases kept with ⟨records, rfl⟩
  have same : (ready.withRecords records).tmmbnEntries = ready.tmmbnEntries := rfl
  rw [buildTMMBN, tmmbnPlan]
  simp only [append_assoc, same]
  apply outcome_writeBlock ⟨records, rfl⟩
  intro hasRoom
  change buffer.position + (12 + ready.boundingSetToSend.entries.length * 8) < 1500 at hasRoom
  have sent : ready.tmmbnEntries.length ≤ ready.boundingSetToSend.entries.length :=
    List.length_filter_le _ _
  have entries : (ready.tmmbnEntries.flatMap fun element =>
      uint32Bytes element.ssrc ++ tmmbrBytes element.tmmbr element.packetOH).length =
        8 * ready.tmmbnEntries.length :=
    flatMap_length_const _ 8 (fun _ => rfl) _
  refine ⟨?_, by simp, ?_, ?_⟩
  · simp only [length_append, Bytes.uint32Bytes_length, Bytes.uint16Bytes_length,
      length_cons, length_nil, entries]
    omega
  · simp only [length_append, Bytes.uint32Bytes_length, Bytes.uint16Bytes_length,
      length_cons, length_nil, entries]
    omega
  · apply framed_cons.trans
    rw [octetsOfLength_toNat (by omega)]
    simp only [length_append, Bytes.uint32Bytes_length, length_cons, length_nil,
      entries, mem_def, reduceCtorEq, false_implies, implies_true, and_true, iff_true]
    exact ⟨by decide, by omega⟩

theorem buildNACK_outcome (request : PrepareRequest) :
    Outcome ready sender buffer (nackPlan request)
      (some ((sender.buildNACK request.nackList buffer).count countNack)) := by
  rcases kept with ⟨records, rfl⟩
  have bound : (nackFields (maxNackFields buffer.position) request.nackList).1.length ≤ 253 :=
    (nackFields_length_le _ _).trans (Nat.min_le_left _ _)
  rw [buildNACK, writeBlock_count, nackPlan]
  simp only [append_assoc]
  apply outcome_writeBlock ⟨{ records with nackCount := records.nackCount + 1 }, rfl⟩
  intro _
  have fields := flatMap_length_const
    (fun field : UInt16 × UInt16 => uint16Bytes field.1 ++ uint16Bytes field.2) 4 (fun _ => rfl)
    (nackFields (maxNackFields buffer.position) request.nackList).1
  rw [framed_short]
  simp only [length_append, Bytes.uint32Bytes_length, length_cons, length_nil,
    fields, UInt8.toNat_ofNat', mem_def, reduceCtorEq, false_implies, implies_true,
    and_true, iff_true]
  exact ⟨by omega, by omega, by omega, by decide, by omega⟩

theorem buildVoIPMetric_outcome :
    Outcome ready sender buffer (.fixed 44 44) (some (sender.buildVoIPMetric buffer)) := by
  rw [buildVoIPMetric]
  simp only [append_assoc]
  exact outcome_constant kept (by decide) rfl rfl

theorem buildReceiverReferenceTime_outcome (world : SenderWorld) (time : NtpTime) :
    Outcome ready sender buffer (.fixed 20 20)
      (some (sender.buildReceiverReferenceTime world time buffer)) := by
  rcases kept with ⟨records, rfl⟩
  rw [buildReceiverReferenceTime]
  simp only [append_assoc]
  exact outcome_constant
    ⟨{ records with lastXrRr := ((ready.withRecords records).rememberXrRr world time).lastXrRr },
      rfl⟩ (by decide) rfl rfl

theorem buildDlrr_outcome (info : RtcpReceiveTimeInfo) :
    Outcome ready sender buffer (.fixed 24 24) (some (sender.buildDlrr info buffer)) := by
  rw [buildDlrr]
  simp only [append_assoc]
  exact outcome_constant kept (by decide) rfl rfl

theorem buildSDEC_outcome (aligned : 4 ∣ buffer.position) :
    Outcome ready sender buffer (ready.sdecPlan false) (some (sender.buildSDEC buffer)) := by
  rcases kept with ⟨records, rfl⟩
  have chunks := sdesChunks_length ((ready.ssrc, ready.cname) :: ready.csrcCNAMEs.entries)
    (show 4 ∣ buffer.position + 4 by omega)
  rcases chunkSizes_le ((ready.ssrc, ready.cname) :: ready.csrcCNAMEs.entries) with ⟨bound, words⟩
  have few : ready.csrcCNAMEs.entries.length ≤ 15 := ready.csrcCNAMEs.entries_le
  rw [← chunks] at bound words
  rw [length_cons] at bound
  rw [buildSDEC, sdecPlan, sdecSize, ← chunks]
  simp only [append_assoc]
  apply outcome_writeBlock ⟨records, rfl⟩
  intro _
  have same : (ready.withRecords records).csrcCNAMEs = ready.csrcCNAMEs := rfl
  have listed : ((ready.withRecords records).ssrc, (ready.withRecords records).cname) ::
      ready.csrcCNAMEs.entries = (ready.ssrc, ready.cname) :: ready.csrcCNAMEs.entries := rfl
  simp only [same, listed]
  generalize sdesChunks (buffer.position + 4)
    ((ready.ssrc, ready.cname) :: ready.csrcCNAMEs.entries) = written at bound words ⊢
  have length : UInt16.ofNat (4 + written.length) / 4 - 1 =
      UInt16.ofNat ((4 + written.length) / 4 - 1) := by
    apply UInt16.toNat_inj.mp
    rw [UInt16.toNat_sub_of_le, UInt16.toNat_div, UInt16.toNat_ofNat', UInt16.toNat_ofNat',
      show (4 : UInt16).toNat = 4 from rfl, show (1 : UInt16).toNat = 1 from rfl]
    · omega
    · apply UInt16.le_iff_toNat_le.mpr
      rw [UInt16.toNat_div, UInt16.toNat_ofNat', show (4 : UInt16).toNat = 4 from rfl,
        show (1 : UInt16).toNat = 1 from rfl]
      omega
  rw [length]
  refine ⟨?_, by simp, ?_, ?_⟩
  · simp only [length_append, Bytes.uint16Bytes_length, length_cons, length_nil]
    omega
  · simp only [length_append, Bytes.uint16Bytes_length, length_cons, length_nil]
    omega
  · apply framed_cons.trans
    rw [octetsOfLength_toNat (by omega)]
    simp only [UInt8.toNat_add, UInt8.toNat_ofNat', mem_def, Option.some.injEq,
      forall_eq', iff_true]
    have version : (128 : UInt8).toNat = 128 := rfl
    have one : (1 : UInt8).toNat = 1 := rfl
    rw [version, one]
    omega

end Builders

/-! ## Reports at the beginning of the packet -/

section

variable (sender : RTCPSender)

theorem reportBlockCount_le : sender.reportBlockCount ≤ 62 := by
  have internal : sender.internalReportBlocks.entries.length ≤ 31 :=
    sender.internalReportBlocks.entries_le
  have external : sender.externalReportBlocks.entries.length ≤ 31 :=
    sender.externalReportBlocks.entries_le
  rw [reportBlockCount]
  omega

def reportBlockNumber : UInt8 :=
  UInt8.ofNat sender.externalReportBlocks.entries.length +
    UInt8.ofNat sender.internalReportBlocks.entries.length

theorem reportBlockNumber_toNat : sender.reportBlockNumber.toNat = sender.reportBlockCount := by
  have bound := sender.reportBlockCount_le
  rw [reportBlockCount] at bound
  rw [reportBlockNumber, reportBlockCount, UInt8.toNat_add, UInt8.toNat_ofNat', UInt8.toNat_ofNat']
  omega

def allReportBlocksBytes : Bytes :=
  sender.internalReportBlocks.entries.flatMap reportBlockBytes ++
    sender.externalReportBlocks.entries.flatMap reportBlockBytes

theorem allReportBlocksBytes_length :
    sender.allReportBlocksBytes.length = 24 * sender.reportBlockCount := by
  rw [allReportBlocksBytes, length_append, reportBlocksBytes_length,
    reportBlocksBytes_length, reportBlockCount, Nat.mul_add]

def withoutInternal : RTCPSender :=
  { sender with internalReportBlocks := .empty }

end

theorem finishReport_first (first pt third fourth : UInt8) (rest : Bytes) (sender : RTCPSender)
    (short : rest.length + 28 < IP_PACKET_SIZE) :
    finishReport 0 (first :: pt :: third :: fourth :: rest) sender =
      if IP_PACKET_SIZE ≤ rest.length + 4 + sender.reportBlockCount * 24 then none
      else some ((first + sender.reportBlockNumber) :: pt ::
        (uint16Bytes (UInt16.ofNat ((rest.length + sender.reportBlockCount * 24) / 4)) ++
          (rest ++ sender.allReportBlocksBytes)), sender.withoutInternal) := by
  have size : (first :: pt :: third :: fourth :: rest).length = rest.length + 4 := rfl
  have number := sender.reportBlockNumber_toNat
  rw [reportBlockNumber] at number
  rw [finishReport, writeAllReportBlocksToBuffer, size, if_neg (by omega)]
  simp only [number]
  by_cases long : IP_PACKET_SIZE ≤ rest.length + 4 + sender.reportBlockCount * 24
  · rw [if_pos long, if_pos long]
    rfl
  · rw [if_neg long, if_neg long]
    have written : writeReportBlocksToBuffer (writeReportBlocksToBuffer
        (first :: pt :: third :: fourth :: rest) sender.internalReportBlocks.entries)
          sender.externalReportBlocks.entries =
        first :: pt :: third :: fourth :: (rest ++ sender.allReportBlocksBytes) := by
      rw [writeReportBlocksToBuffer, writeReportBlocksToBuffer, allReportBlocksBytes, append_assoc]
      rfl
    have words : (first :: pt :: third :: fourth ::
        (rest ++ sender.allReportBlocksBytes)).length / 4 - 1 =
          (rest.length + sender.reportBlockCount * 24) / 4 := by
      simp only [length_cons, length_append, allReportBlocksBytes_length]
      omega
    simp only [written, bind_eq_bind, bind_some, Option.pure_def, words]
    rfl

/-- A report with its head, what stands in front of its blocks and the blocks. -/
def reportBytes (pt : UInt8) (rest : Bytes) (sender : RTCPSender) : Bytes :=
  ((0x80 : UInt8) + sender.reportBlockNumber) :: pt ::
    (uint16Bytes (UInt16.ofNat ((rest.length + sender.reportBlockCount * 24) / 4)) ++
      (rest ++ sender.allReportBlocksBytes))

theorem reportBytes_length (pt : UInt8) (rest : Bytes) (sender : RTCPSender) :
    (reportBytes pt rest sender).length = 4 + rest.length + sender.reportBlockCount * 24 := by
  simp only [reportBytes, length_cons, length_append, allReportBlocksBytes_length,
    Bytes.uint16Bytes_length]
  omega

theorem framed_report (pt : UInt8) {rest : Bytes} (sender : RTCPSender)
    (words : 4 ∣ rest.length) (short : rest.length ≤ 24) :
    Framed (reportBytes pt rest sender)
        (wholeBlock (reportBytes pt rest sender) (some sender.reportBlockCount)) ↔
      sender.reportBlockCount ≤ 31 := by
  have bound := sender.reportBlockCount_le
  apply framed_cons.trans
  rw [octetsOfLength_toNat (by omega), UInt8.toNat_add, reportBlockNumber_toNat,
    length_append, allReportBlocksBytes_length, show (128 : UInt8).toNat = 128 from rfl]
  simp only [mem_def, Option.some.injEq, forall_eq']
  omega

theorem Kept.withoutInternal {ready sender : RTCPSender} (kept : Kept ready sender) :
    Kept ready sender.withoutInternal := by
  rcases kept with ⟨records, rfl⟩
  exact ⟨{ records with internalReportBlocks := .empty }, rfl⟩

section Reports

variable (world : SenderWorld) (request : PrepareRequest) (ready : RTCPSender)

def senderReportBytes (time : NtpTime) : Bytes :=
  uint32Bytes ready.ssrc ++ (uint32Bytes time.seconds ++ (uint32Bytes time.fractions ++
    (uint32Bytes (ready.rtpTime request.feedbackState request.timeInMilliseconds) ++
      (uint32Bytes request.feedbackState.packetCountSent ++
        uint32Bytes request.feedbackState.byteCountSent))))

theorem buildSR_empty (time : NtpTime) :
    ready.buildSR world request time .empty =
      if IP_PACKET_SIZE ≤ 28 + ready.reportBlockCount * 24 then
        { value := -1, sender := ready.rememberReport world time
          buffer := RtcpBuffer.empty.append ([0x80, 200, request.memory 2, request.memory 3] ++
            ready.senderReportBytes request time) (some 0) }
      else
        { value := 0, sender := (ready.rememberReport world time).withoutInternal
          buffer := RtcpBuffer.empty.append
            (reportBytes 200 (ready.senderReportBytes request time) ready)
            (some ready.reportBlockCount) } := by
  have notFull : RtcpBuffer.empty.full 52 = false := rfl
  have finished : finishReport RtcpBuffer.empty.position (RtcpBuffer.empty.bytes ++ [0x80, 200,
      request.memory (RtcpBuffer.empty.position + 2), request.memory (RtcpBuffer.empty.position + 3)] ++
      uint32Bytes ready.ssrc ++ uint32Bytes time.seconds ++ uint32Bytes time.fractions ++
      uint32Bytes (ready.rtpTime request.feedbackState request.timeInMilliseconds) ++
      uint32Bytes request.feedbackState.packetCountSent ++
      uint32Bytes request.feedbackState.byteCountSent) (ready.rememberReport world time) =
      if IP_PACKET_SIZE ≤ 28 + ready.reportBlockCount * 24 then none
      else some (reportBytes 200 (ready.senderReportBytes request time) ready,
        (ready.rememberReport world time).withoutInternal) :=
    finishReport_first 0x80 200 _ _ (ready.senderReportBytes request time)
      (ready.rememberReport world time) (show 24 + 28 < 1500 by decide)
  simp only [buildSR, notFull, Bool.false_eq_true, if_false, finished]
  by_cases long : IP_PACKET_SIZE ≤ 28 + ready.reportBlockCount * 24
  · simp only [if_pos long]
    rfl
  · simp only [if_neg long, append_empty]
    rfl

theorem buildRR_empty :
    ready.buildRR request .empty =
      { value := 0, sender := ready.withoutInternal
        buffer := RtcpBuffer.empty.append (reportBytes 201 (uint32Bytes ready.ssrc) ready)
          (some ready.reportBlockCount) } := by
  have notFull : RtcpBuffer.empty.full 32 = false := rfl
  have bound := ready.reportBlockCount_le
  have notLong : ¬ IP_PACKET_SIZE ≤ 8 + ready.reportBlockCount * 24 := by
    rw [IP_PACKET_SIZE]
    omega
  have finished : finishReport RtcpBuffer.empty.position (RtcpBuffer.empty.bytes ++ [0x80, 201,
      request.memory (RtcpBuffer.empty.position + 2), request.memory (RtcpBuffer.empty.position + 3)] ++
      uint32Bytes ready.ssrc) ready =
      if IP_PACKET_SIZE ≤ 8 + ready.reportBlockCount * 24 then none
      else some (reportBytes 201 (uint32Bytes ready.ssrc) ready, ready.withoutInternal) :=
    finishReport_first 0x80 201 _ _ (uint32Bytes ready.ssrc) ready (show 4 + 28 < 1500 by decide)
  simp only [buildRR, notFull, Bool.false_eq_true, if_false, finished, if_neg notLong, append_empty]
  rfl

omit request in
theorem kept_rememberReport (time : NtpTime) : Kept ready (ready.rememberReport world time) :=
  ⟨{ ready.records with
    lastSendReport := ready.lastSendReport.push (midNtp time)
    lastRTCPTime := ready.lastRTCPTime.push (UInt32.ofInt (world.ntpToMs time)) }, rfl⟩

theorem buildSR_outcome (time : NtpTime) :
    Outcome ready ready .empty ready.srPlan (some (ready.buildSR world request time .empty)) := by
  rw [buildSR_empty, srPlan]
  split
  · exact ⟨_, rfl, rfl⟩
  · have hasRoom : RtcpBuffer.empty.position + 52 < IP_PACKET_SIZE := by decide
    have length := reportBytes_length 200 (ready.senderReportBytes request time) ready
    rw [show (ready.senderReportBytes request time).length = 24 from rfl] at length
    rw [Outcome, if_pos hasRoom]
    refine ⟨_, _, _, rfl, (kept_rememberReport world ready time).withoutInternal, length,
      by omega, by omega, ?_⟩
    rw [decide_eq_true_eq]
    exact framed_report 200 ready (show 4 ∣ 24 by decide) (show 24 ≤ 24 from le_rfl)

theorem buildRR_outcome :
    Outcome ready ready .empty ready.rrPlan (some (ready.buildRR request .empty)) := by
  have hasRoom : RtcpBuffer.empty.position + 32 < IP_PACKET_SIZE := by decide
  have length := reportBytes_length 201 (uint32Bytes ready.ssrc) ready
  rw [Bytes.uint32Bytes_length] at length
  rw [buildRR_empty, rrPlan, Outcome, if_pos hasRoom]
  refine ⟨_, _, _, rfl, (kept_refl ready).withoutInternal, length, by omega, by omega, ?_⟩
  rw [decide_eq_true_eq]
  exact framed_report 201 ready (show 4 ∣ 4 by decide) (show 4 ≤ 24 by decide)

end Reports

/-! ## The packet -/

/-- A positive length is that of a well-formed packet. -/
def ReturnsWellFormed (result : Option Built) : Prop :=
  ∀ built, result = some built → 0 < built.value →
    built.value = built.buffer.position ∧ built.buffer.WellFormed

/-- What holds of the buffer between two blocks. -/
structure Begun (buffer : RtcpBuffer) : Prop where
  aligned : 4 ∣ buffer.position
  inside : buffer.Inside
  empty : buffer.position = 0 → buffer.WellFormed

theorem begun_empty : Begun .empty where
  aligned := Nat.dvd_zero 4
  inside := fun _ member => nomatch member
  empty := fun _ => wellFormed_empty

theorem Begun.append {buffer : RtcpBuffer} (begun : Begun buffer) {block : Bytes}
    {items : Option Nat} (headed : 4 ≤ block.length) (words : 4 ∣ block.length) :
    Begun (buffer.append block items) where
  aligned := by
    rw [position_append]
    exact Nat.dvd_add begun.aligned words
  inside := inside_append begun.inside headed items
  empty := fun zero => by
    rw [position_append] at zero
    omega

theorem runStages_cons (stage : Stage) (rest : List Stage) (sender : RTCPSender)
    (buffer : RtcpBuffer) :
    runStages (stage :: rest) sender buffer = (stage.result sender buffer).bind fun built =>
        if built.value = -1 then some built
        else if built.value = -2 then some { built with value := built.buffer.position }
        else runStages rest built.sender built.buffer := by
  rw [runStages, Stage.result]
  split
  · rfl
  · simp

theorem returnsWellFormed_position {sender : RTCPSender} {buffer : RtcpBuffer}
    (begun : Begun buffer) :
    ReturnsWellFormed (some { value := buffer.position, sender, buffer }) ↔ buffer.WellFormed := by
  constructor
  · intro returns
    by_cases zero : buffer.position = 0
    · exact begun.empty zero
    · exact (returns _ rfl (by simp only; omega)).2
  · intro wellFormed built same _
    cases same
    exact ⟨rfl, wellFormed⟩

/-- The packet from a state on is well-formed exactly if it is planned to be. -/
def MeetsPlan (ready : RTCPSender) (stages : List Stage) (plans : List Plan) : Prop :=
  ∀ sender buffer, Kept ready sender → Begun buffer →
    (ReturnsWellFormed (runStages stages sender buffer) ↔ refuses plans buffer.position ∨
        (buffer.WellFormed ∧ Plan.sound plans buffer.position))

theorem meetsPlan_cons {ready sender : RTCPSender} {buffer : RtcpBuffer} {stage : Stage}
    {rest : List Stage} {plan : Plan} {plans : List Plan} (kept : Kept ready sender)
    (begun : Begun buffer)
    (outcome : Outcome ready sender buffer plan (stage.result sender buffer))
    (later : MeetsPlan ready rest plans) :
    ReturnsWellFormed (runStages (stage :: rest) sender buffer) ↔
      refuses (plan :: plans) buffer.position ∨
        (buffer.WellFormed ∧ Plan.sound (plan :: plans) buffer.position) := by
  rw [runStages_cons]
  have stops : ReturnsWellFormed ((some { value := -2, sender, buffer : Built }).bind
      fun built => if built.value = -1 then some built
        else if built.value = -2 then some { built with value := built.buffer.position }
        else runStages rest built.sender built.buffer) ↔ buffer.WellFormed :=
    returnsWellFormed_position begun
  cases plan with
  | nothing =>
    rw [show stage.result sender buffer = _ from outcome]
    exact later sender buffer kept begun
  | refused =>
    rcases outcome with ⟨built, result, value⟩
    rw [result, bind_some, if_pos value]
    apply iff_of_true _ (.inl rfl)
    intro other same positive
    cases same
    rw [value] at positive
    exact absurd positive (by decide)
  | endless room =>
    rw [Outcome] at outcome
    split at outcome
    · rename_i hasRoom
      rw [outcome]
      exact iff_of_true (fun _ absurdity => nomatch absurdity)
        (.inl (decide_eq_true hasRoom))
    · rename_i full
      rw [outcome, stops]
      simp [refuses, Plan.sound, full]
  | block room leftOut size fits =>
    rw [Outcome] at outcome
    split at outcome
    · rename_i hasRoom
      rcases outcome with ⟨next, block, items, result, nextKept, length, headed, words, framed⟩
      rw [result]
      have onwards := later next (buffer.append block items) nextKept (begun.append headed words)
      rw [wellFormed_append begun.inside, position_append, framed, length] at onwards
      change ReturnsWellFormed (runStages rest next (buffer.append block items)) ↔ _
      rw [onwards]
      simp only [refuses, Plan.sound, hasRoom, if_true, Bool.and_eq_true, decide_eq_true_eq]
      tauto
    · rename_i full
      rw [outcome]
      cases leftOut with
      | false =>
        rw [show (if (false : Bool) = true then (0 : Int) else -2) = -2 from rfl, stops]
        simp [refuses, Plan.sound, full]
      | true =>
        have onwards := later sender buffer kept begun
        change ReturnsWellFormed (runStages rest sender buffer) ↔ _
        rw [onwards]
        simp [refuses, Plan.sound, full]

theorem meetsPlan_nil (ready : RTCPSender) : MeetsPlan ready [] [] := by
  intro sender buffer _ begun
  change ReturnsWellFormed (some { value := buffer.position, sender, buffer }) ↔ _
  rw [returnsWellFormed_position begun]
  simp [refuses, Plan.sound]

theorem meetsPlan_of_follows {ready : RTCPSender} {stages : List Stage} {plans : List Plan}
    (follows : List.Forall₂ (Follows ready) stages plans) : MeetsPlan ready stages plans := by
  induction follows with
  | nil => exact meetsPlan_nil ready
  | cons first _ induction =>
    intro sender buffer kept begun
    exact meetsPlan_cons kept begun (first sender buffer kept begun.aligned) induction

section

variable (world : SenderWorld) (request : PrepareRequest) (flags : UInt32) (time : NtpTime)
  (ready : RTCPSender)

theorem feedbackStages_follow :
    List.Forall₂ (Follows ready) (feedbackStages world request flags time)
      (feedbackPlans world request flags ready) := by
  rw [feedbackStages, feedbackPlans]
  repeat' apply List.Forall₂.cons
  all_goals first | apply follows_onlyIf | exact List.Forall₂.nil
  all_goals intro sender buffer kept _
  · exact buildExtendedJitterReport_outcome kept 0
  · exact buildPLI_outcome kept
  · exact buildFIR_outcome kept request.repeatFir
  · exact buildSLI_outcome kept request.pictureID.toUInt8
  · exact buildRPSIFor_outcome kept request
  · exact buildREMB_outcome kept
  · exact buildBYE_outcome kept
  · exact buildAPP_outcome kept
  · exact buildTMMBR_outcome kept world request
  · exact buildTMMBN_outcome kept
  · exact buildNACK_outcome kept request
  · exact buildVoIPMetric_outcome kept
  · exact buildReceiverReferenceTime_outcome kept world time
  · exact buildDlrr_outcome kept request.feedbackState.lastXrRr

theorem meetsPlan_sdec {ready : RTCPSender} {stages : List Stage} {plans : List Plan}
    (follows : List.Forall₂ (Follows ready) stages plans) :
    MeetsPlan ready
        ({ wanted := true, build := fun sender buffer => some (sender.buildSDEC buffer) } :: stages)
        (ready.sdecPlan false :: plans) :=
  meetsPlan_of_follows
    (.cons (fun _ _ kept aligned => buildSDEC_outcome kept aligned) follows)

theorem prepared_meetsPlan :
    ReturnsWellFormed (runStages (reportStages world request flags time ready ++
        feedbackStages world request flags time) ready .empty) ↔
      refuses (reportPlans flags ready ++ feedbackPlans world request flags ready) 0 ∨
        Plan.sound (reportPlans flags ready ++ feedbackPlans world request flags ready) 0 := by
  have feedback := feedbackStages_follow world request flags time ready
  have empty {stage : Stage} {rest : List Stage} {plan : Plan} {plans : List Plan}
      (outcome : Outcome ready ready .empty plan (stage.result ready .empty))
      (later : MeetsPlan ready rest plans) :
      ReturnsWellFormed (runStages (stage :: rest) ready .empty) ↔
        refuses (plan :: plans) 0 ∨ Plan.sound (plan :: plans) 0 := by
    rw [meetsPlan_cons (kept_refl ready) begun_empty outcome later]
    simp [wellFormed_empty]
  rw [reportStages, reportPlans]
  split
  · exact empty (buildSR_outcome world request ready time) (meetsPlan_sdec feedback)
  · apply empty
    · cases has kRtcpRr flags with
      | true => exact buildRR_outcome request ready
      | false => rfl
    · apply meetsPlan_of_follows
      refine .cons (follows_onlyIf ?_) feedback
      exact fun sender buffer kept aligned => (buildSDEC_outcome kept aligned).leftOut

end

/-- `PrepareRTCP` writes a well-formed packet whenever it returns a positive length, exactly if
one of its blocks is refused, or all blocks that it begins fit into their fields and into the
buffer. -/
theorem prepareRTCP_wellFormed_iff (world : SenderWorld) (request : PrepareRequest)
    (sender : RTCPSender) :
    (∀ built, sender.prepareRTCP world request = some built → 0 < built.value →
        built.value = built.buffer.position ∧ built.buffer.WellFormed) ↔
      refuses (sender.plans world request) 0 ∨ Plan.sound (sender.plans world request) 0 :=
  prepared_meetsPlan world request (sender.prepared world request).1
    (sender.prepared world request).2.1 (sender.prepared world request).2.2

/-- A world with time in whole milliseconds and without bounding sets. -/
def sampleWorld : SenderWorld where
  ntpToMs time := 1000 * time.seconds.toNat + (1000 * time.fractions.toNat + 2 ^ 31) / 2 ^ 32
  findTMMBRBoundingSet _ := (0, [])

def sampleRequest : PrepareRequest where
  feedbackState := .empty
  packetTypeFlags := kRtcpReport
  nackList := []
  repeatFir := false
  pictureID := 0
  random := 0
  timeInMilliseconds := 0
  currentNtp := { seconds := 1, fractions := 0 }
  statisticians := []
  memory _ := 0

def mixingSender : RTCPSender :=
  [1, 2, 3, 4, 5, 6].foldl
    (fun sender ssrc => sender.addMixedCNAME ssrc (List.replicate 255 0x61))
    { (create true).setCNAME [0x61] with method := .kRtcpCompound, sending := true }

/-- The source descriptions run over the end of the buffer. -/
theorem not_prepareRTCP_wellFormed_mixingSender :
    ¬ ∀ built, mixingSender.prepareRTCP sampleWorld sampleRequest = some built →
      0 < built.value → built.value = built.buffer.position ∧ built.buffer.WellFormed := by
  intro wellFormed
  have planned := (prepared_meetsPlan sampleWorld sampleRequest
    (mixingSender.prepared sampleWorld sampleRequest).1
    (mixingSender.prepared sampleWorld sampleRequest).2.1
    (mixingSender.prepared sampleWorld sampleRequest).2.2).mp wellFormed
  revert planned
  decide +kernel

/-- The iterator of the receiver visits the blocks of a packet that `PrepareRTCP` returns where they
were begun. -/
theorem visited_prepareRTCP {world : SenderWorld} {request : PrepareRequest} {sender : RTCPSender}
    (sound : refuses (sender.plans world request) 0 ∨ Plan.sound (sender.plans world request) 0)
    {built : Built} (prepared : sender.prepareRTCP world request = some built)
    (written : 0 < built.value) :
    built.value = built.buffer.position ∧ ∀ iterator : RTCPPacketIterator,
      iterator.visited built.buffer.bytes = some (built.buffer.blocks.map WrittenBlock.start) := by
  have wellFormed := (prepared_meetsPlan world request (sender.prepared world request).1
    (sender.prepared world request).2.1 (sender.prepared world request).2.2).mpr sound
  rcases wellFormed built prepared written with ⟨length, -, chained⟩
  refine ⟨length, fun iterator => ?_⟩
  rw [RTCPPacketIterator.visited_blocks]
  exact congrArg some ((blocks_blocks _).unique chained.blocks)

def reportingSender : RTCPSender :=
  { (create true).setCNAME [0x61] with method := .kRtcpCompound, sending := true }

theorem visited_prepareRTCP_reportingSender :
    let built := (reportingSender.prepareRTCP sampleWorld sampleRequest).get (by decide +kernel)
    built.value = built.buffer.position ∧ ∀ iterator : RTCPPacketIterator,
      iterator.visited built.buffer.bytes = some (built.buffer.blocks.map WrittenBlock.start) :=
  visited_prepareRTCP (.inr (by decide +kernel)) (Option.some_get _).symm (by decide +kernel)

end ZyWebRtc.Rtcp.RTCPSender
