import ZyWebRtc.Fec.RedReceiver
import ZyWebRtc.Rtp.AcceptedPackets

namespace ZyWebRtc.Fec

/-! What `AddReceivedRedPacket` reads and copies of a packet that `Parse` has accepted. -/

open Option Bytes

open Rtp (RTPHeader RtpHeaderExtensionMap)

/-- A `memcpy` out of the incoming packet. The count is what its arguments say, before it is taken
for an unsigned number. -/
structure Copy where
  source : Nat
  count : Int
  deriving DecidableEq, Repr

namespace Copy

/-- The count is a number of bytes of the packet, and no more than a packet buffer has. -/
structure Safe (incoming : Bytes) (copy : Copy) : Prop where
  nonnegative : 0 ≤ copy.count
  bounded : copy.count ≤ ipPacketSize
  inside : copy.source + copy.count ≤ incoming.length

end Copy

/-- The copies for RED headers that are not corrupt, in the order they are made in. -/
def redCopies (headerLength payloadDataLength : Nat) (isFec : Bool) (red : RedHeader) : List Copy :=
  if 0 < red.blockLength then
    [⟨0, headerLength⟩, ⟨headerLength + 5, red.blockLength.toNat⟩,
      ⟨headerLength + 5 + red.blockLength.toNat,
        (payloadDataLength : Int) - 5 - red.blockLength.toNat⟩]
  else if isFec then
    [⟨headerLength + red.redHeaderLength, (payloadDataLength : Int) - red.redHeaderLength⟩]
  else
    [⟨0, headerLength⟩,
      ⟨headerLength + red.redHeaderLength, (payloadDataLength : Int) - red.redHeaderLength⟩]

section Packet

variable (unset : UInt32) (header : RTPHeader) (incoming : Bytes) (ulpfecPayloadType : UInt8)
  (receivedPacketList : List ReceivedPacket)

def payloadDataLength : UInt16 := UInt16.ofNat incoming.length - header.headerLength

def isFecPacket : Bool :=
  incoming.byteValue header.headerLength.toNat &&& 0x7f = ulpfecPayloadType

/-- All reads and copies of the packet are safe, and nothing is queued when its RED headers are
corrupt. The SSRC is read for an FEC packet. -/
structure ReceivesSafely : Prop where
  firstByte : header.headerLength.toNat < incoming.length
  headers : ∃ red, readRedHeader incoming header.headerLength.toNat
    (payloadDataLength header incoming) = some red
  copies : ∀ red, readRedHeader incoming header.headerLength.toNat
      (payloadDataLength header incoming) = some (some red) →
    ∀ copy ∈ redCopies header.headerLength.toNat (payloadDataLength header incoming).toNat
      (isFecPacket header incoming ulpfecPayloadType) red, copy.Safe incoming
  ssrc : ∃ ssrc, incoming.uint32At 8 = some ssrc
  corrupt : readRedHeader incoming header.headerLength.toNat
      (payloadDataLength header incoming) = some none →
    ∃ code, addReceivedRedPacket unset header incoming ulpfecPayloadType receivedPacketList =
      some (code, receivedPacketList)

def timestampOffset (offset : Nat) : UInt16 := incoming.uint16Value (offset + 1) >>> 2

def redBlockLength (offset : Nat) : UInt16 :=
  ((0x03 &&& incoming.byteValue (offset + 2)).toUInt16 <<< 8) +
    (incoming.byteValue (offset + 3)).toUInt16

/-- One block of `length` bytes with a RED header of `skipped` ones. -/
structure OneBlockFits (headerLength length skipped : Nat) (isFec : Bool) : Prop where
  behindHeader : skipped ≤ length
  bounded : length - skipped ≤ ipPacketSize
  rtpHeader : isFec = false → headerLength ≤ ipPacketSize

/-- Two blocks: behind both RED headers and the first block the second one is left, maybe empty. -/
structure TwoBlocksFit (headerLength length blockLength : Nat) : Prop where
  behindBlock : length ≠ 4 + blockLength
  bounded : length - 5 - blockLength ≤ ipPacketSize
  rtpHeader : headerLength ≤ ipPacketSize

/-- The bytes of the first RED header, and of the second one when it is looked at, are there; and
the blocks fit. -/
def RedFits : Prop :=
  let start := header.headerLength.toNat
  let length := (payloadDataLength header incoming).toNat
  let isFec := isFecPacket header incoming ulpfecPayloadType
  start < incoming.length ∧
    if incoming.byteValue start &&& 0x80 = 0 then OneBlockFits start length 1 isFec
    else
      start + 3 ≤ incoming.length ∧ (timestampOffset incoming start = 0 →
        start + 5 ≤ incoming.length ∧ (incoming.byteValue (start + 4) &&& 0x80 = 0 →
          4 + (redBlockLength incoming start).toNat ≤ length →
            if 0 < redBlockLength incoming start then
              TwoBlocksFit start length (redBlockLength incoming start).toNat
            else OneBlockFits start length 4 isFec))

end Packet

section Headers

variable {incoming : Bytes} {offset : Nat} {payloadLength : UInt16}

theorem readRedHeader_single (inside : offset < incoming.length)
    (last : incoming.byteValue offset &&& 0x80 = 0) :
    readRedHeader incoming offset payloadLength =
      some (some { redHeaderLength := 1, blockLength := 0 }) := by
  rw [readRedHeader, byteAt_inside inside]
  exact if_pos last

theorem readRedHeader_followed (inside : offset < incoming.length)
    (followed : incoming.byteValue offset &&& 0x80 ≠ 0) :
    readRedHeader incoming offset payloadLength = if incoming.length < offset + 3 then none
      else if timestampOffset incoming offset ≠ 0 then some none
      else if incoming.length < offset + 5 then none
      else if incoming.byteValue (offset + 4) &&& 0x80 ≠ 0 then some none
      else if payloadLength.toNat < 4 + (redBlockLength incoming offset).toNat then some none
      else some (some { redHeaderLength := 4, blockLength := redBlockLength incoming offset }) := by
  rw [readRedHeader, byteAt_inside inside]
  simp only [bind_eq_bind, bind_some, if_neg followed]
  by_cases short : incoming.length < offset + 3
  · rw [if_pos short]
    have outside : incoming.uint16At (offset + 1) = none := by
      have low : incoming.byteAt (offset + 1 + 1) = none := byteAt_eq_none_iff.mpr (by omega)
      rw [Bytes.uint16At, low]
      cases incoming.byteAt (offset + 1) <;> rfl
    rw [outside]
    rfl
  rw [if_neg short, uint16At_inside (by omega), bind_some]
  by_cases stale : timestampOffset incoming offset ≠ 0
  · rw [if_pos stale]
    exact if_pos stale
  rw [if_neg stale]
  refine (if_neg stale).trans ?_
  rw [byteAt_inside (show offset + 2 < incoming.length by omega), bind_some]
  by_cases truncated : incoming.length < offset + 5
  · rw [if_pos truncated]
    by_cases third : incoming.length < offset + 4
    · rw [byteAt_eq_none_iff.mpr (by omega)]
      rfl
    · rw [byteAt_inside (show offset + 3 < incoming.length by omega), bind_some,
        byteAt_eq_none_iff.mpr (by omega)]
      rfl
  · rw [if_neg truncated, byteAt_inside (show offset + 3 < incoming.length by omega),
      byteAt_inside (show offset + 4 < incoming.length by omega)]
    simp only [bind_some, Option.pure_def]
    change (if incoming.byteValue (offset + 4) &&& 0x80 ≠ 0 then some none
      else if (payloadLength.toNat : Int) - 4 < (redBlockLength incoming offset).toNat then some none
      else some (some (⟨4, redBlockLength incoming offset⟩ : RedHeader))) = _
    congr 1
    by_cases long : payloadLength.toNat < 4 + (redBlockLength incoming offset).toNat
    · rw [if_pos long, if_pos (by omega)]
    · rw [if_neg long, if_neg (by omega)]

end Headers

section Copies

variable {headerLength length : Nat} {incoming : Bytes} {isFec : Bool}

theorem oneBlock_safe_iff {skipped : Nat} (red : RedHeader)
    (inside : headerLength + length ≤ incoming.length) (skips : red.redHeaderLength = skipped)
    (unsplit : ¬ 0 < red.blockLength) :
    (∀ copy ∈ redCopies headerLength length isFec red, copy.Safe incoming) ↔
      OneBlockFits headerLength length skipped isFec := by
  subst skips
  rw [redCopies, if_neg unsplit]
  cases isFec with
  | true =>
    rw [if_pos rfl, List.forall_mem_singleton]
    constructor
    · rintro ⟨nonnegative, bounded, -⟩
      dsimp only at nonnegative bounded
      exact ⟨by omega, by omega, fun isFec => by cases isFec⟩
    · rintro ⟨behindHeader, bounded, -⟩
      constructor <;> dsimp only <;> omega
  | false =>
    rw [if_neg (by decide), List.forall_mem_cons, List.forall_mem_singleton]
    constructor
    · rintro ⟨⟨-, rtpHeader, -⟩, nonnegative, bounded, -⟩
      dsimp only at rtpHeader nonnegative bounded
      exact ⟨by omega, by omega, fun _ => by omega⟩
    · rintro ⟨behindHeader, bounded, rtpHeader⟩
      have headerFits := rtpHeader rfl
      constructor <;> constructor <;> dsimp only <;> omega

theorem twoBlocks_safe_iff (isFec : Bool) (red : RedHeader)
    (inside : headerLength + length ≤ incoming.length)
    (accepted : 4 + red.blockLength.toNat ≤ length) (short : red.blockLength.toNat ≤ ipPacketSize)
    (split : 0 < red.blockLength) :
    (∀ copy ∈ redCopies headerLength length isFec red, copy.Safe incoming) ↔
      TwoBlocksFit headerLength length red.blockLength.toNat := by
  rw [redCopies, if_pos split, List.forall_mem_cons, List.forall_mem_cons,
    List.forall_mem_singleton]
  constructor
  · rintro ⟨⟨-, rtpHeader, -⟩, -, nonnegative, bounded, -⟩
    dsimp only at rtpHeader nonnegative bounded
    exact ⟨by omega, by omega, by omega⟩
  · rintro ⟨behindBlock, bounded, rtpHeader⟩
    refine ⟨?_, ?_, ?_⟩ <;> constructor <;> dsimp only <;> omega

theorem redBlockLength_le (offset : Nat) :
    (redBlockLength incoming offset).toNat ≤ ipPacketSize := by
  have high : (0x03 &&& incoming.byteValue (offset + 2)).toNat ≤ 3 := by
    rw [UInt8.toNat_and]
    exact Nat.and_le_left
  have low := (incoming.byteValue (offset + 3)).toNat_lt
  rw [redBlockLength, UInt16.toNat_add, UInt16.toNat_shiftLeft, UInt8.toNat_toUInt16,
    UInt8.toNat_toUInt16, ipPacketSize, show (8 : UInt16).toNat % 16 = 8 from rfl,
    Nat.shiftLeft_eq]
  omega

end Copies

/-! ## Which packets are safe -/

section Accepted

variable {unset : UInt32} {header : RTPHeader} {incoming : Bytes} {ulpfecPayloadType : UInt8}
  {receivedPacketList : List ReceivedPacket}

theorem addReceivedRedPacket_corrupt (inside : header.headerLength.toNat < incoming.length)
    (corrupt : readRedHeader incoming header.headerLength.toNat
      (payloadDataLength header incoming) = some none) :
    addReceivedRedPacket unset header incoming ulpfecPayloadType receivedPacketList =
      some (-1, receivedPacketList) := by
  rw [payloadDataLength] at corrupt
  rw [addReceivedRedPacket, byteAt_inside inside]
  simp only [bind_eq_bind, bind_some, corrupt]
  rfl

theorem receivesSafely_iff_copies (fixed : 12 ≤ incoming.length)
    (inside : header.headerLength.toNat < incoming.length) :
    ReceivesSafely unset header incoming ulpfecPayloadType receivedPacketList ↔
      ∃ result, readRedHeader incoming header.headerLength.toNat
          (payloadDataLength header incoming) = some result ∧
        ∀ red ∈ result, ∀ copy ∈ redCopies header.headerLength.toNat
          (payloadDataLength header incoming).toNat
          (isFecPacket header incoming ulpfecPayloadType) red, copy.Safe incoming := by
  constructor
  · intro safe
    rcases safe.headers with ⟨result, read⟩
    exact ⟨result, read, fun red found => safe.copies red (read.trans (congrArg some found))⟩
  · rintro ⟨result, read, copies⟩
    refine ⟨inside, ⟨result, read⟩, fun red found => copies red ?_,
      exists_uint32At (by omega), fun corrupt => ⟨-1, addReceivedRedPacket_corrupt inside corrupt⟩⟩
    exact Option.some.inj (read.symm.trans found)

theorem payloadDataLength_le (within : header.headerLength.toNat ≤ incoming.length) :
    header.headerLength.toNat + (payloadDataLength header incoming).toNat ≤ incoming.length := by
  have bound := header.headerLength.toNat_lt
  rw [payloadDataLength, UInt16.toNat_sub, UInt16.toNat_ofNat']
  omega

/-- A packet that `Parse` accepts is received safely exactly when its RED headers and blocks fit
into it and into the buffers of the queued packets. -/
theorem receivesSafely_iff {extensionMap : Option RtpHeaderExtensionMap} {initial : RTPHeader}
    (accepted : Rtp.parse incoming extensionMap initial = some (true, header)) :
    ReceivesSafely unset header incoming ulpfecPayloadType receivedPacketList ↔
      RedFits header incoming ulpfecPayloadType := by
  rcases Rtp.accepted_of_parse accepted with ⟨valid, parsedLength⟩
  have fixed : 12 ≤ incoming.length := valid.minLength
  have within : header.headerLength.toNat ≤ incoming.length := by
    have inside := valid.inside
    omega
  have payloadInside := payloadDataLength_le within
  rw [RedFits]
  by_cases inside : header.headerLength.toNat < incoming.length
  case neg => exact iff_of_false (fun safe => inside safe.firstByte) fun fits => inside fits.1
  rw [receivesSafely_iff_copies fixed inside, and_iff_right inside]
  by_cases last : incoming.byteValue header.headerLength.toNat &&& 0x80 = 0
  · rw [if_pos last, readRedHeader_single inside last]
    rw [← oneBlock_safe_iff { redHeaderLength := 1, blockLength := 0 } payloadInside rfl
      (by decide)]
    simp
  rw [if_neg last, readRedHeader_followed inside last]
  by_cases short : incoming.length < header.headerLength.toNat + 3
  · rw [if_pos short]
    exact iff_of_false (by simp) fun fits => by omega
  rw [if_neg short, and_iff_right (Nat.not_lt.mp short)]
  by_cases stale : timestampOffset incoming header.headerLength.toNat ≠ 0
  · rw [if_pos stale]
    exact iff_of_true ⟨_, rfl, by simp⟩ fun zero => absurd zero stale
  rw [if_neg stale, forall_prop_of_true (not_not.mp stale)]
  by_cases truncated : incoming.length < header.headerLength.toNat + 5
  · rw [if_pos truncated]
    exact iff_of_false (by simp) fun fits => by omega
  rw [if_neg truncated, and_iff_right (Nat.not_lt.mp truncated)]
  by_cases third : incoming.byteValue (header.headerLength.toNat + 4) &&& 0x80 ≠ 0
  · rw [if_pos third]
    exact iff_of_true ⟨_, rfl, by simp⟩ fun zero => absurd zero third
  rw [if_neg third, forall_prop_of_true (not_not.mp third)]
  by_cases long : (payloadDataLength header incoming).toNat <
      4 + (redBlockLength incoming header.headerLength.toNat).toNat
  · rw [if_pos long]
    exact iff_of_true ⟨_, rfl, by simp⟩ fun fits => absurd long (Nat.not_lt.mpr fits)
  rw [if_neg long, forall_prop_of_true (Nat.not_lt.mp long)]
  by_cases split : 0 < redBlockLength incoming header.headerLength.toNat
  · rw [if_pos split, ← twoBlocks_safe_iff (isFecPacket header incoming ulpfecPayloadType)
      ⟨4, redBlockLength incoming header.headerLength.toNat⟩ payloadInside (Nat.not_lt.mp long)
        (redBlockLength_le _) split]
    simp
  · rw [if_neg split, ← oneBlock_safe_iff ⟨4, redBlockLength incoming header.headerLength.toNat⟩
      payloadInside rfl split]
    simp

end Accepted

def oneBytePacket : Bytes := [0x80, 116, 0, 5, 0, 0, 0, 0, 0, 0, 0, 7, 96, 1]

theorem receivesSafely_oneBytePacket : ∃ header,
    Rtp.parse oneBytePacket none Rtp.unsetHeader = some (true, header) ∧
      ReceivesSafely 0 header oneBytePacket 97 [] := by
  have parsed : ∃ header, Rtp.parse oneBytePacket none Rtp.unsetHeader = some (true, header) ∧
      header.headerLength = 12 := ⟨_, rfl, rfl⟩
  rcases parsed with ⟨header, accepted, headerLength⟩
  refine ⟨header, accepted, (receivesSafely_iff accepted).mpr ?_⟩
  rw [RedFits, isFecPacket, payloadDataLength, headerLength]
  refine ⟨by decide, ?_⟩
  rw [if_pos (by decide)]
  exact ⟨by decide, by decide, fun _ => by decide⟩

/-- Two RED headers, and a first block of one byte that is not there. -/
def missingBlockPacket : Bytes :=
  [0x80, 116, 0, 5, 0, 0, 0, 0, 0, 0, 0, 7, 0x80 ||| 96, 0, 0, 1, 97]

/-- The length check leaves room for one RED header only: the second block has the length -1. -/
theorem not_receivesSafely_missingBlockPacket :
    ¬ ∀ (unset : UInt32) (header initial : RTPHeader) (incoming : Bytes)
        (extensionMap : Option RtpHeaderExtensionMap) (ulpfecPayloadType : UInt8)
        (receivedPacketList : List ReceivedPacket),
      Rtp.parse incoming extensionMap initial = some (true, header) →
        ReceivesSafely unset header incoming ulpfecPayloadType receivedPacketList := by
  intro always
  have safe := always 0 _ Rtp.unsetHeader missingBlockPacket none 97 [] rfl
  have negative := (safe.copies ⟨4, 1⟩ (by decide) ⟨18, -1⟩ (by decide)).nonnegative
  exact absurd negative (by decide)

/-! ## Safety and the buffers -/

section Buffers

variable {unset : UInt32} {header : RTPHeader} {incoming : Bytes} {ulpfecPayloadType : UInt8}
  {receivedPacketList : List ReceivedPacket}

end Buffers

end ZyWebRtc.Fec
