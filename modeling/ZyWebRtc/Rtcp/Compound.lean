import ZyWebRtc.Rtcp.Blocks
import ZyWebRtc.Rtcp.PrepareRTCP

namespace ZyWebRtc.Rtcp

/-! What makes the packets of `PrepareRTCP` well-formed: every block begins with a header that
leads to its end and counts its items. -/

open List

open Bytes (uint16Bytes uint32Bytes)

/-- The header of a block leads to its end, announces no padding and counts its items. -/
def Framed (bytes : Bytes) (block : WrittenBlock) : Prop :=
  ∃ header, rtcpParseCommonHeader bytes block.start = some (some header) ∧ header.p = false ∧
    block.start + header.lengthInOctets.toNat = block.stop ∧
    ∀ items ∈ block.items, header.ic.toNat = items

def Chained (bytes : Bytes) : (offset : Nat) → List WrittenBlock → Prop
  | offset, [] => offset = bytes.length
  | offset, block :: rest => block.start = offset ∧ Framed bytes block ∧
      Chained bytes block.stop rest

/-- What has been written lies in the buffer and is a chain of blocks. -/
structure RtcpBuffer.WellFormed (buffer : RtcpBuffer) : Prop where
  inside : buffer.position ≤ IP_PACKET_SIZE
  chained : Chained buffer.bytes 0 buffer.blocks

def wholeBlock (bytes : Bytes) (items : Option Nat) : WrittenBlock :=
  { start := 0, stop := bytes.length, items }

/-! ## Headers -/

theorem rtcpParseCommonHeader_cons (first pt : UInt8) (length : UInt16) (rest : Bytes) :
    rtcpParseCommonHeader (first :: pt :: (uint16Bytes length ++ rest)) 0 =
      if octetsOfLength length = 0 then some none
      else if first >>> 6 ≠ 2 then some none
      else some (some {
        v := first >>> 6
        p := first &&& 0x20 ≠ 0
        ic := first &&& 0x1f
        pt
        lengthInOctets := octetsOfLength length }) := by
  have word : Bytes.uint16At (first :: pt :: (uint16Bytes length ++ rest)) 2 = some length :=
    (Bytes.uint16At_append [first, pt] (uint16Bytes length ++ rest) 0).trans
      (Bytes.uint16At_uint16Bytes length rest)
  rw [rtcpParseCommonHeader, if_neg (by simp), Nat.zero_add, Nat.zero_add, word]
  simp only [Bytes.byteAt, List.getElem?_cons_zero, List.getElem?_cons_succ, Option.bind_eq_bind,
    Option.bind_some, Option.pure_def]

theorem plainHeader_iff (first : UInt8) :
    (first >>> 6 = 2 ∧ first &&& 0x20 = 0) ↔ 128 ≤ first.toNat ∧ first.toNat < 160 := by
  have all : ∀ n : Fin 256, (UInt8.ofFin n >>> 6 = 2 ∧ UInt8.ofFin n &&& 0x20 = 0) ↔
      128 ≤ n.val ∧ n.val < 160 := by decide +kernel
  exact all first.toFin

theorem plainHeader_count {first : UInt8} (plain : 128 ≤ first.toNat ∧ first.toNat < 160) :
    (first &&& 0x1f).toNat = first.toNat - 128 := by
  have masked : (first &&& 0x1f).toNat = first.toNat % 2 ^ 5 := by
    rw [UInt8.toNat_and, show (0x1f : UInt8).toNat = 2 ^ 5 - 1 from rfl,
      Nat.and_two_pow_sub_one_eq_mod]
  omega

theorem framed_cons {first pt : UInt8} {length : UInt16} {rest : Bytes} {items : Option Nat} :
    Framed (first :: pt :: (uint16Bytes length ++ rest))
        (wholeBlock (first :: pt :: (uint16Bytes length ++ rest)) items) ↔
      (128 ≤ first.toNat ∧ first.toNat < 160) ∧ (octetsOfLength length).toNat = rest.length + 4 ∧
        ∀ count ∈ items, first.toNat = 128 + count := by
  have size : (first :: pt :: (uint16Bytes length ++ rest)).length = rest.length + 4 := by
    simp only [length_cons, length_append, Bytes.uint16Bytes_length]
    omega
  rw [Framed, wholeBlock, size, rtcpParseCommonHeader_cons]
  constructor
  · rintro ⟨header, parsed, unpadded, leads, counts⟩
    split at parsed
    · cases parsed
    split at parsed
    · cases parsed
    rename_i version
    simp only [Option.some.injEq] at parsed
    subst parsed
    simp only [ne_eq, decide_not, Bool.not_eq_eq_eq_not, Bool.not_false, decide_eq_true_eq,
      Nat.zero_add] at unpadded leads counts
    have plain := (plainHeader_iff first).mp ⟨not_not.mp version, unpadded⟩
    refine ⟨plain, leads, fun count member => ?_⟩
    have counted := counts count member
    rw [plainHeader_count plain] at counted
    omega
  · rintro ⟨plain, leads, counts⟩
    rcases (plainHeader_iff first).mpr plain with ⟨version, unpadded⟩
    have nonzero : octetsOfLength length ≠ 0 := by
      intro zero
      rw [zero] at leads
      exact absurd leads (by simp)
    rw [if_neg nonzero, if_neg (not_not.mpr version)]
    refine ⟨_, rfl, by simp [unpadded], by simpa using leads, fun count member => ?_⟩
    have counted := counts count member
    simp only
    rw [plainHeader_count plain]
    omega

theorem rtcpParseCommonHeader_append (front back : Bytes) (offset : Nat) :
    rtcpParseCommonHeader (front ++ back) (front.length + offset) =
      rtcpParseCommonHeader back offset := by
  simp only [rtcpParseCommonHeader, length_append, Nat.add_assoc,
    Nat.add_lt_add_iff_left, Bytes.byteAt_append, Bytes.uint16At_append]

theorem rtcpParseCommonHeader_left {front : Bytes} (back : Bytes) {offset : Nat}
    (inside : offset + 4 ≤ front.length) :
    rtcpParseCommonHeader (front ++ back) offset = rtcpParseCommonHeader front offset := by
  have byte (index : Nat) (before : index < front.length) :
      (front ++ back).byteAt index = front.byteAt index := List.getElem?_append_left before
  have word : (front ++ back).uint16At (offset + 2) = front.uint16At (offset + 2) := by
    rw [Bytes.uint16At, Bytes.uint16At, byte _ (by omega), byte _ (by omega)]
  have more : ¬ (front ++ back).length < offset + 4 := by
    rw [length_append]
    omega
  rw [rtcpParseCommonHeader, rtcpParseCommonHeader, if_neg more,
    if_neg (Nat.not_lt.mpr inside), byte _ (by omega), byte _ (by omega), word]

theorem framed_append (front body : Bytes) (items : Option Nat) :
    Framed (front ++ body)
        { start := front.length, stop := front.length + body.length, items } ↔
      Framed body (wholeBlock body items) := by
  have parsed := rtcpParseCommonHeader_append front body 0
  rw [Nat.add_zero] at parsed
  simp only [Framed, wholeBlock, parsed, Nat.add_left_cancel_iff, Nat.zero_add]

theorem framed_left {front : Bytes} (back : Bytes) {block : WrittenBlock}
    (inside : block.start + 4 ≤ front.length) :
    Framed (front ++ back) block ↔ Framed front block := by
  rw [Framed, Framed, rtcpParseCommonHeader_left back inside]

/-! ## Chains -/

/-- Every block begins in the bytes that have been written, with its header. -/
def RtcpBuffer.Inside (buffer : RtcpBuffer) : Prop :=
  ∀ block ∈ buffer.blocks, block.start + 4 ≤ buffer.position

theorem chained_append {front : Bytes} (body : Bytes) (items : Option Nat)
    {blocks : List WrittenBlock} :
    ∀ offset, (∀ block ∈ blocks, block.start + 4 ≤ front.length) →
      (Chained (front ++ body) offset (blocks ++
          [{ start := front.length, stop := front.length + body.length, items }]) ↔
        Chained front offset blocks ∧ Framed body (wholeBlock body items)) := by
  induction blocks with
  | nil =>
    intro offset _
    simp only [nil_append, Chained, framed_append, length_append, and_true, eq_comm]
  | cons block rest induction =>
    intro offset inside
    have later := induction block.stop
      fun other member => inside other (mem_cons_of_mem _ member)
    simp only [cons_append, Chained, framed_left body (inside block mem_cons_self),
      later, and_assoc]

theorem RtcpBuffer.wellFormed_append {buffer : RtcpBuffer} (inside : buffer.Inside)
    (block : Bytes) (items : Option Nat) :
    (buffer.append block items).WellFormed ↔
      buffer.WellFormed ∧ buffer.position + block.length ≤ IP_PACKET_SIZE ∧
        Framed block (wholeBlock block items) := by
  have chain := chained_append block items 0 inside
  constructor
  · rintro ⟨fits, chained⟩
    rw [position_append] at fits
    rcases chain.mp chained with ⟨before, framed⟩
    exact ⟨⟨by omega, before⟩, fits, framed⟩
  · rintro ⟨⟨_, before⟩, fits, framed⟩
    exact ⟨by rw [position_append]; exact fits, chain.mpr ⟨before, framed⟩⟩

theorem RtcpBuffer.inside_append {buffer : RtcpBuffer} (inside : buffer.Inside) {block : Bytes}
    (headed : 4 ≤ block.length) (items : Option Nat) : (buffer.append block items).Inside := by
  intro other member
  rw [position_append]
  rcases mem_append.mp member with earlier | last
  · have before := inside other earlier
    omega
  · rw [mem_singleton.mp last]
    exact Nat.add_le_add_left headed buffer.position

theorem Chained.le_length {bytes : Bytes} {blocks : List WrittenBlock} :
    ∀ {offset}, Chained bytes offset blocks → offset ≤ bytes.length := by
  induction blocks with
  | nil => exact fun chained => chained.le
  | cons block rest induction =>
    rintro offset ⟨start, ⟨header, _, _, leads, _⟩, later⟩
    have bound := induction later
    omega

theorem Chained.blocks {bytes : Bytes} {blocks : List WrittenBlock} :
    ∀ {offset}, Chained bytes offset blocks → Blocks bytes offset (blocks.map WrittenBlock.start) := by
  induction blocks with
  | nil =>
    intro offset chained
    have ended : offset = bytes.length := chained
    apply Blocks.none
    apply blockAt_refused
    exact if_pos (by omega)
  | cons block rest induction =>
    rintro offset ⟨start, ⟨header, parsed, _, leads, _⟩, later⟩
    have next := induction later
    have stop_le := later.le_length
    rw [start] at parsed leads
    rw [map_cons, start]
    have found : blockAt bytes offset = some header := by
      rw [blockAt_header parsed, if_neg (by omega)]
    apply Blocks.block found
    rw [leads]
    exact next

theorem RtcpBuffer.wellFormed_empty : RtcpBuffer.empty.WellFormed :=
  ⟨Nat.zero_le _, rfl⟩

end ZyWebRtc.Rtcp
