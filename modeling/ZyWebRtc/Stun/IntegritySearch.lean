import ZyWebRtc.Stun.Layout

namespace ZyWebRtc.Stun

/-! Which byte strings `ValidateMessageIntegrity` accepts. Its loop walks over the records in
front of the first MESSAGE-INTEGRITY; what it compares afterwards is the HMAC the claim on the
message asks for, except where the attribute is cut off by the end of the message. -/

open List ByteBuffer Bytes

theorem uint16At_drop (data : Bytes) (offset : Nat) :
    uint16At (data.drop offset) 0 = data.uint16At offset := by
  simp only [uint16At, byteAt, List.getElem?_drop, Nat.add_zero, Nat.zero_add]

theorem drop_of_uint16At {data : Bytes} {offset : Nat} {word : UInt16}
    (read : data.uint16At offset = some word) :
    data.drop offset = uint16Bytes word ++ data.drop (offset + 2) := by
  have front : readUInt16 (data.drop offset) = some (word, (data.drop offset).drop 2) := by
    rw [readUInt16, uint16At_drop, read]
    rfl
  rw [← drop_drop]
  exact readUInt16_eq_some.mp front

theorem uint16At_behind (front back : Bytes) (word : UInt16) :
    (front ++ (uint16Bytes word ++ back)).uint16At front.length = some word := by
  rw [← uint16At_drop, drop_left, uint16At_uint16Bytes]

theorem setLength_of_uint16At {bytes : Bytes} {length : UInt16}
    (read : bytes.uint16At 2 = some length) : setLength bytes length = bytes := by
  have split := drop_of_uint16At read
  rw [setLength, ← split, take_append_drop]

theorem uint16At_two_append {head : Bytes} (isHeader : head.length = 20) (rest : Bytes) :
    (head ++ rest).uint16At 2 = head.uint16At 2 := by
  simp only [uint16At, byteAt]
  rw [List.getElem?_append_left (by omega), List.getElem?_append_left (by omega)]

/-! ## The walk over the records -/

namespace Record

theorem bytes_length (record : Record) :
    record.bytes.length = 4 + paddedLength record.value.length := by
  have padded := record.padded
  have atLeast := le_paddedLength record.value.length
  simp only [bytes, length_append, uint16Bytes_length]
  omega

end Record

def NoIntegrity (records : List Record) : Prop :=
  ∀ record ∈ records, record.type ≠ STUN_ATTR_MESSAGE_INTEGRITY

theorem searchMessageIntegrity_record (front tail : Bytes) (record : Record) {size : Nat}
    (different : record.type ≠ STUN_ATTR_MESSAGE_INTEGRITY) (inside : front.length < size) :
    searchMessageIntegrity (front ++ (record.bytes ++ tail)) size front.length =
      searchMessageIntegrity (front ++ (record.bytes ++ tail)) size
        (front.length + record.bytes.length) := by
  have typeAt : (front ++ (record.bytes ++ tail)).uint16At front.length = some record.type := by
    rw [Record.bytes, append_assoc]
    exact uint16At_behind _ _ _
  have lengthAt : (front ++ (record.bytes ++ tail)).uint16At (front.length + 2) =
      some record.declared := by
    have behind := uint16At_behind (front ++ uint16Bytes record.type)
      (record.value ++ record.padding ++ tail) record.declared
    rw [length_append, uint16Bytes_length] at behind
    rw [← behind, Record.bytes]
    simp only [append_assoc]
  rw [searchMessageIntegrity, if_neg (Nat.not_le.mpr inside), typeAt, lengthAt]
  simp only [different, if_false]
  rw [record.declared_toNat, record.bytes_length, Nat.add_assoc]

theorem searchMessageIntegrity_records (tail : Bytes) {size : Nat} (records : List Record) :
    ∀ front : Bytes, NoIntegrity records →
      front.length + (records.flatMap Record.bytes).length ≤ size →
      searchMessageIntegrity (front ++ (records.flatMap Record.bytes ++ tail)) size front.length =
        searchMessageIntegrity (front ++ (records.flatMap Record.bytes ++ tail)) size
          (front.length + (records.flatMap Record.bytes).length) := by
  induction records with
  | nil => exact fun front _ _ => rfl
  | cons record records induction =>
    intro front different inside
    rw [flatMap_cons, length_append] at inside ⊢
    have own := record.bytes_length
    have head := searchMessageIntegrity_record front (records.flatMap Record.bytes ++ tail)
      record (different record mem_cons_self) (show front.length < size by omega)
    have rest := induction (front ++ record.bytes)
      (fun other member => different other (mem_cons_of_mem _ member))
      (by rw [length_append]; omega)
    rw [length_append, append_assoc] at rest
    rw [append_assoc, head, rest, Nat.add_assoc]

theorem searchMessageIntegrity_found (front tail : Bytes) (attrLength : UInt16) {size : Nat}
    (inside : front.length < size) :
    searchMessageIntegrity (front ++ (uint16Bytes STUN_ATTR_MESSAGE_INTEGRITY ++
        (uint16Bytes attrLength ++ tail))) size front.length =
      if attrLength.toNat ≠ kStunMessageIntegritySize ∨ size < front.length + attrLength.toNat then
        some none
      else some (some front.length) := by
  have lengthAt : (front ++ (uint16Bytes STUN_ATTR_MESSAGE_INTEGRITY ++
      (uint16Bytes attrLength ++ tail))).uint16At (front.length + 2) = some attrLength := by
    have behind := uint16At_behind (front ++ uint16Bytes STUN_ATTR_MESSAGE_INTEGRITY) tail
      attrLength
    rw [length_append, uint16Bytes_length, append_assoc] at behind
    exact behind
  rw [searchMessageIntegrity, if_neg (Nat.not_le.mpr inside), uint16At_behind, lengthAt]
  simp only [if_true]

/-- Where the loop stops, it has passed over records of other types. -/
theorem searchMessageIntegrity_eq_found {memory : Bytes} {size : Nat}
    (allocated : size ≤ memory.length) : ∀ pos miPos,
    searchMessageIntegrity memory size pos = some (some miPos) → pos ≤ miPos ∧ miPos + 20 ≤ size ∧
        memory.uint16At miPos = some STUN_ATTR_MESSAGE_INTEGRITY ∧
        memory.uint16At (miPos + 2) = some 20 ∧
        ∃ records, NoIntegrity records ∧
          (memory.drop pos).take (miPos - pos) = records.flatMap Record.bytes := by
  intro pos
  induction left : size - pos using Nat.strong_induction_on generalizing pos with
  | _ left induction =>
    intro miPos found
    rw [searchMessageIntegrity] at found
    split at found
    · cases found
    · rename_i notEnd
      split at found
      · rename_i attrType attrLength typeAt lengthAt
        split at found
        · rename_i isIntegrity
          split at found
          · cases found
          · rename_i legal
            simp only [kStunMessageIntegritySize, not_or, not_not, Nat.not_lt] at legal
            cases found
            have isTwenty : attrLength = 20 := UInt16.toNat_inj.mp legal.1
            rw [isTwenty] at lengthAt
            rw [isIntegrity] at typeAt
            exact ⟨Nat.le_refl _, by omega, typeAt, lengthAt, [],
              fun _ member => absurd member (by simp), by simp⟩
        · rename_i different
          have further := induction _ (by omega) _ rfl miPos found
          rcases further with ⟨behind, inside, typeFound, lengthFound, records, noIntegrity, taken⟩
          have atLeast := le_paddedLength attrLength.toNat
          have bound := attrLength.toNat_lt
          have valueLength : ((memory.drop (pos + 4)).take attrLength.toNat).length =
              attrLength.toNat := by
            rw [length_take, length_drop]
            omega
          let record : Record := {
            type := attrType
            value := (memory.drop (pos + 4)).take attrLength.toNat
            padding := (memory.drop (pos + 4 + attrLength.toNat)).take
              (paddedLength attrLength.toNat - attrLength.toNat)
            short := by rw [valueLength]; exact bound
            padded := by
              rw [valueLength, length_take, length_drop]
              omega }
          have declared : record.declared = attrLength := by
            apply UInt16.toNat_inj.mp
            rw [record.declared_toNat]
            exact valueLength
          have head : (memory.drop pos).take (4 + paddedLength attrLength.toNat) =
              record.bytes := by
            rw [drop_of_uint16At typeAt, drop_of_uint16At lengthAt, Record.bytes, declared]
            change ([_, _, _, _] ++ _).take _ = [_, _, _, _] ++ _
            rw [take_append, take_of_length_le (by simp), length_cons,
              length_cons, length_cons, length_cons, length_nil,
              Nat.add_sub_cancel_left]
            congr 1
            have whole : paddedLength attrLength.toNat = attrLength.toNat +
                (paddedLength attrLength.toNat - attrLength.toNat) := by omega
            rw [whole, take_add, drop_drop]
          refine ⟨by omega, inside, typeFound, lengthFound, record :: records, ?_, ?_⟩
          · intro other member
            rcases mem_cons.mp member with rfl | member
            · exact different
            · exact noIntegrity other member
          · have split : miPos - pos = 4 + paddedLength attrLength.toNat +
                (miPos - (pos + 4 + paddedLength attrLength.toNat)) := by omega
            rw [split, take_add, head, drop_drop, flatMap_cons, ← taken, Nat.add_assoc pos]
      · cases found

end ZyWebRtc.Stun
