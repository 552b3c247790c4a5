import ZyWebRtc.Stun.IntegritySearch

namespace ZyWebRtc.Stun

/-! The two sides of MESSAGE-INTEGRITY and FINGERPRINT agree: what is added when a message is
built is what the checks of the written bytes accept, and what they accept is the HMAC of the
bytes in front of the first MESSAGE-INTEGRITY. -/

open List Option ByteBuffer Bytes

/-! ## What the check compares -/

/-- The first MESSAGE-INTEGRITY of the byte string holds the HMAC of the bytes in front of it,
with the length field of a message that ends with it. -/
def HoldsIntegrity (hmac : Hmac) (data password : Bytes) : Prop :=
  ∃ (head : Bytes) (records : List Record) (tag behind : Bytes),
    head.length = 20 ∧ NoIntegrity records ∧ data = head ++ (records.flatMap Record.bytes ++
        (uint16Bytes STUN_ATTR_MESSAGE_INTEGRITY ++ (uint16Bytes 20 ++ (tag ++ behind)))) ∧
      tag = (hmac password (setLength (head ++ records.flatMap Record.bytes)
        (UInt16.ofNat ((records.flatMap Record.bytes).length + 24)))).val

/-- The header of the first MESSAGE-INTEGRITY stands twenty bytes in front of the end, so that
four of its own twenty bytes are missing. -/
def TruncatedIntegrity (data : Bytes) : Prop :=
  ∃ (head : Bytes) (records : List Record) (stub : Bytes) (msgLength : UInt16),
    head.length = 20 ∧ NoIntegrity records ∧ stub.length = 16 ∧
      data = head ++ (records.flatMap Record.bytes ++
        (uint16Bytes STUN_ATTR_MESSAGE_INTEGRITY ++ (uint16Bytes 20 ++ stub))) ∧
      head.uint16At 2 = some msgLength ∧ data.length = msgLength.toNat + 20

/-- Whatever is accepted, with whatever key and HMAC and whatever stands behind it in memory,
holds the HMAC. -/
def AcceptsOnlyIntegrity (data : Bytes) : Prop :=
  ∀ hmac beyond password, validateMessageIntegrity hmac data beyond password = some true →
    HoldsIntegrity hmac data password

theorem validateMessageIntegrity_eq_true {hmac : Hmac} {data beyond password : Bytes}
    (accepted : validateMessageIntegrity hmac data beyond password = some true) :
    data.length % 4 = 0 ∧ ∃ msgLength miPos, (data ++ beyond).uint16At 2 = some msgLength ∧
      data.length = msgLength.toNat + 20 ∧
      searchMessageIntegrity (data ++ beyond) data.length 20 = some (some miPos) ∧
      (data ++ beyond).bytesAt (miPos + 4) 20 =
        some (hmac password (hmacInput (data ++ beyond) data.length miPos)).val := by
  unfold validateMessageIntegrity at accepted
  by_cases whole : data.length % 4 ≠ 0
  · simp [whole] at accepted
  · simp only [whole, if_false, bind_eq_bind, bind_eq_some_iff] at accepted
    rcases accepted with ⟨msgLength, lengthAt, accepted⟩
    by_cases different : data.length ≠ msgLength.toNat + kStunHeaderSize
    · simp [different] at accepted
    · simp only [different, if_false, bind_eq_some_iff] at accepted
      rcases accepted with ⟨position, found, accepted⟩
      cases position with
      | none => simp at accepted
      | some miPos =>
        simp only [bind_eq_some_iff, Option.pure_def, Option.some.injEq,
          decide_eq_true_eq] at accepted
        rcases accepted with ⟨stored, storedAt, same⟩
        rw [same] at storedAt
        exact ⟨not_not.mp whole, msgLength, miPos, lengthAt, not_not.mp different, found, storedAt⟩

/-- The check on bytes with a first MESSAGE-INTEGRITY that stands behind records of other
types: its twenty bytes are compared, also where they reach behind the message. -/
theorem validateMessageIntegrity_layout (hmac : Hmac) {data beyond password head stored after :
    Bytes} {records : List Record} {msgLength : UInt16} (isHeader : head.length = 20)
    (noIntegrity : NoIntegrity records) (isTag : stored.length = 20)
    (memory : data ++ beyond = head ++ (records.flatMap Record.bytes ++
      (uint16Bytes STUN_ATTR_MESSAGE_INTEGRITY ++ (uint16Bytes 20 ++ (stored ++ after)))))
    (whole : data.length % 4 = 0) (lengthAt : head.uint16At 2 = some msgLength)
    (sameLength : data.length = msgLength.toNat + 20)
    (inside : (records.flatMap Record.bytes).length + 40 ≤ data.length) :
    validateMessageIntegrity hmac data beyond password =
      some (decide (stored = (hmac password (hmacInput (data ++ beyond) data.length
        (20 + (records.flatMap Record.bytes).length))).val)) := by
  have found : searchMessageIntegrity (data ++ beyond) data.length 20 =
      some (some (20 + (records.flatMap Record.bytes).length)) := by
    have walked := searchMessageIntegrity_records (uint16Bytes STUN_ATTR_MESSAGE_INTEGRITY ++
      (uint16Bytes 20 ++ (stored ++ after))) records head noIntegrity
      (show head.length + _ ≤ data.length by omega)
    have reached := searchMessageIntegrity_found (head ++ records.flatMap Record.bytes)
      (stored ++ after) 20 (show _ < data.length by rw [length_append]; omega)
    have legal : ¬((20 : UInt16).toNat ≠ kStunMessageIntegritySize ∨
        data.length < (head ++ records.flatMap Record.bytes).length + (20 : UInt16).toNat) := by
      rw [length_append, isHeader, not_or, not_not, Nat.not_lt]
      exact ⟨rfl, by change 20 + _ + 20 ≤ _; omega⟩
    rw [if_neg legal, length_append, isHeader, append_assoc, ← memory] at reached
    rw [isHeader, ← memory] at walked
    rw [walked, reached]
  have storedAt : (data ++ beyond).bytesAt (20 + (records.flatMap Record.bytes).length + 4) 20 =
      some stored := by
    have middle := bytesAt_middle (head ++ (records.flatMap Record.bytes ++
      (uint16Bytes STUN_ATTR_MESSAGE_INTEGRITY ++ uint16Bytes 20))) after stored
    simp only [append_assoc, length_append, uint16Bytes_length, isHeader, isTag] at middle
    rw [memory, ← middle, Nat.add_assoc]
  have typeAt : (data ++ beyond).uint16At 2 = some msgLength := by
    rw [memory, uint16At_two_append isHeader, lengthAt]
  unfold validateMessageIntegrity
  simp only [ne_eq, not_true, if_false, typeAt, bind_eq_bind, bind_some,
    kStunHeaderSize, sameLength]
  rw [← sameLength, found]
  simp only [bind_some, kStunAttributeHeaderSize, kStunMessageIntegritySize, storedAt,
    Option.pure_def]
  exact if_neg (not_not.mpr whole)

section

variable {head : Bytes} {front rest memory : Bytes} {size : Nat} (isHeader : head.length = 20)
  (split : memory = head ++ (front ++ rest))

include isHeader split

theorem hmacInput_layout (followed : front.length + 44 < size) :
    hmacInput memory size (20 + front.length) =
      setLength (head ++ front) (UInt16.ofNat (front.length + 24)) := by
  have taken : memory.take (20 + front.length) = head ++ front := by
    rw [split, ← append_assoc]
    exact take_left' (by rw [length_append, isHeader])
  have behind : 20 + front.length + kStunAttributeHeaderSize + kStunMessageIntegritySize < size := by
    change 20 + front.length + 4 + 20 < size
    omega
  simp only [hmacInput, gt_iff_lt, behind, if_true, taken]
  congr 2
  simp only [kStunAttributeHeaderSize, kStunMessageIntegritySize, kStunHeaderSize]
  omega

theorem hmacInput_last (last : size ≤ front.length + 44) :
    hmacInput memory size (20 + front.length) = head ++ front := by
  have taken : memory.take (20 + front.length) = head ++ front := by
    rw [split, ← append_assoc]
    exact take_left' (by rw [length_append, isHeader])
  have notBehind : ¬20 + front.length + kStunAttributeHeaderSize + kStunMessageIntegritySize <
      size := by
    change ¬20 + front.length + 4 + 20 < size
    omega
  simp only [hmacInput, gt_iff_lt, notBehind, if_false, taken]

end

/-! ## What is accepted -/

theorem records_length_mod (records : List Record) :
    (records.flatMap Record.bytes).length % 4 = 0 := by
  induction records with
  | nil => rfl
  | cons record records induction =>
    have own := record.bytes_length
    have aligned := paddedLength_mod record.value.length
    rw [flatMap_cons, length_append]
    omega

theorem layout_of_accepted {hmac : Hmac} {data beyond password : Bytes}
    (accepted : validateMessageIntegrity hmac data beyond password = some true) :
    ∃ (head : Bytes) (records : List Record) (behind : Bytes) (msgLength : UInt16),
      head.length = 20 ∧ NoIntegrity records ∧ head.uint16At 2 = some msgLength ∧
        data.length = msgLength.toNat + 20 ∧
        data = head ++ (records.flatMap Record.bytes ++
          (uint16Bytes STUN_ATTR_MESSAGE_INTEGRITY ++ (uint16Bytes 20 ++ behind))) ∧
        16 ≤ behind.length ∧ behind.length % 4 = 0 ∧
        (behind ++ beyond).take 20 = (hmac password (hmacInput (data ++ beyond) data.length
          (20 + (records.flatMap Record.bytes).length))).val := by
  rcases validateMessageIntegrity_eq_true accepted with
    ⟨whole, msgLength, miPos, lengthAt, sameLength, found, storedAt⟩
  rcases searchMessageIntegrity_eq_found (by simp) 20 miPos found with
    ⟨behindHeader, inside, typeFound, lengthFound, records, noIntegrity, taken⟩
  have headLength : (data.take 20).length = 20 := by
    rw [length_take]
    omega
  have recordsLength : (records.flatMap Record.bytes).length = miPos - 20 := by
    rw [← taken, length_take, length_drop, length_append]
    omega
  have aligned := records_length_mod records
  have recordsTaken : (data.drop 20).take (miPos - 20) = records.flatMap Record.bytes := by
    rw [← taken, drop_append_of_le_length (by omega),
      take_append_of_le_length (by rw [length_drop]; omega)]
  have typeAt : data.uint16At miPos = some STUN_ATTR_MESSAGE_INTEGRITY := by
    rw [← typeFound]
    simp only [uint16At, byteAt]
    rw [List.getElem?_append_left (by omega), List.getElem?_append_left (by omega)]
  have attrLengthAt : data.uint16At (miPos + 2) = some 20 := by
    rw [← lengthFound]
    simp only [uint16At, byteAt]
    rw [List.getElem?_append_left (by omega), List.getElem?_append_left (by omega)]
  have split : data = data.take 20 ++ (records.flatMap Record.bytes ++
      (uint16Bytes STUN_ATTR_MESSAGE_INTEGRITY ++ (uint16Bytes 20 ++ data.drop (miPos + 4)))) := by
    have behind : data.drop (miPos + 2) = uint16Bytes 20 ++ data.drop (miPos + 4) :=
      drop_of_uint16At attrLengthAt
    rw [← behind, ← drop_of_uint16At typeAt, ← recordsTaken]
    have rest : data.drop miPos = (data.drop 20).drop (miPos - 20) := by
      rw [drop_drop]
      congr 1
      omega
    rw [rest, take_append_drop, take_append_drop]
  have stored : ((data.drop (miPos + 4)) ++ beyond).take 20 = (hmac password
      (hmacInput (data ++ beyond) data.length
        (20 + (records.flatMap Record.bytes).length))).val := by
    have position : 20 + (records.flatMap Record.bytes).length = miPos := by omega
    rw [position]
    unfold bytesAt at storedAt
    split at storedAt
    · rw [← Option.some.inj storedAt, drop_append_of_le_length (by omega)]
    · cases storedAt
  refine ⟨data.take 20, records, data.drop (miPos + 4), msgLength, headLength, noIntegrity, ?_,
    sameLength, split, ?_, ?_, stored⟩
  · rw [← lengthAt]
    conv_rhs => rw [split, append_assoc]
    rw [uint16At_two_append headLength]
  · rw [length_drop]
    omega
  · rw [length_drop]
    omega

/-- A byte string that does not cut its first MESSAGE-INTEGRITY is only accepted when it holds
the HMAC. -/
theorem acceptsOnlyIntegrity_of_whole {data : Bytes} (whole : ¬TruncatedIntegrity data) :
    AcceptsOnlyIntegrity data := by
  intro hmac beyond password accepted
  rcases layout_of_accepted accepted with ⟨head, records, behind, msgLength, isHeader,
    noIntegrity, lengthAt, sameLength, split, atLeast, aligned, stored⟩
  have total : data.length = 20 + (records.flatMap Record.bytes).length + 4 + behind.length := by
    rw [split]
    simp only [length_append, uint16Bytes_length, isHeader]
    omega
  have complete : 20 ≤ behind.length := by
    by_contra cut
    exact whole ⟨head, records, behind, msgLength, isHeader, noIntegrity, by omega, split,
      lengthAt, sameLength⟩
  refine ⟨head, records, behind.take 20, behind.drop 20, isHeader, noIntegrity, ?_, ?_⟩
  · rw [take_append_drop]
    exact split
  · rw [take_append_of_le_length complete] at stored
    rw [stored]
    have memory : data ++ beyond = head ++ (records.flatMap Record.bytes ++
        (uint16Bytes STUN_ATTR_MESSAGE_INTEGRITY ++ (uint16Bytes 20 ++ behind) ++ beyond)) := by
      conv_lhs => rw [split]
      simp only [append_assoc]
    by_cases followed : (records.flatMap Record.bytes).length + 44 < data.length
    · rw [hmacInput_layout isHeader memory followed]
    · rw [hmacInput_last isHeader memory (by omega)]
      -- the length field already is that of a message ending with the attribute
      have asWritten : msgLength = UInt16.ofNat ((records.flatMap Record.bytes).length + 24) := by
        have bound := msgLength.toNat_lt
        apply UInt16.toNat_inj.mp
        rw [UInt16.toNat_ofNat']
        omega
      rw [← asWritten, setLength_of_uint16At]
      rw [uint16At_two_append isHeader]
      exact lengthAt

theorem integrityPosition_unique {head behind otherHead otherBehind : Bytes}
    {records otherRecords : List Record} (isHeader : head.length = 20)
    (noIntegrity : NoIntegrity records) (otherIsHeader : otherHead.length = 20)
    (otherNoIntegrity : NoIntegrity otherRecords)
    (same : head ++ (records.flatMap Record.bytes ++
        (uint16Bytes STUN_ATTR_MESSAGE_INTEGRITY ++ (uint16Bytes 20 ++ behind))) =
      otherHead ++ (otherRecords.flatMap Record.bytes ++
        (uint16Bytes STUN_ATTR_MESSAGE_INTEGRITY ++ (uint16Bytes 20 ++ otherBehind)))) :
    behind.length = otherBehind.length := by
  have equal : records.flatMap Record.bytes ++
        (uint16Bytes STUN_ATTR_MESSAGE_INTEGRITY ++ (uint16Bytes 20 ++ behind)) =
      otherRecords.flatMap Record.bytes ++
        (uint16Bytes STUN_ATTR_MESSAGE_INTEGRITY ++ (uint16Bytes 20 ++ otherBehind)) :=
    (append_inj same (by rw [isHeader, otherIsHeader])).2
  clear same isHeader otherIsHeader
  induction records generalizing otherRecords with
  | nil =>
    cases otherRecords with
    | nil =>
      have lengths := congrArg List.length equal
      simpa using lengths
    | cons other others =>
      rw [flatMap_nil, nil_append, flatMap_cons, Record.bytes, append_assoc, append_assoc] at equal
      have types := Record.uint16Bytes_inj (append_inj equal rfl).1
      exact absurd types.symm (otherNoIntegrity other mem_cons_self)
  | cons record records induction =>
    cases otherRecords with
    | nil =>
      rw [flatMap_nil, nil_append, flatMap_cons, Record.bytes, append_assoc, append_assoc] at equal
      have types := Record.uint16Bytes_inj (append_inj equal rfl).1
      exact absurd types (noIntegrity record mem_cons_self)
    | cons other others =>
      rw [flatMap_cons, flatMap_cons, append_assoc, append_assoc] at equal
      rcases Record.bytes_append_inj equal with ⟨rfl, rest⟩
      exact induction (fun entry member => noIntegrity entry (mem_cons_of_mem _ member))
        (fun entry member => otherNoIntegrity entry (mem_cons_of_mem _ member)) rest

theorem not_acceptsOnlyIntegrity_of_truncated {data : Bytes} (cut : TruncatedIntegrity data) :
    ¬AcceptsOnlyIntegrity data := by
  intro only
  rcases cut with ⟨head, records, stub, msgLength, isHeader, noIntegrity, stubLength, split,
    lengthAt, sameLength⟩
  have total : data.length = 20 + (records.flatMap Record.bytes).length + 4 + 16 := by
    rw [split]
    simp only [length_append, uint16Bytes_length, isHeader, stubLength]
    omega
  have aligned := records_length_mod records
  let beyond : Bytes := [0, 0, 0, 0]
  have completed : (stub ++ beyond).length = 20 := by
    rw [length_append, stubLength]
    rfl
  let hmac : Hmac := fun _ _ => ⟨stub ++ beyond, completed⟩
  have accepted : validateMessageIntegrity hmac data beyond [] = some true := by
    have memory : data ++ beyond = head ++ (records.flatMap Record.bytes ++
        (uint16Bytes STUN_ATTR_MESSAGE_INTEGRITY ++ (uint16Bytes 20 ++ (stub ++ beyond ++ [])))) := by
      conv_lhs => rw [split]
      simp only [append_assoc, append_nil]
    rw [validateMessageIntegrity_layout hmac isHeader noIntegrity completed memory
      (by omega) lengthAt sameLength (by omega)]
    simp [hmac]
  rcases only hmac beyond [] accepted with ⟨otherHead, otherRecords, tag, behind, otherIsHeader,
    otherNoIntegrity, otherSplit, holds⟩
  have lengths := integrityPosition_unique isHeader noIntegrity otherIsHeader otherNoIntegrity
    (split.symm.trans otherSplit)
  have tagLength : tag.length = 20 := by
    rw [holds]
    exact completed
  rw [length_append, tagLength, stubLength] at lengths
  omega

end ZyWebRtc.Stun
