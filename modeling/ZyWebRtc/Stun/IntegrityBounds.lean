import ZyWebRtc.Stun.IntegrityAgreement

namespace ZyWebRtc.Stun

/-! Where `ValidateMessageIntegrity` reads, and that its walk ends. Nothing belongs to the
caller behind the byte string, so the check runs with no memory beyond it. -/

open List Option ByteBuffer Bytes

/-- Where the loop goes on from a position, unless it ends there. -/
def nextAttribute (data : Bytes) (pos : Nat) : Option Nat :=
  if data.length ≤ pos then none
  else do
    let attrType ← data.uint16At pos
    let attrLength ← data.uint16At (pos + 2)
    if attrType = STUN_ATTR_MESSAGE_INTEGRITY then none
    else some (pos + 4 + paddedLength attrLength.toNat)

/-- There is no endless chain of iterations. -/
def WalkEnds (data : Bytes) : Prop :=
  ∀ positions : Nat → Nat, ∃ index, nextAttribute data (positions index) ≠
    some (positions (index + 1))

theorem nextAttribute_eq_some {data : Bytes} {pos next : Nat}
    (moves : nextAttribute data pos = some next) :
    pos < data.length ∧ pos + 4 ≤ next ∧ searchMessageIntegrity data data.length pos =
        searchMessageIntegrity data data.length next := by
  rw [nextAttribute] at moves
  split at moves
  · cases moves
  · rename_i notEnd
    simp only [bind_eq_bind, bind_eq_some_iff] at moves
    rcases moves with ⟨attrType, typeAt, attrLength, lengthAt, moves⟩
    split at moves
    · cases moves
    · rename_i different
      cases moves
      refine ⟨Nat.not_le.mp notEnd, by omega, ?_⟩
      rw [searchMessageIntegrity, if_neg notEnd, typeAt, lengthAt]
      simp only [different, if_false]

theorem walkEnds (data : Bytes) : WalkEnds data := by
  intro positions
  by_contra endless
  have moves : ∀ index, nextAttribute data (positions index) = some (positions (index + 1)) := by
    intro index
    by_contra ends
    exact endless ⟨index, ends⟩
  have advanced : ∀ index, index ≤ positions index := by
    intro index
    induction index with
    | zero => exact Nat.zero_le _
    | succ index induction =>
      have further := (nextAttribute_eq_some (moves index)).2.1
      omega
  have inside := (nextAttribute_eq_some (moves data.length)).1
  have behind := advanced data.length
  omega

theorem searchMessageIntegrity_inside {data : Bytes} (whole : data.length % 4 = 0) :
    ∀ pos, pos % 4 = 0 → ∃ result, searchMessageIntegrity data data.length pos = some result := by
  intro pos
  induction left : data.length - pos using Nat.strong_induction_on generalizing pos with
  | _ left induction =>
    intro aligned
    by_cases atEnd : data.length ≤ pos
    · exact ⟨none, by rw [searchMessageIntegrity, if_pos atEnd]⟩
    have typeInside : pos + 2 ≤ data.length := by omega
    have lengthInside : pos + 2 + 2 ≤ data.length := by omega
    rcases exists_uint16At typeInside with ⟨attrType, typeAt⟩
    rcases exists_uint16At lengthInside with ⟨attrLength, lengthAt⟩
    rw [searchMessageIntegrity, if_neg atEnd, typeAt, lengthAt]
    by_cases isIntegrity : attrType = STUN_ATTR_MESSAGE_INTEGRITY
    · simp only [isIntegrity, if_true]
      split
      · exact ⟨none, rfl⟩
      · exact ⟨some pos, rfl⟩
    · have padded := paddedLength_mod attrLength.toNat
      simp only [isIntegrity, if_false]
      exact induction _ (by omega) _ rfl (by omega)

/-! ## The whole check -/

/-- The check reads bytes of the string only. -/
def ReadsInside (hmac : Hmac) (data password : Bytes) : Prop :=
  (validateMessageIntegrity hmac data [] password).isSome

/-- The length field of the header gives the size of the string. -/
def LengthMatches (data : Bytes) : Prop :=
  ∃ msgLength, data.uint16At 2 = some msgLength ∧ data.length = msgLength.toNat + kStunHeaderSize

theorem layout_of_search {data : Bytes} {miPos : Nat}
    (found : searchMessageIntegrity data data.length 20 = some (some miPos)) :
    20 ≤ miPos ∧ miPos + 20 ≤ data.length ∧ ∃ records, NoIntegrity records ∧
      data = data.take 20 ++ (records.flatMap Record.bytes ++
        (uint16Bytes STUN_ATTR_MESSAGE_INTEGRITY ++
          (uint16Bytes 20 ++ data.drop (miPos + 4)))) := by
  rcases searchMessageIntegrity_eq_found (Nat.le_refl _) 20 miPos found with
    ⟨behindHeader, inside, typeAt, lengthAt, records, noIntegrity, taken⟩
  refine ⟨behindHeader, inside, records, noIntegrity, ?_⟩
  have behind : data.drop (miPos + 2) = uint16Bytes 20 ++ data.drop (miPos + 4) :=
    drop_of_uint16At lengthAt
  rw [← behind, ← drop_of_uint16At typeAt, ← taken]
  have rest : data.drop miPos = (data.drop 20).drop (miPos - 20) := by
    rw [drop_drop]
    congr 1
    omega
  rw [rest, take_append_drop, take_append_drop]

theorem searchMessageIntegrity_truncated {data head stub : Bytes} {records : List Record}
    (isHeader : head.length = 20) (noIntegrity : NoIntegrity records)
    (stubLength : stub.length = 16)
    (split : data = head ++ (records.flatMap Record.bytes ++
      (uint16Bytes STUN_ATTR_MESSAGE_INTEGRITY ++ (uint16Bytes 20 ++ stub)))) :
    searchMessageIntegrity data data.length 20 =
      some (some (20 + (records.flatMap Record.bytes).length)) := by
  have total : data.length = 20 + (records.flatMap Record.bytes).length + 4 + 16 := by
    rw [split]
    simp only [length_append, uint16Bytes_length, isHeader, stubLength]
    omega
  have walked := searchMessageIntegrity_records (uint16Bytes STUN_ATTR_MESSAGE_INTEGRITY ++
    (uint16Bytes 20 ++ stub)) records head noIntegrity (show head.length + _ ≤ data.length by omega)
  have reached := searchMessageIntegrity_found (head ++ records.flatMap Record.bytes) stub 20
    (show _ < data.length by rw [length_append]; omega)
  have legal : ¬((20 : UInt16).toNat ≠ kStunMessageIntegritySize ∨
      data.length < (head ++ records.flatMap Record.bytes).length + (20 : UInt16).toNat) := by
    rw [length_append, isHeader, not_or, not_not, Nat.not_lt]
    exact ⟨rfl, by change 20 + _ + 20 ≤ _; omega⟩
  rw [if_neg legal, length_append, isHeader, append_assoc, ← split] at reached
  rw [isHeader, ← split] at walked
  rw [walked, reached]

def compareStored (hmac : Hmac) (data password : Bytes) : Option Nat → Option Bool
  | none => some false
  | some miPos => (data.bytesAt (miPos + 4) 20).map fun stored =>
    stored = (hmac password (hmacInput data data.length miPos)).val

section

variable {hmac : Hmac} {data password : Bytes}

theorem validateMessageIntegrity_matching (whole : data.length % 4 = 0) (sizes : LengthMatches data) :
    validateMessageIntegrity hmac data [] password =
      (searchMessageIntegrity data data.length 20).bind (compareStored hmac data password) := by
  rcases sizes with ⟨msgLength, lengthAt, sameLength⟩
  unfold validateMessageIntegrity
  simp only [append_nil, whole, ne_eq, not_true_eq_false, if_false, lengthAt,
    bind_eq_bind, bind_some]
  rw [if_neg (not_not.mpr sameLength)]
  apply congrArg (Option.bind _)
  funext position
  cases position with
  | none => rfl
  | some miPos =>
    cases stored : data.bytesAt (miPos + 4) 20 <;>
      simp [compareStored, kStunAttributeHeaderSize, kStunMessageIntegritySize, stored]

theorem readsInside_of_mismatch (notEmpty : data ≠ [])
    (mismatch : ¬(data.length % 4 = 0 ∧ LengthMatches data)) :
    ReadsInside hmac data password := by
  rw [ReadsInside]
  unfold validateMessageIntegrity
  by_cases whole : data.length % 4 = 0
  · have positive := length_pos_iff.mpr notEmpty
    have lengthInside : 2 + 2 ≤ data.length := by omega
    rcases exists_uint16At lengthInside with ⟨msgLength, lengthAt⟩
    have different : data.length ≠ msgLength.toNat + kStunHeaderSize :=
      fun same => mismatch ⟨whole, msgLength, lengthAt, same⟩
    simp [whole, lengthAt, different]
  · simp [whole]

theorem readsInside_iff_of_matching (whole : data.length % 4 = 0) (sizes : LengthMatches data) :
    ReadsInside hmac data password ↔ ¬TruncatedIntegrity data := by
  rw [ReadsInside, validateMessageIntegrity_matching whole sizes]
  constructor
  · rintro inside ⟨head, records, stub, msgLength, isHeader, noIntegrity, stubLength, split, -⟩
    have total : data.length = 20 + (records.flatMap Record.bytes).length + 4 + 16 := by
      rw [split]
      simp only [length_append, uint16Bytes_length, isHeader, stubLength]
      omega
    have outside : data.bytesAt (20 + (records.flatMap Record.bytes).length + 4) 20 = none :=
      if_neg (by omega)
    rw [searchMessageIntegrity_truncated isHeader noIntegrity stubLength split] at inside
    rw [bind_some, compareStored, outside] at inside
    cases inside
  · intro notCut
    rcases searchMessageIntegrity_inside whole 20 rfl with ⟨position, found⟩
    rw [found]
    cases position with
    | none => rfl
    | some miPos =>
      rcases layout_of_search found with ⟨behindHeader, inside, records, noIntegrity, split⟩
      have aligned := records_length_mod records
      have headLength : (data.take 20).length = 20 := by
        rw [length_take]
        omega
      have total := congrArg List.length split
      simp only [length_append, uint16Bytes_length, headLength, length_drop] at total
      have complete : miPos + 4 + 20 ≤ data.length := by
        by_contra cut
        rcases sizes with ⟨msgLength, lengthAt, sameLength⟩
        apply notCut
        refine ⟨data.take 20, records, data.drop (miPos + 4), msgLength, headLength, noIntegrity,
          ?_, split, ?_, sameLength⟩
        · rw [length_drop]
          omega
        · rw [← lengthAt]
          conv_rhs => rw [split]
          rw [uint16At_two_append headLength]
      simp [compareStored, bytesAt_inside complete]

theorem not_truncatedIntegrity_of_mismatch {data : Bytes}
    (mismatch : ¬(data.length % 4 = 0 ∧ LengthMatches data)) : ¬TruncatedIntegrity data := by
  rintro ⟨head, records, stub, msgLength, isHeader, -, stubLength, split, lengthAt, sameLength⟩
  have aligned := records_length_mod records
  have total : data.length = 20 + (records.flatMap Record.bytes).length + 4 + 16 := by
    rw [split]
    simp only [length_append, uint16Bytes_length, isHeader, stubLength]
    omega
  apply mismatch
  refine ⟨by omega, msgLength, ?_, sameLength⟩
  rw [split, uint16At_two_append isHeader, lengthAt]

theorem readsInside_iff (notEmpty : data ≠ []) :
    ReadsInside hmac data password ↔ ¬TruncatedIntegrity data := by
  by_cases sizes : data.length % 4 = 0 ∧ LengthMatches data
  · exact readsInside_iff_of_matching sizes.1 sizes.2
  · exact iff_of_true (readsInside_of_mismatch notEmpty sizes)
      (not_truncatedIntegrity_of_mismatch sizes)

end

/-- The check stays inside every string that has a byte and does not end four bytes too early
for its first MESSAGE-INTEGRITY, and its walk always ends. -/
theorem validateMessageIntegrity_inside_iff (hmac : Hmac) (data password : Bytes) :
    (ReadsInside hmac data password ∧ WalkEnds data) ↔ data ≠ [] ∧ ¬TruncatedIntegrity data := by
  rw [and_iff_left (walkEnds data)]
  constructor
  · intro inside
    have notEmpty : data ≠ [] := by
      rintro rfl
      cases inside
    exact ⟨notEmpty, (readsInside_iff notEmpty).mp inside⟩
  · rintro ⟨notEmpty, whole⟩
    exact (readsInside_iff notEmpty).mpr whole

def stubRequest : Bytes :=
  [0, 1, 0, 20, 0x21, 0x12, 0xA4, 0x42] ++ List.replicate 12 7 ++ [0, 8, 0, 20] ++
    List.replicate 16 0

theorem not_readsInside_stubRequest :
    (∀ hmac password, ¬ReadsInside hmac [] password) ∧
      ∀ hmac password, ¬ReadsInside hmac stubRequest password := by
  constructor
  · intro hmac password inside
    cases inside
  · intro hmac password inside
    have sizes : LengthMatches stubRequest := ⟨20, rfl, rfl⟩
    have notCut := (readsInside_iff_of_matching rfl sizes).mp inside
    exact notCut ⟨stubRequest.take 20, [], List.replicate 16 0, 20, rfl,
      fun _ member => absurd member (by simp), rfl, rfl, rfl, rfl⟩

end ZyWebRtc.Stun
