import ZyWebRtc.Fec.MaskRows

namespace ZyWebRtc.Fec

/-! `InsertZerosInBitMasks` over media packets with gaps in their sequence numbers: where it stays
inside the rows of the mask, and what the rows hold afterwards. -/

open List Option

/-- How far a media packet is behind the first one. -/
def offsetFrom (base : UInt16) (packet : Packet) : Nat :=
  (packet.parseSequenceNumber - base).toNat

def baseSeqNum (mediaPackets : List Packet) : UInt16 :=
  (mediaPackets.head?.map Packet.parseSequenceNumber).getD 0

/-- The sequence numbers increase from the first one on, also over the end of 16 bits. -/
def Ascending (mediaPackets : List Packet) : Prop :=
  (mediaPackets.map (offsetFrom (baseSeqNum mediaPackets))).Pairwise (· < ·)

theorem toNat_sub_offset (base : UInt16) {earlier later : UInt16}
    (ordered : (earlier - base).toNat ≤ (later - base).toNat) :
    (later - earlier).toNat = (later - base).toNat - (earlier - base).toNat := by
  have earlierBound := earlier.toNat_lt
  have laterBound := later.toNat_lt
  have baseBound := base.toNat_lt
  rw [UInt16.toNat_sub, UInt16.toNat_sub] at ordered
  rw [UInt16.toNat_sub, UInt16.toNat_sub, UInt16.toNat_sub]
  omega

theorem zerosToInsert_eq (base : UInt16) {earlier later : UInt16}
    (ordered : (earlier - base).toNat < (later - base).toNat) :
    (later - earlier - 1).toNat = (later - base).toNat - (earlier - base).toNat - 1 := by
  have difference := toNat_sub_offset base ordered.le
  rw [UInt16.toNat_sub_of_le, difference]
  · rfl
  · rw [UInt16.le_iff_toNat_le, difference]
    change 1 ≤ _
    omega

/-! ## Steps over all rows -/

theorem exists_mapM_of_forall₂ {Original Row Next : Type} {Holds : Original → Row → Prop}
    {HoldsNext : Original → Next → Prop} {step : Row → Option Next} {originals : List Original}
    {rows : List Row} (all : List.Forall₂ Holds originals rows)
    (each : ∀ original row, Holds original row →
      ∃ next, step row = some next ∧ HoldsNext original next) :
    ∃ nexts, rows.mapM step = some nexts ∧ List.Forall₂ HoldsNext originals nexts := by
  induction all with
  | nil => exact ⟨[], rfl, .nil⟩
  | cons holds _ induction =>
    rcases each _ _ holds with ⟨next, nextEq, holdsNext⟩
    rcases induction with ⟨nexts, nextsEq, all⟩
    exact ⟨next :: nexts, by rw [mapM_cons, nextEq, nextsEq]; rfl, .cons holdsNext all⟩

theorem changeColumn_length {row changed : Bytes} {bitIndex : Nat} {change : UInt8 → UInt8}
    (changedEq : changeColumn bitIndex change row = some changed) :
    changed.length = row.length := by
  rw [changeColumn] at changedEq
  split_ifs at changedEq
  rw [← Option.some.inj changedEq, length_modify]

theorem changeColumn_outside {row : Bytes} {bitIndex : Nat} (outside : 8 * row.length ≤ bitIndex)
    (change : UInt8 → UInt8) : changeColumn bitIndex change row = none := if_neg (by omega)

theorem MaskRow.copyColumn_outside (row : MaskRow) {newBitIndex oldBitIndex : Nat}
    (outside : 8 * row.newMask.length ≤ newBitIndex) :
    row.copyColumn newBitIndex oldBitIndex = none := by
  rw [MaskRow.copyColumn]
  cases row.oldMask.byteAt (oldBitIndex / 8) with
  | none => rfl
  | some oldByte =>
    rw [bind_eq_bind, bind_some, changeColumn_outside outside]
    rfl

theorem insertZeroColumns_head {zerosToInsert newBitIndex : Nat} {row : MaskRow}
    {rows widened : List MaskRow}
    (widenedEq : insertZeroColumns zerosToInsert newBitIndex (row :: rows) = some widened) :
    ∃ row' rows', widened = row' :: rows' ∧ row'.newMask.length = row.newMask.length := by
  rw [insertZeroColumns] at widenedEq
  split_ifs at widenedEq
  · rw [mapM_cons] at widenedEq
    rcases bind_eq_some_iff.mp widenedEq with ⟨row', rowEq, rowsEq⟩
    rcases bind_eq_some_iff.mp rowsEq with ⟨rows', -, same⟩
    rcases bind_eq_some_iff.mp rowEq with ⟨newMask, newMaskEq, rowSame⟩
    cases rowSame
    exact ⟨_, rows', (Option.some.inj same).symm, changeColumn_length newMaskEq⟩
  · exact ⟨row, rows, (Option.some.inj widenedEq).symm, rfl⟩

theorem mapM_eq_none_of_head {Row Next : Type} {step : Row → Option Next} {row : Row}
    {rows : List Row} (fails : step row = none) : (row :: rows).mapM step = none := by
  rw [mapM_cons, fails]
  rfl

/-- A row while the columns before `filled` are there and `shifted` columns of the old row are
used. -/
structure RowHolds (content : Bytes → Nat → Bool) (numBytes numOldBytes filled shifted : Nat)
    (original : Bytes) (row : MaskRow) : Prop where
  oldLength : original.length = numOldBytes
  newRow : Filled (content original) numBytes filled row.newMask
  oldRow : ShiftedOut original shifted row.oldMask

namespace RowHolds

variable {content : Bytes → Nat → Bool} {numBytes numOldBytes filled shifted : Nat}
  {original : Bytes} {row : MaskRow}

variable (holds : RowHolds content numBytes numOldBytes filled shifted original row)
  (inside : filled < 8 * numBytes)

include holds inside

theorem insertZeroColumns (numZeros : Nat)
    (zeros : ∀ column, filled ≤ column → column < filled + numZeros →
      content original column = false) :
    ∃ next, row.insertZeroColumns numZeros filled = some next ∧
      RowHolds content numBytes numOldBytes (filled + numZeros) shifted original next := by
  refine ⟨⟨row.newMask.modify (filled / 8) (· <<< UInt8.ofNat (min numZeros (7 - filled % 8))),
    row.oldMask⟩, ?_, holds.oldLength, holds.newRow.insertZeros inside numZeros zeros, holds.oldRow⟩
  rw [MaskRow.insertZeroColumns, changeColumn_inside (holds.newRow.length ▸ inside)]
  rfl

theorem copyColumn (oldInside : shifted < 8 * numOldBytes)
    (copied : content original filled = rowBit original shifted) :
    ∃ next, row.copyColumn filled shifted = some next ∧
      RowHolds content numBytes numOldBytes (filled + 1) (shifted + 1) original next := by
  have oldInside : shifted < 8 * original.length := holds.oldLength ▸ oldInside
  have oldByte : row.oldMask.byteAt (shifted / 8) = some (row.oldMask.byteValue (shifted / 8)) :=
    Bytes.byteAt_inside (by rw [holds.oldRow.length]; omega)
  have newRow := holds.newRow.copy inside
    ((holds.oldRow.highestBit oldInside).trans copied.symm)
  refine ⟨⟨_, _⟩, ?_, holds.oldLength, newRow, holds.oldRow.shiftOut⟩
  rw [MaskRow.copyColumn, oldByte]
  simp only [bind_eq_bind, bind_some]
  have shiftedOut := changeColumn_inside
    (show shifted < 8 * row.oldMask.length by rw [holds.oldRow.length]; exact oldInside) (· <<< 1)
  rw [changeColumn_inside (holds.newRow.length ▸ inside), bind_some]
  by_cases full : filled % 8 = 7
  · simp only [if_neg (Decidable.not_not.mpr full), bind_some, shiftedOut]
    rfl
  · simp only [if_pos full]
    rw [changeColumn_inside (by rw [length_modify]; exact holds.newRow.length ▸ inside),
      modify_modify_eq, bind_some, shiftedOut]
    rfl

theorem shiftLastByte (zeros : ∀ column, filled ≤ column → content original column = false) :
    ∃ next, row.shiftLastByte filled = some next ∧ next.newMask.length = numBytes ∧
      ∀ column < 8 * numBytes, rowBit next.newMask column = content original column := by
  refine ⟨⟨row.newMask.modify (filled / 8) (· <<< UInt8.ofNat (7 - filled % 8)), row.oldMask⟩, ?_,
    ?_, holds.newRow.finish inside zeros⟩
  · rw [MaskRow.shiftLastByte, changeColumn_inside (holds.newRow.length ▸ inside)]
    rfl
  · rw [length_modify, holds.newRow.length]

end RowHolds

/-! ## The loop over the media packets -/

/-- The columns from `filled` on are those of the media packets, which come from the columns of the
old row from `shifted` on. -/
structure Contents (base : UInt16) (content : Bytes → Nat → Bool) (mediaPackets : List Packet)
    (filled shifted : Nat) : Prop where
  copied : ∀ original index packet, mediaPackets[index]? = some packet →
    content original (offsetFrom base packet) = rowBit original (shifted + index)
  zeros : ∀ original column, filled ≤ column →
    (∀ packet ∈ mediaPackets, offsetFrom base packet ≠ column) → content original column = false

section Loop

variable {base : UInt16} {content : Bytes → Nat → Bool} {numBytes numOldBytes : Nat}

theorem Contents.tail {packet : Packet} {mediaPackets : List Packet} {filled shifted : Nat}
    (contents : Contents base content (packet :: mediaPackets) filled shifted)
    (notBefore : filled ≤ offsetFrom base packet) :
    Contents base content mediaPackets (offsetFrom base packet + 1) (shifted + 1) where
  copied := by
    intro original index other isAt
    rw [Nat.add_assoc, Nat.add_comm 1]
    exact contents.copied original (index + 1) other isAt
  zeros := by
    intro original column behind others
    apply contents.zeros original column (by omega)
    exact forall_mem_cons.mpr ⟨by omega, others⟩

/-- What a round of the loop needs of the packets that are left. -/
structure Round (base : UInt16) (content : Bytes → Nat → Bool) (numOldBytes : Nat)
    (mediaPackets : List Packet) (prevSeqNum : UInt16) (filled shifted : Nat) : Prop where
  previous : (prevSeqNum - base).toNat + 1 = filled
  ascending : (mediaPackets.map (offsetFrom base)).Pairwise (· < ·)
  notBefore : ∀ packet ∈ mediaPackets, filled ≤ offsetFrom base packet
  contents : Contents base content mediaPackets filled shifted
  oldColumns : shifted + mediaPackets.length ≤ 8 * numOldBytes

theorem Round.next {packet : Packet} {mediaPackets : List Packet} {prevSeqNum : UInt16}
    {filled shifted : Nat}
    (round : Round base content numOldBytes (packet :: mediaPackets) prevSeqNum filled shifted) :
    Round base content numOldBytes mediaPackets packet.parseSequenceNumber
      (offsetFrom base packet + 1) (shifted + 1) where
  previous := rfl
  ascending := (pairwise_cons.mp round.ascending).2
  notBefore := by
    intro other member
    exact (pairwise_cons.mp round.ascending).1 _ (List.mem_map_of_mem member)
  contents := round.contents.tail (round.notBefore packet mem_cons_self)
  oldColumns := by
    have columns := round.oldColumns
    rw [length_cons] at columns
    omega

variable {packet : Packet} {mediaPackets : List Packet} {prevSeqNum : UInt16}
  {filled shifted : Nat} {originals : List Bytes} {rows : List MaskRow}

section

variable (round : Round base content numOldBytes (packet :: mediaPackets) prevSeqNum filled shifted)

include round

theorem Round.zerosToInsert :
    filled + (packet.parseSequenceNumber - prevSeqNum - 1).toNat = offsetFrom base packet := by
  have previous := round.previous
  have notBefore := round.notBefore packet mem_cons_self
  rw [offsetFrom] at notBefore ⊢
  rw [zerosToInsert_eq base (by omega)]
  omega

theorem insertZerosFrom_inside
    (all : List.Forall₂ (RowHolds content numBytes numOldBytes filled shifted) originals rows)
    (notFull : filled ≠ 8 * kMaskSizeLBitSet) (inside : offsetFrom base packet < 8 * numBytes) :
    ∃ rows', insertZerosFrom (packet :: mediaPackets) prevSeqNum filled shifted rows =
        insertZerosFrom mediaPackets packet.parseSequenceNumber (offsetFrom base packet + 1)
          (shifted + 1) rows' ∧
      List.Forall₂ (RowHolds content numBytes numOldBytes (offsetFrom base packet + 1)
        (shifted + 1)) originals rows' := by
  have notBefore := round.notBefore packet mem_cons_self
  have oldColumns := round.oldColumns
  rw [length_cons] at oldColumns
  have zerosEq := round.zerosToInsert
  rw [insertZerosFrom, if_neg notFull]
  dsimp only
  generalize (packet.parseSequenceNumber - prevSeqNum - 1).toNat = zerosToInsert at zerosEq ⊢
  have zeros : ∀ original column, filled ≤ column → column < filled + zerosToInsert →
      content original column = false := by
    intro original column behind before
    apply round.contents.zeros original column behind
    intro other member
    rcases mem_cons.mp member with rfl | later
    · omega
    · have further := (pairwise_cons.mp round.ascending).1 _ (List.mem_map_of_mem later)
      omega
  rcases show ∃ rows', insertZeroColumns zerosToInsert filled rows = some rows' ∧
      List.Forall₂ (RowHolds content numBytes numOldBytes (filled + zerosToInsert) shifted)
        originals rows' from by
    rw [insertZeroColumns]
    split_ifs with some
    · exact exists_mapM_of_forall₂ all fun original row holds =>
        holds.insertZeroColumns (by omega) zerosToInsert (zeros original)
    · rw [show zerosToInsert = 0 by omega]
      exact ⟨rows, rfl, all⟩ with ⟨widened, widenedEq, widenedAll⟩
  rw [zerosEq] at widenedAll
  rcases exists_mapM_of_forall₂ widenedAll fun original row holds =>
    holds.copyColumn inside (by omega)
      (round.contents.copied original 0 packet rfl) with ⟨copied, copiedEq, copiedAll⟩
  refine ⟨copied, ?_, copiedAll⟩
  simp only [widenedEq, bind_eq_bind, bind_some, zerosEq, copiedEq]

theorem insertZerosFrom_outside
    (all : List.Forall₂ (RowHolds content numBytes numOldBytes filled shifted) originals rows)
    (some : originals ≠ []) (notFull : filled ≠ 8 * kMaskSizeLBitSet)
    (outside : 8 * numBytes ≤ offsetFrom base packet) :
    insertZerosFrom (packet :: mediaPackets) prevSeqNum filled shifted rows = none := by
  have zerosEq := round.zerosToInsert
  rw [insertZerosFrom, if_neg notFull]
  dsimp only
  rw [zerosEq]
  cases all with
  | nil => exact absurd rfl some
  | @cons original row _ rest holds _ =>
    cases widenedEq : insertZeroColumns (packet.parseSequenceNumber - prevSeqNum - 1).toNat
      filled (row :: rest) with
    | none => rfl
    | some widened =>
      rcases insertZeroColumns_head widenedEq with ⟨row', rest', rfl, sameLength⟩
      rw [bind_eq_bind, bind_some, mapM_eq_none_of_head
        (row'.copyColumn_outside (by rw [sameLength, holds.newRow.length]; exact outside))]
      rfl

end

def endColumn (base : UInt16) (mediaPackets : List Packet) (filled : Nat) : Nat :=
  (mediaPackets.map fun packet => offsetFrom base packet + 1).getLast?.getD filled

theorem endColumn_cons (base : UInt16) (packet : Packet) (mediaPackets : List Packet)
    (filled : Nat) : endColumn base (packet :: mediaPackets) filled =
      endColumn base mediaPackets (offsetFrom base packet + 1) := by
  rw [endColumn, map_cons, List.getLast?_cons]
  rfl

theorem insertZerosFrom_spec (numBytesSmall : numBytes ≤ kMaskSizeLBitSet) :
    ∀ (mediaPackets : List Packet) (prevSeqNum : UInt16) (filled shifted : Nat)
      (rows : List MaskRow),
      Round base content numOldBytes mediaPackets prevSeqNum filled shifted →
      List.Forall₂ (RowHolds content numBytes numOldBytes filled shifted) originals rows →
      (∀ packet ∈ mediaPackets, offsetFrom base packet < 8 * numBytes) →
      ∃ rows', insertZerosFrom mediaPackets prevSeqNum filled shifted rows =
          some (endColumn base mediaPackets filled, rows') ∧
        List.Forall₂ (RowHolds content numBytes numOldBytes (endColumn base mediaPackets filled)
          (shifted + mediaPackets.length)) originals rows' := by
  intro mediaPackets
  induction mediaPackets with
  | nil => exact fun _ filled shifted rows _ all _ => ⟨rows, rfl, all⟩
  | cons packet mediaPackets induction =>
    intro prevSeqNum filled shifted rows round all inside
    rw [forall_mem_cons] at inside
    have notBefore := round.notBefore packet mem_cons_self
    rcases insertZerosFrom_inside round all (by omega) inside.1 with ⟨rows', step, all'⟩
    rcases induction _ _ _ rows' round.next all' inside.2 with ⟨rows'', rest, all''⟩
    refine ⟨rows'', ?_, ?_⟩
    · rw [step, rest, endColumn_cons]
    · rw [endColumn_cons, length_cons, Nat.add_comm mediaPackets.length, ← Nat.add_assoc]
      exact all''

theorem insertZerosFrom_full :
    ∀ (mediaPackets : List Packet) (prevSeqNum : UInt16) (filled shifted : Nat)
      (rows : List MaskRow),
      Round base content numOldBytes mediaPackets prevSeqNum filled shifted →
      List.Forall₂ (RowHolds content kMaskSizeLBitSet numOldBytes filled shifted) originals rows →
      (∃ packet ∈ mediaPackets, offsetFrom base packet = 47) →
      ∃ rows', insertZerosFrom mediaPackets prevSeqNum filled shifted rows = some (48, rows') := by
  intro mediaPackets
  induction mediaPackets with
  | nil =>
    intro _ _ _ _ _ _ ⟨_, member, _⟩
    cases member
  | cons packet mediaPackets induction =>
    intro prevSeqNum filled shifted rows round all last
    have notBefore := round.notBefore packet mem_cons_self
    rcases last with ⟨other, member, isLast⟩
    rcases mem_cons.mp member with rfl | later
    · rcases insertZerosFrom_inside round all (by rw [kMaskSizeLBitSet]; omega)
        (by rw [kMaskSizeLBitSet]; omega) with ⟨rows', step, -⟩
      refine ⟨rows', ?_⟩
      rw [step, isLast]
      cases mediaPackets with
      | nil => rfl
      | cons next mediaPackets => exact if_pos rfl
    · have before := (pairwise_cons.mp round.ascending).1 _ (List.mem_map_of_mem later)
      rcases insertZerosFrom_inside round all (by rw [kMaskSizeLBitSet]; omega)
        (by rw [kMaskSizeLBitSet]; omega) with ⟨rows', step, all'⟩
      rw [step]
      exact induction _ _ _ rows' round.next all' ⟨other, later, isLast⟩

theorem insertZerosFrom_leaves (nonempty : originals ≠ []) :
    ∀ (mediaPackets : List Packet) (prevSeqNum : UInt16) (filled shifted : Nat)
      (rows : List MaskRow),
      Round base content numOldBytes mediaPackets prevSeqNum filled shifted →
      List.Forall₂ (RowHolds content kMaskSizeLBitSet numOldBytes filled shifted) originals rows →
      filled < 48 →
      (∀ packet ∈ mediaPackets, offsetFrom base packet ≠ 47) →
      (∃ packet ∈ mediaPackets, 48 ≤ offsetFrom base packet) →
      insertZerosFrom mediaPackets prevSeqNum filled shifted rows = none := by
  intro mediaPackets
  induction mediaPackets with
  | nil =>
    intro _ _ _ _ _ _ _ _ ⟨_, member, _⟩
    cases member
  | cons packet mediaPackets induction =>
    intro prevSeqNum filled shifted rows round all notFull notLast behind
    rw [forall_mem_cons] at notLast
    by_cases inside : offsetFrom base packet < 48
    · rcases insertZerosFrom_inside round all (by rw [kMaskSizeLBitSet]; omega) inside with
        ⟨rows', step, all'⟩
      rw [step]
      apply induction _ _ _ rows' round.next all' (by omega) notLast.2
      rcases behind with ⟨other, member, isBehind⟩
      rcases mem_cons.mp member with rfl | later
      · omega
      · exact ⟨other, later, isBehind⟩
    · exact insertZerosFrom_outside round all nonempty (by rw [kMaskSizeLBitSet]; omega)
        (Nat.not_lt.mp inside)

end Loop

/-! ## The whole mask -/

/-- The columns of a widened row: those of the media packets, from the columns of the old row. -/
def widenedBit (base : UInt16) (mediaPackets : List Packet) (original : Bytes) (column : Nat) :
    Bool :=
  ((mediaPackets.map (offsetFrom base)).idxOf? column).any (rowBit original)

theorem offsetFrom_self (packet : Packet) : offsetFrom packet.parseSequenceNumber packet = 0 := by
  rw [offsetFrom, UInt16.sub_self]
  rfl

theorem contents_widenedBit {base : UInt16} {mediaPackets : List Packet}
    (ascending : (mediaPackets.map (offsetFrom base)).Pairwise (· < ·)) :
    Contents base (widenedBit base mediaPackets) mediaPackets 0 0 where
  copied := by
    intro original index packet isAt
    rcases List.getElem?_eq_some_iff.mp isAt with ⟨inside, atIndex⟩
    have found : (mediaPackets.map (offsetFrom base)).idxOf? (offsetFrom base packet) =
        some index := by
      rw [List.idxOf?_eq_some_iff]
      refine ⟨by rw [length_map]; exact inside, by rw [getElem_map, atIndex],
        fun earlier before => ?_⟩
      have increases := pairwise_iff_getElem.mp ascending earlier index
        (by rw [length_map]; omega) (by rw [length_map]; exact inside) before
      rw [getElem_map, getElem_map, atIndex] at increases
      rw [getElem_map]
      exact increases.ne
    rw [widenedBit, found, Nat.zero_add]
    rfl
  zeros := by
    intro original column _ others
    rw [widenedBit, List.idxOf?_eq_none_iff.mpr]
    · rfl
    · intro member
      rcases List.mem_map.mp member with ⟨packet, inside, same⟩
      exact others packet inside same

section Mask

variable {first second : Packet} {rest : List Packet} {packetMask : List Bytes}
  {numBytes numOldBytes : Nat}

section

variable (ascending : Ascending (first :: second :: rest))
  (columns : (first :: second :: rest).length ≤ 8 * numOldBytes)

include ascending columns

theorem firstRound : Round first.parseSequenceNumber
      (widenedBit first.parseSequenceNumber (first :: second :: rest)) numOldBytes
      (second :: rest) first.parseSequenceNumber 1 1 := by
  have contents := (contents_widenedBit ascending).tail (Nat.zero_le _)
  change Contents first.parseSequenceNumber _ _ (offsetFrom first.parseSequenceNumber first + 1) _
    at contents
  rw [offsetFrom_self] at contents
  refine ⟨?_, (pairwise_cons.mp ascending).2, fun packet member => ?_, contents, ?_⟩
  · rw [UInt16.sub_self]
    rfl
  · have behind := (pairwise_cons.mp ascending).1 _ (List.mem_map_of_mem member)
    exact Nat.succ_le_of_lt (Nat.zero_lt_of_lt behind)
  · rw [length_cons] at columns
    omega

theorem firstColumn (positive : 0 < numBytes)
    (rowLengths : ∀ row ∈ packetMask, row.length = numOldBytes) :
    ∃ rows, (packetMask.map (MaskRow.new numBytes)).mapM (MaskRow.copyColumn 0 0) = some rows ∧
      List.Forall₂ (RowHolds
        (widenedBit first.parseSequenceNumber (first :: second :: rest)) numBytes numOldBytes 1 1)
        packetMask rows := by
  have start : List.Forall₂ (RowHolds
      (widenedBit first.parseSequenceNumber (first :: second :: rest)) numBytes numOldBytes 0 0)
      packetMask (packetMask.map (MaskRow.new numBytes)) := by
    rw [forall₂_map_right_iff, forall₂_same]
    exact fun row member => ⟨rowLengths row member, Filled.zeros _ numBytes, ShiftedOut.start row⟩
  rw [length_cons] at columns
  have copied := (contents_widenedBit ascending).copied
  refine exists_mapM_of_forall₂ start fun original row holds =>
    holds.copyColumn (by omega) (by omega) ?_
  have firstBit := copied original 0 first rfl
  change widenedBit first.parseSequenceNumber _ original
    (offsetFrom first.parseSequenceNumber first) = _ at firstBit
  rw [offsetFrom_self] at firstBit
  exact firstBit

end

/-- How far the last media packet is behind the first one. -/
def lastOffset (first second : Packet) (rest : List Packet) : Nat :=
  offsetFrom first.parseSequenceNumber
    ((second :: rest).getLast (cons_ne_nil second rest))

theorem offsetFrom_le_last (ascending : Ascending (first :: second :: rest)) {packet : Packet}
    (member : packet ∈ second :: rest) :
    offsetFrom first.parseSequenceNumber packet ≤ lastOffset first second rest := by
  have later : ((second :: rest).map (offsetFrom first.parseSequenceNumber)).Pairwise (· < ·) :=
    (pairwise_cons.mp ascending).2
  rw [lastOffset]
  rw [← dropLast_append_getLast (cons_ne_nil second rest)] at member later
  rw [map_append, pairwise_append] at later
  rcases mem_append.mp member with before | here
  · exact (later.2.2 _ (List.mem_map_of_mem before) _ (mem_singleton_self _)).le
  · rw [mem_singleton.mp here]

theorem offsetFrom_le_last' (ascending : Ascending (first :: second :: rest)) {packet : Packet}
    (member : packet ∈ first :: second :: rest) :
    offsetFrom first.parseSequenceNumber packet ≤ lastOffset first second rest := by
  rcases mem_cons.mp member with rfl | later
  · rw [offsetFrom_self]
    exact Nat.zero_le _
  · exact offsetFrom_le_last ascending later

theorem endColumn_eq (filled : Nat) :
    endColumn first.parseSequenceNumber (second :: rest) filled = lastOffset first second rest + 1 := by
  rw [endColumn, List.getLast?_map, List.getLast?_eq_some_getLast (cons_ne_nil second rest)]
  rfl

theorem totalMissing_eq (first second : Packet) (rest : List Packet) (numMediaPackets : Nat) :
    (numMediaPackets : Int) + totalMissingSeqNums first
      ((second :: rest).getLast (cons_ne_nil second rest)) numMediaPackets =
    ((lastOffset first second rest + 1 : Nat) : Int) := by
  rw [totalMissingSeqNums, lastOffset, offsetFrom]
  push_cast
  omega

theorem insertZerosInBitMasks_gaps (packetMask : List Bytes)
    (gaps : lastOffset first second rest + 1 ≠ (first :: second :: rest).length) :
    insertZerosInBitMasks (first :: second :: rest) packetMask = (do
      let rows ← (packetMask.map (MaskRow.new
        (maskSizeFor ((lastOffset first second rest + 1 : Nat) : Int)))).mapM
          (MaskRow.copyColumn 0 0)
      let (newBitIndex, rows) ←
        insertZerosFrom (second :: rest) first.parseSequenceNumber 1 1 rows
      let rows ← shiftLastByte newBitIndex rows
      pure (newBitIndex, rows.map MaskRow.newMask)) := by
  have columns := totalMissing_eq first second rest (first :: second :: rest).length
  rw [insertZerosInBitMasks]
  dsimp only
  rw [if_neg (by omega), columns]

theorem insertZerosInBitMasks_noGaps (packetMask : List Bytes)
    (noGaps : lastOffset first second rest + 1 = (first :: second :: rest).length) :
    insertZerosInBitMasks (first :: second :: rest) packetMask =
      some ((first :: second :: rest).length, packetMask) := by
  have columns := totalMissing_eq first second rest (first :: second :: rest).length
  rw [insertZerosInBitMasks]
  exact if_pos (by omega)

/-- What a row of the mask becomes. -/
structure Widened (numBytes : Nat) (content : Bytes → Nat → Bool) (original row : Bytes) :
    Prop where
  length : row.length = numBytes
  bits : ∀ column < 8 * numBytes, rowBit row column = content original column

theorem maskSizeFor_spec (columns : Nat) (small : columns ≤ 48) :
    0 < maskSizeFor columns ∧ maskSizeFor columns ≤ kMaskSizeLBitSet ∧
      columns ≤ 8 * maskSizeFor columns := by
  rw [maskSizeFor, kMaskSizeLBitClear, kMaskSizeLBitSet]
  split_ifs <;> omega

theorem insertZerosInBitMasks_spec (ascending : Ascending (first :: second :: rest))
    (columns : (first :: second :: rest).length ≤ 8 * numOldBytes)
    (rowLengths : ∀ row ∈ packetMask, row.length = numOldBytes)
    (gaps : lastOffset first second rest + 1 ≠ (first :: second :: rest).length)
    {numColumns : Nat} (numColumnsEq : lastOffset first second rest + 1 = numColumns)
    (small : numColumns ≤ 48) :
    ∃ widened, insertZerosInBitMasks (first :: second :: rest) packetMask =
        some (numColumns, widened) ∧
      List.Forall₂ (Widened (maskSizeFor numColumns)
        (widenedBit first.parseSequenceNumber (first :: second :: rest))) packetMask widened := by
  rcases maskSizeFor_spec numColumns small with ⟨positive, numBytesSmall, enough⟩
  rcases firstColumn ascending columns positive rowLengths with ⟨rows, rowsEq, all⟩
  rcases insertZerosFrom_spec numBytesSmall (second :: rest) first.parseSequenceNumber 1 1 rows
    (firstRound ascending columns) all (fun packet member => by
      have last := offsetFrom_le_last ascending member
      omega) with ⟨rows', rows'Eq, all'⟩
  rw [endColumn_eq, numColumnsEq] at rows'Eq all'
  have zeros : ∀ original column, numColumns ≤ column →
      widenedBit first.parseSequenceNumber (first :: second :: rest) original column = false := by
    intro original column behind
    apply (contents_widenedBit ascending).zeros original column (Nat.zero_le _)
    intro packet member
    have before := offsetFrom_le_last' ascending member
    change offsetFrom first.parseSequenceNumber packet ≠ column
    omega
  rcases show ∃ rows'', shiftLastByte numColumns rows' = some rows'' ∧
      List.Forall₂ (fun original row => Widened (maskSizeFor numColumns)
        (widenedBit first.parseSequenceNumber (first :: second :: rest)) original
        row.newMask) packetMask rows'' from by
    rw [shiftLastByte]
    split_ifs with partial_
    · exact exists_mapM_of_forall₂ all' fun original row holds => by
        rcases holds.shiftLastByte (by omega) (zeros original) with ⟨next, nextEq, length, bits⟩
        exact ⟨next, nextEq, length, bits⟩
    · refine ⟨rows', rfl, all'.imp fun original row holds => ?_⟩
      exact ⟨holds.newRow.length, holds.newRow.finish_full (by omega) (zeros original)⟩
    with ⟨rows'', rows''Eq, all''⟩
  refine ⟨rows''.map MaskRow.newMask, ?_, forall₂_map_right_iff.mpr all''⟩
  rw [insertZerosInBitMasks_gaps packetMask gaps, numColumnsEq, rowsEq]
  simp only [bind_eq_bind, bind_some, rows'Eq, rows''Eq]
  rfl

end Mask

/-! ## Staying inside the rows -/

theorem maskRows_length (packetMask : Buffer) (numMediaPackets numFecPackets : Nat) :
    ∀ row ∈ maskRows packetMask numMediaPackets numFecPackets,
      row.length = maskSizeFor numMediaPackets := by
  intro row member
  rcases List.mem_map.mp member with ⟨i, -, rfl⟩
  exact Buffer.slice_length _ _ _

theorem maskRows_ne_nil (packetMask : Buffer) (numMediaPackets : Nat) {numFecPackets : Nat}
    (some : 0 < numFecPackets) : maskRows packetMask numMediaPackets numFecPackets ≠ [] := by
  rw [← length_pos_iff, maskRows, length_map, length_range]
  exact some

/-- The columns of all media packets are in a long row, or the loop is through the row before it comes
to one that is not. -/
def ColumnsFit (mediaPackets : List Packet) : Prop :=
  (∀ packet ∈ mediaPackets, offsetFrom (baseSeqNum mediaPackets) packet < 48) ∨
    ∃ packet ∈ mediaPackets, offsetFrom (baseSeqNum mediaPackets) packet = 47

/-- The mask is widened inside its rows exactly when the columns fit. -/
theorem insertZerosInBitMasks_inside_iff (mediaPackets : List Packet) (packetMask : Buffer)
    (numFecPackets : Nat) (ascending : Ascending mediaPackets)
    (accepted : mediaPackets.length ≤ kMaxMediaPackets) (protects : 0 < numFecPackets) :
    (∃ numColumns widened, insertZerosInBitMasks mediaPackets
        (maskRows packetMask mediaPackets.length numFecPackets) = some (numColumns, widened) ∧
      numColumns ≤ 48) ↔ ColumnsFit mediaPackets := by
  have rowLengths := maskRows_length packetMask mediaPackets.length numFecPackets
  have someRow := maskRows_ne_nil packetMask mediaPackets.length protects
  generalize maskRows packetMask mediaPackets.length numFecPackets = rows at rowLengths someRow ⊢
  match mediaPackets with
  | [] => exact ⟨fun _ => .inl (by simp), fun _ => ⟨0, rows, rfl, by decide⟩⟩
  | [packet] =>
    refine ⟨fun _ => .inl ?_, fun _ => ⟨1, rows, rfl, by decide⟩⟩
    intro other member
    rw [mem_singleton.mp member]
    change offsetFrom packet.parseSequenceNumber packet < 48
    rw [offsetFrom_self]
    decide
  | first :: second :: rest =>
    have columns := (maskSizeFor_spec (first :: second :: rest).length accepted).2.2
    have last := fun packet member => @offsetFrom_le_last' first second rest ascending packet member
    by_cases noGaps : lastOffset first second rest + 1 = (first :: second :: rest).length
    · rw [insertZerosInBitMasks_noGaps rows noGaps]
      refine ⟨fun _ => .inl fun packet member => ?_, fun _ => ⟨_, rows, rfl, accepted⟩⟩
      have before := last packet member
      change offsetFrom first.parseSequenceNumber packet < 48
      rw [kMaxMediaPackets] at accepted
      omega
    · by_cases short : lastOffset first second rest + 1 ≤ 48
      · rcases insertZerosInBitMasks_spec ascending columns rowLengths noGaps rfl short with
          ⟨widened, widenedEq, -⟩
        refine ⟨fun _ => .inl fun packet member => ?_, fun _ => ⟨_, widened, widenedEq, short⟩⟩
        have before := last packet member
        change offsetFrom first.parseSequenceNumber packet < 48
        omega
      · have longRow : maskSizeFor ((lastOffset first second rest + 1 : Nat) : Int) =
            kMaskSizeLBitSet := if_pos (by rw [kMaskSizeLBitClear]; omega)
        rcases firstColumn ascending columns (show 0 < kMaskSizeLBitSet by decide) rowLengths with
          ⟨started, startedEq, all⟩
        have round := firstRound ascending columns
        rw [insertZerosInBitMasks_gaps rows noGaps, longRow, startedEq]
        simp only [bind_eq_bind, bind_some]
        by_cases full : ∃ packet ∈ second :: rest, offsetFrom first.parseSequenceNumber packet = 47
        · rcases insertZerosFrom_full _ _ _ _ _ round all full with ⟨ended, endedEq⟩
          have fullByte : shiftLastByte 48 ended = some ended := if_neg (by decide)
          simp only [endedEq, bind_some, fullByte]
          refine ⟨fun _ => .inr ?_, fun _ => ⟨48, ended.map MaskRow.newMask, rfl, Nat.le_refl 48⟩⟩
          rcases full with ⟨packet, member, isLast⟩
          exact ⟨packet, mem_cons_of_mem first member, isLast⟩
        · have behind : ∃ packet ∈ second :: rest,
              48 ≤ offsetFrom first.parseSequenceNumber packet :=
            ⟨_, getLast_mem (cons_ne_nil second rest), by
              rw [lastOffset] at short
              omega⟩
          rw [insertZerosFrom_leaves someRow _ _ _ _ _ round all (by decide)
            (fun packet member isLast => full ⟨packet, member, isLast⟩) behind]
          constructor
          · rintro ⟨_, _, impossible, -⟩
            cases impossible
          · rintro (fit | ⟨packet, member, isLast⟩)
            · rcases behind with ⟨packet, member, isBehind⟩
              have fits := fit packet (mem_cons_of_mem first member)
              change offsetFrom first.parseSequenceNumber packet < 48 at fits
              omega
            · change offsetFrom first.parseSequenceNumber packet = 47 at isLast
              rcases mem_cons.mp member with rfl | later
              · rw [offsetFrom_self] at isLast
                cases isLast
              · exact absurd ⟨packet, later, isLast⟩ full

def headerOnly (seqNum : UInt16) : Packet where
  length := 12
  data := Buffer.zeros.overwrite 2 (Bytes.uint16Bytes seqNum)

theorem insertZerosInBitMasks_inside_earlyEnd :
    (∃ numColumns widened, insertZerosInBitMasks [headerOnly 7, headerOnly 54, headerOnly 99]
        (maskRows Buffer.zeros 3 2) = some (numColumns, widened) ∧ numColumns ≤ 48) ↔
      ColumnsFit [headerOnly 7, headerOnly 54, headerOnly 99] :=
  insertZerosInBitMasks_inside_iff [headerOnly 7, headerOnly 54, headerOnly 99] Buffer.zeros 2
    (by rw [Ascending]; decide) (by decide) (by decide)

/-- The second packet goes to column 48. -/
theorem not_insertZerosInBitMasks_inside :
    ¬ ∃ numColumns widened, insertZerosInBitMasks [headerOnly 7, headerOnly 55]
        (maskRows Buffer.zeros 2 1) = some (numColumns, widened) ∧ numColumns ≤ 48 := by
  rintro ⟨numColumns, widened, widenedEq, -⟩
  have outside : insertZerosInBitMasks [headerOnly 7, headerOnly 55] (maskRows Buffer.zeros 2 1) =
      none := by
    decide
  rw [outside] at widenedEq
  cases widenedEq

end ZyWebRtc.Fec
