import Mathlib.Tactic

namespace ZyWebRtc.Rtp

/-! The header extensions an RTP receiver has registered, by the four-bit
identifier that announces them in a packet. -/

open List

inductive RTPExtensionType
  | none
  | transmissionTimeOffset
  | audioLevel
  | absoluteSendTime
  deriving DecidableEq, Repr

/-- The entries of the map. `Register` accepts only the identifiers of the
one-byte header form, and no identifier twice. -/
structure RtpHeaderExtensionMap where
  extensionMap : List (UInt8 × RTPExtensionType)
  idsInRange : ∀ entry ∈ extensionMap, 1 ≤ entry.1 ∧ entry.1 ≤ 14
  idsDistinct : (extensionMap.map Prod.fst).Nodup

namespace RtpHeaderExtensionMap

def empty : RtpHeaderExtensionMap where
  extensionMap := []
  idsInRange := by simp
  idsDistinct := nodup_nil

section

variable (map : RtpHeaderExtensionMap)

def getType (id : UInt8) : Option RTPExtensionType :=
  map.extensionMap.lookup id

theorem notMember_of_getType_eq_none {map : RtpHeaderExtensionMap} {id : UInt8}
    (unregistered : map.getType id = none) : id ∉ map.extensionMap.map Prod.fst := by
  intro member
  rcases List.mem_map.mp member with ⟨entry, entryMember, rfl⟩
  have different := lookup_eq_none_iff.mp unregistered entry entryMember
  simp at different

/-- The map after `Register`, and the status it returns. -/
def register (type : RTPExtensionType) (id : UInt8) :
    Int × RtpHeaderExtensionMap :=
  if inRange : 1 ≤ id ∧ id ≤ 14 then
    match registered : map.getType id with
    | some other => (if other ≠ type then -1 else 0, map)
    | Option.none => (0, {
        extensionMap := (id, type) :: map.extensionMap
        idsInRange := by
          intro entry member
          rcases mem_cons.mp member with rfl | earlier
          · exact inRange
          · exact map.idsInRange entry earlier
        idsDistinct :=
          nodup_cons.mpr ⟨notMember_of_getType_eq_none registered, map.idsDistinct⟩ })
  else (-1, map)

example : (empty.register .audioLevel 15).1 = -1 := by decide

theorem getType_zero : map.getType 0 = Option.none := by
  rw [getType, lookup_eq_none_iff]
  intro entry member
  have inRange := map.idsInRange entry member
  rw [bne_iff_ne]
  intro same
  rw [← same] at inRange
  exact absurd inRange.1 (by decide)

/-! ## Iteration

The extensions are kept in a `std::map`, which is gone through by ascending
identifier. -/

def headerExtensionIds : List UInt8 := (List.range' 1 14).map UInt8.ofNat

/-- The entries in the order of the map. -/
def inOrder : List (UInt8 × RTPExtensionType) :=
  headerExtensionIds.filterMap fun id => (map.getType id).map (Prod.mk id)

def size : Nat := map.inOrder.length

def getId (type : RTPExtensionType) : Option UInt8 :=
  (map.inOrder.find? (·.2 = type)).map Prod.fst

/-- The type of the entry that an iterator stands at. -/
def typeAt (entries : List (UInt8 × RTPExtensionType)) : RTPExtensionType :=
  (entries.head?.map Prod.snd).getD .none

def first : RTPExtensionType := typeAt map.inOrder

def next (type : RTPExtensionType) : RTPExtensionType :=
  match map.getId type with
  | Option.none => .none
  | some id => typeAt (map.inOrder.dropWhile (·.1 ≠ id)).tail

/-- The map after `Deregister`, and the status it returns. -/
def deregister (type : RTPExtensionType) :
    Int × RtpHeaderExtensionMap :=
  match map.getId type with
  | Option.none => (0, map)
  | some id => (0, {
      extensionMap := map.extensionMap.filter fun entry => entry.1 ≠ id
      idsInRange := fun entry member => map.idsInRange entry (mem_of_mem_filter member)
      idsDistinct := map.idsDistinct.sublist (filter_sublist.map Prod.fst) })

end

def exampleMap : RtpHeaderExtensionMap :=
  ((empty.register .absoluteSendTime 5).2.register .transmissionTimeOffset 3).2

theorem mem_headerExtensionIds {id : UInt8} : id ∈ headerExtensionIds ↔ 1 ≤ id ∧ id ≤ 14 := by
  have low : (1 : UInt8).toNat = 1 := rfl
  have high : (14 : UInt8).toNat = 14 := rfl
  rw [UInt8.le_iff_toNat_le, UInt8.le_iff_toNat_le, low, high, headerExtensionIds, List.mem_map]
  constructor
  · rintro ⟨number, inRange, rfl⟩
    rw [mem_range'_1] at inRange
    rw [UInt8.toNat_ofNat']
    omega
  · rintro ⟨above, below⟩
    exact ⟨id.toNat, mem_range'_1.mpr ⟨above, by omega⟩, UInt8.ofNat_toNat⟩

section

variable {map : RtpHeaderExtensionMap} {id : UInt8} {type : RTPExtensionType}

theorem idInRange_of_getType (registered : map.getType id = some type) : 1 ≤ id ∧ id ≤ 14 := by
  rw [getType, List.lookup_eq_some_iff] at registered
  rcases registered with ⟨before, after, split, -⟩
  exact map.idsInRange (id, type) (by simp [split])

theorem mem_inOrder : (id, type) ∈ map.inOrder ↔ map.getType id = some type := by
  rw [inOrder, mem_filterMap]
  constructor
  · rintro ⟨other, -, entry⟩
    rcases Option.map_eq_some_iff.mp entry with ⟨found, registered, same⟩
    cases same
    exact registered
  · intro registered
    exact ⟨id, mem_headerExtensionIds.mpr (idInRange_of_getType registered), by
      rw [registered, Option.map_some]⟩

theorem getType_of_getId {map : RtpHeaderExtensionMap} {type : RTPExtensionType} {id : UInt8}
    (found : map.getId type = some id) : map.getType id = some type := by
  rcases Option.map_eq_some_iff.mp found with ⟨entry, entryFound, rfl⟩
  have same : entry.2 = type := by simpa using List.find?_some entryFound
  apply mem_inOrder.mp
  rw [← same]
  exact List.mem_of_find?_eq_some entryFound

theorem getId_eq_none_iff {map : RtpHeaderExtensionMap} {type : RTPExtensionType} :
    map.getId type = Option.none ↔ ∀ id, map.getType id ≠ some type := by
  rw [getId, Option.map_eq_none_iff, List.find?_eq_none]
  constructor
  · intro others id registered
    simpa using others (id, type) (mem_inOrder.mpr registered)
  · rintro unregistered ⟨id, found⟩ member
    rw [decide_eq_true_eq]
    rintro rfl
    exact unregistered id (mem_inOrder.mp member)

theorem getType_eq_some_iff : map.getType id = some type ↔ (id, type) ∈ map.extensionMap := by
  rw [getType, List.lookup_eq_some_iff]
  constructor
  · rintro ⟨before, after, split, -⟩
    rw [split]
    exact mem_append_right _ mem_cons_self
  · intro member
    rcases append_of_mem member with ⟨before, after, split⟩
    refine ⟨before, after, split, fun entry earlier => ?_⟩
    have distinct := map.idsDistinct
    rw [split, map_append, map_cons, nodup_append] at distinct
    have different := distinct.2.2 _ (List.mem_map_of_mem earlier) _ mem_cons_self
    simpa using different.symm

end

theorem nodup_ids (map : RtpHeaderExtensionMap) : (map.inOrder.map Prod.fst).Nodup := by
  have ids : map.inOrder.map Prod.fst =
      headerExtensionIds.filter fun id => (map.getType id).isSome := by
    rw [inOrder, map_filterMap, ← filterMap_eq_filter]
    apply filterMap_congr
    intro id _
    cases registered : map.getType id <;> simp [Option.guard, registered]
  rw [ids]
  exact List.Nodup.filter _ (by decide)

end RtpHeaderExtensionMap

end ZyWebRtc.Rtp
