import ZyWebRtc.Rtcp.ReceiveInformation

namespace ZyWebRtc.Rtcp

/-! What `TMMBRReceived` collects of the requests and their timeouts. -/

open List hiding length after next map count set nil cons head

namespace RTCPReceiveInformation

/-- The entries with the timeouts at their indexes. -/
def requests (info : RTCPReceiveInformation) : List (SetElement × Int) :=
  info.tmmbrSet.entries.zip info.tmmbrSetTimeouts

theorem zip_set {First Second : Type} (first : First) (second : Second) (firsts : List First)
    (seconds : List Second) : ∀ index, (firsts.set index first).zip (seconds.set index second) =
        (firsts.zip seconds).set index (first, second) := by
  induction firsts generalizing seconds with
  | nil => exact fun _ => rfl
  | cons head rest induction =>
    intro index
    cases seconds with
    | nil => cases index <;> rfl
    | cons other others =>
      cases index with
      | zero => rfl
      | succ index => exact congrArg ((head, other) :: ·) (induction others index)

/-- There is one timeout for each entry. -/
structure Paired (info : RTCPReceiveInformation) : Prop where
  allocated : info.tmmbrSet.Allocated
  counted : info.tmmbrSetTimeouts.length = info.tmmbrSet.lengthOfSet

section Paired

variable {info : RTCPReceiveInformation}

theorem Paired.lengths (paired : Paired info) :
    info.tmmbrSet.entries.length = info.tmmbrSetTimeouts.length := by
  rw [paired.allocated.length_entries, paired.counted]

theorem Paired.length_requests (paired : Paired info) :
    info.requests.length = info.tmmbrSet.lengthOfSet := by
  rw [requests, length_zip, paired.lengths, Nat.min_self, paired.counted]

theorem Paired.map_fst (paired : Paired info) :
    info.requests.map Prod.fst = info.tmmbrSet.entries :=
  map_fst_zip paired.lengths.le

theorem Paired.map_snd (paired : Paired info) :
    info.requests.map Prod.snd = info.tmmbrSetTimeouts :=
  map_snd_zip paired.lengths.ge

theorem paired_create : Paired create := ⟨TMMBRSet.allocated_empty, rfl⟩

theorem Paired.at_index (paired : Paired info) {front rest : List (SetElement × Int)}
    {request : SetElement × Int} (parts : info.requests = front ++ request :: rest) :
    front.length < info.tmmbrSet.lengthOfSet ∧ info.tmmbrSet.data[front.length]? = some request.1 ∧
      info.tmmbrSetTimeouts[front.length]? = some request.2 := by
  have inUse : front.length < info.tmmbrSet.lengthOfSet := by
    rw [← paired.length_requests, parts, length_append, length_cons]
    omega
  have entry : info.tmmbrSet.entries[front.length]? = some request.1 := by
    rw [← paired.map_fst, parts]
    simp
  refine ⟨inUse, ?_, ?_⟩
  · rw [TMMBRSet.entries, List.getElem?_take_of_lt inUse] at entry
    exact entry
  · rw [← paired.map_snd, parts]
    simp

end Paired

/-- The requests that are left of a list, and those that are found while there is room. The
loop moves on after a removal, too, and passes over the next request. -/
def scan (currentTimeMS : Int) :
    (room : Nat) → List (SetElement × Int) → List (SetElement × Int) × List SetElement
  | 0, requests => (requests, [])
  | _ + 1, [] => ([], [])
  | _ + 1, [request] =>
    if timedOut currentTimeMS request.2 then ([], []) else ([request], [request.1])
  | room + 1, request :: next :: later =>
    if timedOut currentTimeMS request.2 then
      let (left, found) := scan currentTimeMS (room + 1) later
      (next :: left, found)
    else
      let (left, found) := scan currentTimeMS room (next :: later)
      (request :: left, request.1 :: found)

def passesOver (currentTimeMS : Int) : (room : Nat) → List (SetElement × Int) → Bool
  | 0, _ => false
  | _ + 1, [] => false
  | _ + 1, [_] => false
  | room + 1, request :: next :: later =>
    if timedOut currentTimeMS request.2 then
      !timedOut currentTimeMS next.2 || passesOver currentTimeMS (room + 1) later
    else passesOver currentTimeMS room (next :: later)

def fresh (currentTimeMS : Int) (requests : List (SetElement × Int)) : List SetElement :=
  (requests.filter fun request => !timedOut currentTimeMS request.2).map Prod.fst

theorem scan_left_sublist (currentTimeMS : Int) (room : Nat)
    (requests : List (SetElement × Int)) :
    (scan currentTimeMS room requests).1.Sublist requests := by
  induction room, requests using scan.induct currentTimeMS with
  | case1 requests => rw [scan]
  | case2 room => exact List.Sublist.refl _
  | case3 room request expired =>
    rw [scan, if_pos expired]
    exact nil_sublist _
  | case4 room request current =>
    rw [scan, if_neg current]
  | case5 room request next later expired left found same induction =>
    rw [scan, if_pos expired]
    exact (List.Sublist.cons_cons next induction).cons request
  | case6 room request next later current left found same induction =>
    rw [scan, if_neg current]
    exact List.Sublist.cons_cons request induction

theorem scan_found (currentTimeMS : Int) (room : Nat) (requests : List (SetElement × Int))
    (separate : passesOver currentTimeMS room requests = false) :
    (scan currentTimeMS room requests).2 = (fresh currentTimeMS requests).take room := by
  induction room, requests using scan.induct currentTimeMS with
  | case1 requests =>
    rw [scan]
    rfl
  | case2 room => rfl
  | case3 room request expired =>
    rw [scan, if_pos expired]
    simp [fresh, expired]
  | case4 room request current =>
    rw [scan, if_neg current]
    simp [fresh, current]
  | case5 room request next later expired left found same induction =>
    rw [passesOver, if_pos expired, Bool.or_eq_false_iff] at separate
    have nextExpired : timedOut currentTimeMS next.2 = true := by
      simpa using separate.1
    rw [scan, if_pos expired]
    have first := induction separate.2
    simpa [fresh, expired, nextExpired] using first
  | case6 room request next later current left found same induction =>
    rw [passesOver, if_neg current] at separate
    rw [scan, if_neg current]
    have first := induction separate
    simp only [Bool.not_eq_true] at current
    simp only [fresh, filter_cons, current] at first ⊢
    simp [first]

/-! ## The loop over one remote -/

end RTCPReceiveInformation

def TMMBRSet.setEntries : (index : Nat) → List SetElement → TMMBRSet → TMMBRSet
  | _, [], set => set
  | index, element :: rest, set =>
    setEntries (index + 1) rest
      { data := set.data.set index element, lengthOfSet := max set.lengthOfSet (index + 1) }

theorem TMMBRSet.setEntries_append (first second : List SetElement) :
    ∀ index (set : TMMBRSet), set.setEntries index (first ++ second) =
      (set.setEntries index first).setEntries (index + first.length) second := by
  induction first with
  | nil => exact fun _ _ => rfl
  | cons element rest induction =>
    intro index set
    rw [cons_append, setEntries, setEntries, induction, length_cons, Nat.add_assoc,
      Nat.add_comm 1]

@[simp] theorem TMMBRSet.setEntries_sizeOfSet (elements : List SetElement) :
    ∀ index (set : TMMBRSet), (set.setEntries index elements).sizeOfSet = set.sizeOfSet := by
  induction elements with
  | nil => exact fun _ _ => rfl
  | cons element rest induction =>
    intro index set
    rw [setEntries, induction]
    exact length_set

namespace RTCPReceiveInformation

section Loop

variable {info : RTCPReceiveInformation} {front rest : List (SetElement × Int)}
  {request : SetElement × Int} (currentTimeMS : Int)

theorem getTMMBRSet_full {targetIdx : Nat} {candidateSet : TMMBRSet} (sourceIdx : Nat)
    (full : candidateSet.sizeOfSet ≤ targetIdx) :
    info.getTMMBRSet sourceIdx targetIdx candidateSet currentTimeMS =
      some (-1, candidateSet, info) := by
  rw [getTMMBRSet]
  split
  · rfl
  · rfl

section

variable (paired : Paired info) {targetIdx : Nat} {candidateSet : TMMBRSet}
  (parts : info.requests = front ++ request :: rest) (room : targetIdx < candidateSet.sizeOfSet)

include paired parts room

theorem Paired.getTMMBRSet_removed (expired : timedOut currentTimeMS request.2 = true) :
    ∃ next, info.getTMMBRSet front.length targetIdx candidateSet currentTimeMS =
        some (-1, candidateSet, next) ∧
      Paired next ∧ next.requests = front ++ rest := by
  rcases paired.at_index parts with ⟨inUse, _, timeout⟩
  rcases paired.allocated.removeEntry inUse with ⟨set, removed, allocated, length, entries⟩
  refine ⟨{ info with
    tmmbrSet := set
    tmmbrSetTimeouts := info.tmmbrSetTimeouts.eraseIdx front.length }, ?_, ⟨allocated, ?_⟩, ?_⟩
  · rw [getTMMBRSet, if_neg (Nat.not_le.mpr inUse), if_neg (Nat.not_le.mpr room), timeout]
    dsimp only [Option.bind_eq_bind, Option.bind_some]
    rw [if_pos expired, removed]
    rfl
  · change (info.tmmbrSetTimeouts.eraseIdx front.length).length = set.lengthOfSet
    rw [length, length_eraseIdx_of_lt (by rw [paired.counted]; exact inUse), paired.counted]
  · have erased : (front ++ request :: rest).eraseIdx front.length = front ++ rest := by
      rw [eraseIdx_append_of_length_le (Nat.le_refl _), Nat.sub_self]
      rfl
    change set.entries.zip (info.tmmbrSetTimeouts.eraseIdx front.length) = front ++ rest
    rw [entries, ← paired.map_fst, ← paired.map_snd, parts, eraseIdx_map,
      eraseIdx_map, erased]
    exact (zip_of_prod rfl rfl).symm

theorem Paired.getTMMBRSet_found (current : ¬ timedOut currentTimeMS request.2 = true) :
    info.getTMMBRSet front.length targetIdx candidateSet currentTimeMS =
      some (0, candidateSet.setEntries targetIdx [request.1], info) := by
  rcases paired.at_index parts with ⟨inUse, entry, timeout⟩
  rw [getTMMBRSet, if_neg (Nat.not_le.mpr inUse), if_neg (Nat.not_le.mpr room), timeout]
  dsimp only [Option.bind_eq_bind, Option.bind_some]
  rw [if_neg current, entry]
  dsimp only [Option.bind_some]
  rw [TMMBRSet.setEntry, if_pos room]
  rfl

end

theorem collect_step {size fuel i num : Nat} {candidateSet candidates : TMMBRSet} {value : Int}
    {next : RTCPReceiveInformation} (more : num < size ∧ i < info.tmmbrSet.lengthOfSet)
    (got : info.getTMMBRSet i num candidateSet currentTimeMS = some (value, candidates, next)) :
    info.collect size currentTimeMS (fuel + 1) i num candidateSet =
      next.collect size currentTimeMS fuel (i + 1) (if value = 0 then num + 1 else num)
        candidates := by
  rw [collect, if_pos more, got]
  rfl

theorem collect_done {size fuel i num : Nat} {candidateSet : TMMBRSet}
    (done : ¬ (num < size ∧ i < info.tmmbrSet.lengthOfSet)) :
    info.collect size currentTimeMS (fuel + 1) i num candidateSet =
      some (num, candidateSet, info) := by
  rw [collect, if_neg done]

theorem collect_full {size num : Nat} {candidateSet : TMMBRSet}
    (full : min size candidateSet.sizeOfSet ≤ num) (fuel : Nat) :
    ∀ i, info.tmmbrSet.lengthOfSet - i < fuel →
      info.collect size currentTimeMS fuel i num candidateSet = some (num, candidateSet, info) := by
  induction fuel with
  | zero => exact fun _ enough => absurd enough (Nat.not_lt_zero _)
  | succ fuel induction =>
    intro i enough
    by_cases more : num < size ∧ i < info.tmmbrSet.lengthOfSet
    · rw [collect, if_pos more, getTMMBRSet_full currentTimeMS i (by omega)]
      exact induction (i + 1) (by omega)
    · exact collect_done currentTimeMS more

theorem Paired.collect_scan (size room : Nat) (back : List (SetElement × Int)) :
    ∀ {info : RTCPReceiveInformation} {front : List (SetElement × Int)}
      (fuel num : Nat) (candidateSet : TMMBRSet), Paired info →
      info.requests = front ++ back → back.length < fuel →
      min size candidateSet.sizeOfSet - num = room →
      ∃ next, info.collect size currentTimeMS fuel front.length num candidateSet =
          some (num + (scan currentTimeMS room back).2.length,
            candidateSet.setEntries num (scan currentTimeMS room back).2, next) ∧
        Paired next ∧ next.requests = front ++ (scan currentTimeMS room back).1 := by
  induction room, back using scan.induct currentTimeMS with
  | case1 back =>
    intro info front fuel num candidateSet paired parts enough limit
    have count := paired.length_requests
    rw [parts, length_append] at count
    refine ⟨info, ?_, paired, ?_⟩
    · rw [scan, collect_full currentTimeMS (by omega) fuel front.length (by omega)]
      rfl
    · rw [scan]
      exact parts
  | case2 room =>
    intro info front fuel num candidateSet paired parts enough limit
    have count := paired.length_requests
    rw [parts, append_nil] at count
    cases fuel with
    | zero => exact absurd enough (Nat.not_lt_zero _)
    | succ fuel =>
      refine ⟨info, ?_, paired, parts⟩
      exact collect_done currentTimeMS (by omega)
  | case3 room request expired =>
    intro info front fuel num candidateSet paired parts enough limit
    have inUse := (paired.at_index parts).1
    have vacant : num < candidateSet.sizeOfSet := by omega
    rcases paired.getTMMBRSet_removed currentTimeMS parts vacant expired with
      ⟨next, got, kept, left⟩
    have count := kept.length_requests
    rw [left, append_nil] at count
    rcases fuel with _ | _ | fuel
    · exact absurd enough (Nat.not_lt_zero _)
    · exact absurd enough (Nat.lt_irrefl _)
    refine ⟨next, ?_, kept, ?_⟩
    · rw [collect_step currentTimeMS ⟨by omega, inUse⟩ got, scan, if_pos expired]
      exact collect_done currentTimeMS (by omega)
    · rw [left, scan, if_pos expired]
  | case4 room request current =>
    intro info front fuel num candidateSet paired parts enough limit
    have inUse := (paired.at_index parts).1
    have vacant : num < candidateSet.sizeOfSet := by omega
    have got := paired.getTMMBRSet_found currentTimeMS parts vacant current
    have count := paired.length_requests
    rw [parts, length_append, length_singleton] at count
    rcases fuel with _ | _ | fuel
    · exact absurd enough (Nat.not_lt_zero _)
    · exact absurd enough (Nat.lt_irrefl _)
    refine ⟨info, ?_, paired, ?_⟩
    · rw [collect_step currentTimeMS ⟨by omega, inUse⟩ got, scan, if_neg current]
      exact collect_done currentTimeMS (by omega)
    · rw [parts, scan, if_neg current]
  | case5 room request next later expired left found same induction =>
    intro info front fuel num candidateSet paired parts enough limit
    have inUse := (paired.at_index parts).1
    have vacant : num < candidateSet.sizeOfSet := by omega
    rcases paired.getTMMBRSet_removed currentTimeMS parts vacant expired with
      ⟨removed, got, kept, rest⟩
    rw [append_cons] at rest
    rw [length_cons, length_cons] at enough
    cases fuel with
    | zero => exact absurd enough (Nat.not_lt_zero _)
    | succ fuel =>
      rcases induction fuel num candidateSet kept rest (by omega) limit with
        ⟨last, run, lastPaired, lastParts⟩
      rw [length_append] at run
      refine ⟨last, ?_, lastPaired, ?_⟩
      · rw [collect_step currentTimeMS ⟨by omega, inUse⟩ got, scan, if_pos expired]
        exact run
      · rw [lastParts, scan, if_pos expired, append_assoc]
        rfl
  | case6 room request next later current left found same induction =>
    intro info front fuel num candidateSet paired parts enough limit
    have inUse := (paired.at_index parts).1
    have vacant : num < candidateSet.sizeOfSet := by omega
    have got := paired.getTMMBRSet_found currentTimeMS parts vacant current
    rw [append_cons] at parts
    rw [length_cons] at enough
    cases fuel with
    | zero => exact absurd enough (Nat.not_lt_zero _)
    | succ fuel =>
      rcases induction fuel (num + 1) (candidateSet.setEntries num [request.1]) paired parts
        (by omega) (by rw [TMMBRSet.setEntries_sizeOfSet]; omega) with
        ⟨last, run, lastPaired, lastParts⟩
      rw [length_append] at run
      refine ⟨last, ?_, lastPaired, ?_⟩
      · rw [collect_step currentTimeMS ⟨by omega, inUse⟩ got, scan, if_neg current]
        refine run.trans ?_
        rw [Nat.add_right_comm]
        rfl
      · rw [lastParts, scan, if_neg current, append_assoc]
        rfl

theorem Paired.collect_requests (paired : Paired info) (size num : Nat)
    (candidateSet : TMMBRSet) :
    ∃ next, info.collect size currentTimeMS (info.tmmbrSet.lengthOfSet + 1) 0 num candidateSet =
        some (num + (scan currentTimeMS (min size candidateSet.sizeOfSet - num)
            info.requests).2.length,
          candidateSet.setEntries num (scan currentTimeMS (min size candidateSet.sizeOfSet - num)
            info.requests).2, next) ∧
      Paired next ∧ next.requests = (scan currentTimeMS (min size candidateSet.sizeOfSet - num)
        info.requests).1 := by
  have enough : info.requests.length < info.tmmbrSet.lengthOfSet + 1 := by
    rw [paired.length_requests]
    exact Nat.lt_succ_self _
  have parts : info.requests = [] ++ info.requests := rfl
  exact Paired.collect_scan currentTimeMS size _ info.requests _ num candidateSet paired parts
    enough rfl

end Loop

/-- What a collection may do to the information about a remote. -/
structure Thinned (before after : RTCPReceiveInformation) : Prop where
  paired : Paired after
  requests : after.requests.Sublist before.requests

end RTCPReceiveInformation

/-! ## The loop over the remotes -/

namespace TmmbrReceiver

open RTCPReceiveInformation

def due (currentTimeMS : Int) (map : List (UInt32 × RTCPReceiveInformation)) : List SetElement :=
  map.flatMap fun entry => fresh currentTimeMS entry.2.requests

theorem due_cons (currentTimeMS : Int) (entry : UInt32 × RTCPReceiveInformation)
    (rest : List (UInt32 × RTCPReceiveInformation)) :
    due currentTimeMS (entry :: rest) =
      fresh currentTimeMS entry.2.requests ++ due currentTimeMS rest := flatMap_cons

def passesOverAny (currentTimeMS : Int) :
    (room : Nat) → List (UInt32 × RTCPReceiveInformation) → Bool
  | _, [] => false
  | room, entry :: rest =>
    passesOver currentTimeMS room entry.2.requests ||
      passesOverAny currentTimeMS (room - (fresh currentTimeMS entry.2.requests).length) rest

/-- The information about a remote, with its key, after a collection. -/
def ThinnedEntry (before after : UInt32 × RTCPReceiveInformation) : Prop :=
  after.1 = before.1 ∧ Thinned before.2 after.2

theorem thinned_unchanged {map : List (UInt32 × RTCPReceiveInformation)}
    (paired : ∀ entry ∈ map, Paired entry.2) : List.Forall₂ ThinnedEntry map map := by
  apply List.forall₂_same.mpr
  exact fun entry member => ⟨rfl, paired entry member, List.Sublist.refl _⟩

section

variable {before after : List (UInt32 × RTCPReceiveInformation)}
  (thinned : List.Forall₂ ThinnedEntry before after)

include thinned

theorem thinned_origin : ∀ entry ∈ after, ∃ old ∈ before, ThinnedEntry old entry := by
  induction thinned with
  | nil => exact fun _ member => absurd member not_mem_nil
  | cons first later induction =>
    intro entry member
    rcases List.mem_cons.mp member with rfl | other
    · exact ⟨_, mem_cons_self, first⟩
    · rcases induction entry other with ⟨old, oldMember, same⟩
      exact ⟨old, mem_cons_of_mem _ oldMember, same⟩

theorem thinned_sorted (sorted : SortedMap.Sorted before) :
    SortedMap.Sorted after := by
  induction thinned with
  | nil => exact sorted
  | cons first later induction =>
    rcases List.pairwise_cons.mp sorted with ⟨least, rest⟩
    apply List.pairwise_cons.mpr
    refine ⟨fun entry member => ?_, induction rest⟩
    rcases thinned_origin later entry member with ⟨old, oldMember, same⟩
    rw [first.1, same.1]
    exact least old oldMember

end

theorem collectAll_due (currentTimeMS : Int) (size : Nat)
    (map : List (UInt32 × RTCPReceiveInformation)) :
    ∀ (room num : Nat) (candidateSet : TMMBRSet), (∀ entry ∈ map, Paired entry.2) →
      min size candidateSet.sizeOfSet - num = room →
      passesOverAny currentTimeMS room map = false →
      ∃ next, collectAll size currentTimeMS num candidateSet map =
          some (num + ((due currentTimeMS map).take room).length,
            candidateSet.setEntries num ((due currentTimeMS map).take room), next) ∧
        List.Forall₂ ThinnedEntry map next := by
  induction map with
  | nil =>
    intro room num candidateSet _ _ _
    rw [due, flatMap_nil, take_nil]
    exact ⟨[], rfl, .nil⟩
  | cons entry rest induction =>
    intro room num candidateSet paired limit separate
    by_cases more : num < size
    · rw [passesOverAny, Bool.or_eq_false_iff] at separate
      have first := paired entry mem_cons_self
      have later := fun other member => paired other (mem_cons_of_mem entry member)
      rcases first.collect_requests currentTimeMS size num candidateSet with
        ⟨info, collected, infoPaired, left⟩
      rw [limit, scan_found _ _ _ separate.1] at collected
      have roomLeft : min size (candidateSet.setEntries num
            ((fresh currentTimeMS entry.2.requests).take room)).sizeOfSet -
            (num + ((fresh currentTimeMS entry.2.requests).take room).length) =
          room - (fresh currentTimeMS entry.2.requests).length := by
        rw [TMMBRSet.setEntries_sizeOfSet, length_take]
        omega
      rcases induction _ _ _ later roomLeft separate.2 with ⟨map, run, thinned⟩
      refine ⟨(entry.1, info) :: map, ?_, .cons ⟨rfl, infoPaired, ?_⟩ thinned⟩
      · rw [collectAll, if_pos more]
        change (entry.2.collect _ _ _ _ _ _).bind _ = _
        rw [collected]
        change (collectAll _ _ _ _ _).bind _ = _
        rw [run, due_cons, take_append, TMMBRSet.setEntries_append,
          length_append, ← Nat.add_assoc]
        rfl
      · rw [left]
        exact scan_left_sublist _ _ _
    · have none : room = 0 := by omega
      rw [collectAll, if_neg more, none, take_zero]
      exact ⟨entry :: rest, rfl, thinned_unchanged paired⟩

/-- The requests that have not timed out are put into the candidate set, as many as there is
room for. -/
theorem tmmbrReceived_due {receiver : TmmbrReceiver} {size accNumCandidates : UInt32}
    {candidateSet : TMMBRSet} {currentTimeMS : Int} {room : Nat}
    (paired : ∀ entry ∈ receiver.receivedInfoMap, Paired entry.2)
    (limit : min size.toNat candidateSet.sizeOfSet - accNumCandidates.toNat = room)
    (separate : passesOverAny currentTimeMS room receiver.receivedInfoMap = false) :
    ∃ value next, receiver.tmmbrReceived size accNumCandidates (some candidateSet) currentTimeMS =
          some (value, some (candidateSet.setEntries accNumCandidates.toNat
            ((due currentTimeMS receiver.receivedInfoMap).take room)), next) ∧
        (receiver.receivedInfoMap ≠ [] → value = Int32.ofNat (accNumCandidates.toNat +
          ((due currentTimeMS receiver.receivedInfoMap).take room).length)) ∧
        next.mainSsrc = receiver.mainSsrc ∧
        List.Forall₂ ThinnedEntry receiver.receivedInfoMap next.receivedInfoMap := by
  by_cases unknown : receiver.receivedInfoMap = []
  · refine ⟨-1, receiver, ?_, fun known => absurd unknown known, rfl, thinned_unchanged paired⟩
    rw [tmmbrReceived, if_pos unknown, unknown, due, flatMap_nil, take_nil]
    rfl
  · rcases collectAll_due currentTimeMS size.toNat receiver.receivedInfoMap room
      accNumCandidates.toNat candidateSet paired limit separate with ⟨map, run, thinned⟩
    refine ⟨_, { receiver with receivedInfoMap := map }, ?_, fun _ => rfl, rfl, thinned⟩
    rw [tmmbrReceived, if_neg unknown, run]
    rfl

end TmmbrReceiver

end ZyWebRtc.Rtcp
