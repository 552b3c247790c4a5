import ZyWebRtc.Foundation.Run
import ZyWebRtc.Rtcp.TmmbrCollection

namespace ZyWebRtc.Rtcp

/-! In runs of a receiver every bit rate request keeps the time at which its source was heard. -/

open List Option

/-! ## When the sources were heard -/

/-- A request for a limit that this endpoint has accepted. -/
structure HeardRequest where
  remote : UInt32
  requester : UInt32
  time : Int
  deriving DecidableEq

/-- The last time at which a remote has passed on a request of a source; the list begins with
the latest request. -/
def lastHeard (heard : List HeardRequest) (remote requester : UInt32) : Option Int :=
  (heard.find? fun request => request.remote = remote ∧ request.requester = requester).map (·.time)

theorem lastHeard_self (heard : List HeardRequest) (remote requester : UInt32) (time : Int) :
    lastHeard ({ remote, requester, time } :: heard) remote =
      Function.update (lastHeard heard remote) requester (some time) := by
  funext other
  by_cases same : other = requester
  · subst same
    simp [lastHeard]
  · simp [lastHeard, Function.update_of_ne same, Ne.symm same]

theorem lastHeard_other {remote other : UInt32} (heard : List HeardRequest) (requester : UInt32)
    (time : Int) (different : other ≠ remote) :
    lastHeard ({ remote, requester, time } :: heard) other = lastHeard heard other := by
  funext asked
  simp [lastHeard, Ne.symm different]

namespace RTCPReceiveInformation

/-- The timeouts are the times at which the sources of the entries were heard. -/
structure Kept (heardAt : UInt32 → Option Int) (info : RTCPReceiveInformation) : Prop where
  paired : Paired info
  heard : ∀ request ∈ info.requests, heardAt request.1.ssrc = some request.2
  distinct : (info.requests.map fun request => request.1.ssrc).Nodup

section Kept

variable {heardAt : UInt32 → Option Int} {info : RTCPReceiveInformation}

theorem kept_create (heardAt : UInt32 → Option Int) : Kept heardAt create :=
  ⟨paired_create, fun _ member => absurd member not_mem_nil, nodup_nil⟩

theorem Kept.timeouts (kept : Kept heardAt info) :
    info.tmmbrSetTimeouts.map some =
      info.tmmbrSet.entries.map fun element => heardAt element.ssrc := by
  rw [← kept.paired.map_fst, ← kept.paired.map_snd, List.map_map, List.map_map]
  apply map_congr_left
  exact fun request member => (kept.heard request member).symm

section

variable {next : RTCPReceiveInformation}

theorem Kept.of_requests (kept : Kept heardAt info)
    (paired : Paired next) (same : next.requests = info.requests) : Kept heardAt next := by
  refine ⟨paired, ?_, ?_⟩
  · rw [same]
    exact kept.heard
  · rw [same]
    exact kept.distinct

theorem Kept.of_same (kept : Kept heardAt info)
    (set : next.tmmbrSet = info.tmmbrSet)
    (timeouts : next.tmmbrSetTimeouts = info.tmmbrSetTimeouts) : Kept heardAt next := by
  apply kept.of_requests
  · refine ⟨?_, ?_⟩
    · rw [set]
      exact kept.paired.allocated
    · rw [set, timeouts]
      exact kept.paired.counted
  · rw [requests, requests, set, timeouts]

theorem Kept.thinned (kept : Kept heardAt info)
    (thinned : Thinned info next) : Kept heardAt next where
  paired := thinned.paired
  heard request member := kept.heard request (thinned.requests.subset member)
  distinct := kept.distinct.sublist (thinned.requests.map _)

theorem Paired.verifyAndAllocateTMMBRSet (paired : Paired info) (minimumSize : Nat) :
    Paired (info.verifyAndAllocateTMMBRSet minimumSize) ∧
      (info.verifyAndAllocateTMMBRSet minimumSize).requests = info.requests ∧
      (info.verifyAndAllocateTMMBRSet minimumSize).tmmbrSet.lengthOfSet =
        info.tmmbrSet.lengthOfSet ∧
      minimumSize ≤ (info.verifyAndAllocateTMMBRSet minimumSize).tmmbrSet.sizeOfSet := by
  rw [RTCPReceiveInformation.verifyAndAllocateTMMBRSet]
  split
  · have allocated := paired.allocated
    refine ⟨⟨allocated.verifyAndAllocateSetKeepingData minimumSize, paired.counted⟩, ?_, rfl, ?_⟩
    · rw [requests, requests, allocated.entries_verifyAndAllocateSetKeepingData]
    · rw [TMMBRSet.sizeOfSet, TMMBRSet.verifyAndAllocateSetKeepingData, length_append,
        length_replicate, TMMBRSet.sizeOfSet]
      omega
  · exact ⟨paired, rfl, rfl, by omega⟩

theorem Kept.cleared (kept : Kept heardAt info) (nothing : info.tmmbrSet.lengthOfSet = 0) :
    Kept heardAt { info with tmmbrSet := info.tmmbrSet.clearSet, lastTimeReceived := 0 } := by
  have none : info.tmmbrSetTimeouts = [] := by
    rw [← length_eq_zero_iff, kept.paired.counted, nothing]
  refine ⟨⟨TMMBRSet.clearSet_allocated _, ?_⟩, ?_, ?_⟩
  · rw [none]
    rfl
  · exact fun _ member => absurd member not_mem_nil
  · exact nodup_nil

theorem Kept.heard_update (kept : Kept heardAt info) {senderSSRC : UInt32} (currentTimeMS : Int)
    {request : SetElement × Int} (member : request ∈ info.requests)
    (other : request.1.ssrc ≠ senderSSRC) :
    Function.update heardAt senderSSRC (some currentTimeMS) request.1.ssrc = some request.2 := by
  rw [Function.update_of_ne other]
  exact kept.heard request member

theorem Kept.replaced {senderSSRC : UInt32}
    {front back : List (SetElement × Int)} {old new : SetElement × Int} (kept : Kept heardAt info)
    (paired : Paired next) (parts : info.requests = front ++ old :: back)
    (nextParts : next.requests = front ++ new :: back) (oldSource : old.1.ssrc = senderSSRC)
    (newSource : new.1.ssrc = senderSSRC) :
    Kept (Function.update heardAt senderSSRC (some new.2)) next := by
  have distinct := kept.distinct
  rw [parts, map_append, map_cons, oldSource] at distinct
  have absent := (nodup_cons.mp (nodup_middle.mp distinct)).1
  rw [← map_append] at absent
  refine ⟨paired, fun request member => ?_, ?_⟩
  · rw [nextParts] at member
    rcases mem_cons.mp (perm_middle.subset member) with rfl | unchanged
    · rw [newSource, Function.update_self]
    · apply kept.heard_update
      · rw [parts]
        exact perm_middle.symm.subset (mem_cons_of_mem old unchanged)
      · exact fun same => absent (List.mem_map.mpr ⟨request, unchanged, same⟩)
  · rw [nextParts, map_append, map_cons, newSource]
    exact distinct

theorem Kept.added {senderSSRC : UInt32}
    {new : SetElement × Int} (kept : Kept heardAt info) (paired : Paired next)
    (nextParts : next.requests = info.requests ++ [new]) (newSource : new.1.ssrc = senderSSRC)
    (absent : ∀ request ∈ info.requests, request.1.ssrc ≠ senderSSRC) :
    Kept (Function.update heardAt senderSSRC (some new.2)) next := by
  refine ⟨paired, fun request member => ?_, ?_⟩
  · rw [nextParts] at member
    rcases mem_append.mp member with old | last
    · exact kept.heard_update _ old (absent request old)
    · rw [mem_singleton.mp last, newSource, Function.update_self]
  · rw [nextParts, map_append]
    apply nodup_append.mpr
    refine ⟨kept.distinct, nodup_singleton _, fun source member last lastMember => ?_⟩
    rcases List.mem_map.mp member with ⟨request, old, rfl⟩
    rw [mem_singleton.mp lastMember]
    change request.1.ssrc ≠ new.1.ssrc
    rw [newSource]
    exact absent request old

end

theorem Kept.insertTMMBRItem (kept : Kept heardAt info) (senderSSRC : UInt32)
    (item : BitRateItem) (currentTimeMS : Int) :
    ∃ next, info.insertTMMBRItem senderSSRC item currentTimeMS = some next ∧
      Kept (Function.update heardAt senderSSRC (some currentTimeMS)) next := by
  have paired := kept.paired
  rw [RTCPReceiveInformation.insertTMMBRItem]
  cases found : info.tmmbrSet.entries.findIdx? fun element => element.ssrc = senderSSRC with
  | some index =>
    rcases List.findIdx?_eq_some_iff_getElem.mp found with ⟨inside, source, _⟩
    rw [paired.allocated.length_entries] at inside
    have inRequests : index < info.requests.length := by
      rw [paired.length_requests]
      exact inside
    have inTimeouts : index < info.tmmbrSetTimeouts.length := by
      rw [paired.counted]
      exact inside
    rcases paired.allocated.setEntry inside (requestElement senderSSRC item) with
      ⟨set, replaced, allocated, length, entries⟩
    have oldSource : info.requests[index].1.ssrc = senderSSRC := by
      simp only [requests, getElem_zip]
      exact of_decide_eq_true source
    have parts : info.requests =
        info.requests.take index ++ info.requests[index] :: info.requests.drop (index + 1) := by
      rw [getElem_cons_drop, take_append_drop]
    have nextParts : requests { info with
          tmmbrSet := set
          tmmbrSetTimeouts := info.tmmbrSetTimeouts.set index currentTimeMS } =
        info.requests.take index ++ (requestElement senderSSRC item, currentTimeMS) ::
          info.requests.drop (index + 1) := by
      have pairs : (info.tmmbrSet.entries.set index (requestElement senderSSRC item)).zip
          (info.tmmbrSetTimeouts.set index currentTimeMS) =
            info.requests.set index (requestElement senderSSRC item, currentTimeMS) :=
        zip_set _ _ _ _ index
      rw [requests, entries, pairs, set_eq_take_append_cons_drop, if_pos inRequests]
    have counted : (info.tmmbrSetTimeouts.set index currentTimeMS).length = set.lengthOfSet := by
      rw [length_set, paired.counted, length]
    refine ⟨{ info with
      tmmbrSet := set
      tmmbrSetTimeouts := info.tmmbrSetTimeouts.set index currentTimeMS }, ?_,
        kept.replaced ⟨allocated, counted⟩ parts nextParts oldSource rfl⟩
    dsimp only
    rw [replaced]
    exact if_pos inTimeouts
  | none =>
    have absent : ∀ request ∈ info.requests, request.1.ssrc ≠ senderSSRC := by
      intro request member
      have entry : request.1 ∈ info.tmmbrSet.entries := by
        rw [← paired.map_fst]
        exact List.mem_map_of_mem member
      exact of_decide_eq_false (List.findIdx?_eq_none_iff.mp found request.1 entry)
    rcases paired.verifyAndAllocateTMMBRSet (info.tmmbrSet.lengthOfSet + 1) with
      ⟨roomPaired, same, sameLength, vacant⟩
    dsimp only
    generalize info.verifyAndAllocateTMMBRSet (info.tmmbrSet.lengthOfSet + 1) = room at *
    rw [← sameLength] at vacant
    rcases TMMBRSet.addEntry_entries vacant (requestElement senderSSRC item) with
      ⟨set, added, allocated, length, entries⟩
    have counted : (room.tmmbrSetTimeouts ++ [currentTimeMS]).length = set.lengthOfSet := by
      rw [length_append, roomPaired.counted, length]
      rfl
    have nextParts : requests { room with
          tmmbrSet := set
          tmmbrSetTimeouts := room.tmmbrSetTimeouts ++ [currentTimeMS] } =
        info.requests ++ [(requestElement senderSSRC item, currentTimeMS)] := by
      rw [← same, requests, entries]
      exact zip_append roomPaired.lengths
    refine ⟨{ room with
      tmmbrSet := set
      tmmbrSetTimeouts := room.tmmbrSetTimeouts ++ [currentTimeMS] }, ?_,
        kept.added ⟨allocated, counted⟩ nextParts rfl absent⟩
    rw [added]
    rfl

end Kept

def heardRecently (currentTimeMS : Int) : Option Int → Bool
  | none => false
  | some time => currentTimeMS - time ≤ fiveIntervals

theorem Kept.fresh_eq {heardAt : UInt32 → Option Int} {info : RTCPReceiveInformation}
    (kept : Kept heardAt info) (currentTimeMS : Int) :
    fresh currentTimeMS info.requests = info.tmmbrSet.entries.filter fun element =>
        heardRecently currentTimeMS (heardAt element.ssrc) := by
  rw [fresh, ← kept.paired.map_fst, List.filter_map]
  congr 1
  apply filter_congr
  intro request member
  change (!timedOut currentTimeMS request.2) = heardRecently currentTimeMS (heardAt request.1.ssrc)
  rw [kept.heard request member, timedOut, heardRecently]
  simp only [gt_iff_lt, ← decide_not, not_lt]

end RTCPReceiveInformation

/-! ## Runs -/

open RTCPReceiveInformation TmmbrReceiver

/-- What a receiver does about requests. -/
inductive TmmbrEvent
  | report (remoteSSRC : UInt32)
  | bye (senderSSRC : UInt32)
  | tmmbr (sources : FeedbackSources) (lengthLeft : Nat) (items : List BitRateItem)
  | updateTimers
  | collect (size accNumCandidates : UInt32) (candidateSet : Option TMMBRSet)

/-- The requests that are heard with a message, the latest first. -/
def heardItems (mainSsrc remote requester : UInt32) (time : Int) :
    List BitRateItem → List HeardRequest → List HeardRequest
  | [], heard => heard
  | item :: rest, heard =>
    heardItems mainSsrc remote requester time rest
      (if accepts mainSsrc item then { remote, requester, time } :: heard else heard)

/-- A receiver and all requests that it has heard. -/
structure TimeoutRun where
  receiver : TmmbrReceiver
  heard : List HeardRequest
  deriving DecidableEq

namespace TimeoutRun

def started (mainSsrc : UInt32) : TimeoutRun :=
  { receiver := TmmbrReceiver.create mainSsrc, heard := [] }

def step (run : TimeoutRun) (operation : TmmbrEvent × Int) : Option TimeoutRun :=
  match operation.1 with
  | .report remoteSSRC =>
    some { run with
      receiver := run.receiver.handleSenderReceiverReport remoteSSRC operation.2 }
  | .bye senderSSRC => some { run with receiver := run.receiver.handleBYE senderSSRC }
  | .tmmbr sources lengthLeft items => do
    let receiver ← run.receiver.handleTMMBR sources lengthLeft items operation.2
    pure {
      receiver
      heard := if tooManyItems lengthLeft then run.heard
        else heardItems run.receiver.mainSsrc sources.senderSSRC (requester sources)
          operation.2 items run.heard }
  | .updateTimers =>
    some { run with
      receiver := (run.receiver.updateRTCPReceiveInformationTimers operation.2).2 }
  | .collect size accNumCandidates candidateSet => do
    let (_, _, receiver) ← run.receiver.tmmbrReceived size accNumCandidates candidateSet
      operation.2
    pure { run with receiver }

def room (size accNumCandidates : UInt32) (candidateSet : TMMBRSet) : Nat :=
  min size.toNat candidateSet.sizeOfSet - accNumCandidates.toNat

/-- No remote that has been silent for five intervals has requests left when the timers are
updated, and no request that has not timed out stands behind one that a collection removes. -/
def Allowed (run : TimeoutRun) (operation : TmmbrEvent × Int) : Prop :=
  match operation.1 with
  | .updateTimers =>
    ∀ entry ∈ run.receiver.receivedInfoMap,
      silent operation.2 entry.2 → entry.2.tmmbrSet.lengthOfSet = 0
  | .collect size accNumCandidates (some candidateSet) =>
    passesOverAny operation.2 (room size accNumCandidates candidateSet)
      run.receiver.receivedInfoMap = false
  | _ => True

instance (run : TimeoutRun) (operation : TmmbrEvent × Int) : Decidable (Allowed run operation) := by
  rcases operation with ⟨event, time⟩
  cases event with
  | updateTimers => exact inferInstanceAs (Decidable (∀ _ ∈ _, _))
  | collect size accNumCandidates candidateSet =>
    cases candidateSet with
    | none => exact .isTrue trivial
    | some candidateSet => exact inferInstanceAs (Decidable (_ = _))
  | report remoteSSRC => exact .isTrue trivial
  | bye senderSSRC => exact .isTrue trivial
  | tmmbr sources lengthLeft items => exact .isTrue trivial

/-- The map is in order, and the timeouts are the times at which the sources were heard. -/
structure Invariant (run : TimeoutRun) : Prop where
  sorted : SortedMap.Sorted run.receiver.receivedInfoMap
  kept : ∀ entry ∈ run.receiver.receivedInfoMap, Kept (lastHeard run.heard entry.1) entry.2

theorem started_invariant (mainSsrc : UInt32) : Invariant (started mainSsrc) :=
  ⟨List.Pairwise.nil, fun _ member => absurd member not_mem_nil⟩

section Steps

variable {run : TimeoutRun}

theorem Invariant.put (invariant : Invariant run) {heard : List HeardRequest} {remote : UInt32}
    {info : RTCPReceiveInformation} (kept : Kept (lastHeard heard remote) info)
    (others : ∀ other ≠ remote, lastHeard heard other = lastHeard run.heard other) :
    Invariant { receiver := run.receiver.putReceiveInformation remote info, heard } := by
  refine ⟨invariant.sorted.insert remote info, fun entry member => ?_⟩
  rcases invariant.sorted.mem_insert member with rfl | ⟨old, different⟩
  · exact kept
  · change Kept (lastHeard heard entry.1) entry.2
    rw [others entry.1 different]
    exact invariant.kept entry old

theorem Invariant.found (invariant : Invariant run) {remote : UInt32}
    {info : RTCPReceiveInformation}
    (found : SortedMap.find remote run.receiver.receivedInfoMap = some info) :
    Kept (lastHeard run.heard remote) info :=
  invariant.kept _ (SortedMap.mem_of_find found)

theorem Invariant.report (invariant : Invariant run) (remoteSSRC : UInt32) (time : Int) :
    Invariant { run with
      receiver := run.receiver.handleSenderReceiverReport remoteSSRC time } := by
  apply invariant.put _ fun _ _ => rfl
  have known : Kept (lastHeard run.heard remoteSSRC)
      (run.receiver.createReceiveInformation remoteSSRC) := by
    rw [createReceiveInformation]
    cases found : SortedMap.find remoteSSRC run.receiver.receivedInfoMap with
    | none => exact kept_create _
    | some info => exact invariant.found found
  exact known.of_same rfl rfl

theorem Invariant.bye (invariant : Invariant run) (senderSSRC : UInt32) :
    Invariant { run with receiver := run.receiver.handleBYE senderSSRC } := by
  rw [handleBYE]
  cases found : SortedMap.find senderSSRC run.receiver.receivedInfoMap with
  | none => exact invariant
  | some info =>
    apply invariant.put _ fun _ _ => rfl
    exact (invariant.found found).of_same rfl rfl

theorem heardItems_other {remote other : UInt32} (mainSsrc requester : UInt32) (time : Int)
    (different : other ≠ remote) (items : List BitRateItem) :
    ∀ heard, lastHeard (heardItems mainSsrc remote requester time items heard) other =
      lastHeard heard other := by
  induction items with
  | nil => exact fun _ => rfl
  | cons item rest induction =>
    intro heard
    rw [heardItems, induction]
    split
    · exact lastHeard_other heard requester time different
    · rfl

theorem handleTMMBRItems_kept (mainSsrc remote requester : UInt32) (time : Int)
    (items : List BitRateItem) :
    ∀ {heard info}, Kept (lastHeard heard remote) info →
      ∃ next, handleTMMBRItems mainSsrc requester time items info = some next ∧
        Kept (lastHeard (heardItems mainSsrc remote requester time items heard) remote)
          next := by
  induction items with
  | nil => exact fun kept => ⟨_, rfl, kept⟩
  | cons item rest induction =>
    intro heard info kept
    rw [handleTMMBRItems, heardItems]
    split
    · rcases kept.insertTMMBRItem requester item time with ⟨middle, inserted, middleKept⟩
      rw [← lastHeard_self] at middleKept
      rcases induction middleKept with ⟨next, handled, nextKept⟩
      refine ⟨next, ?_, nextKept⟩
      rw [inserted]
      exact handled
    · exact induction kept

theorem Invariant.tmmbr (invariant : Invariant run) (sources : FeedbackSources)
    (lengthLeft : Nat) (items : List BitRateItem) (time : Int) :
    ∃ next, run.step (.tmmbr sources lengthLeft items, time) = some next ∧ Invariant next := by
  change ∃ next, (run.receiver.handleTMMBR sources lengthLeft items time).bind _ = some next ∧ _
  rw [handleTMMBR]
  cases found : SortedMap.find sources.senderSSRC run.receiver.receivedInfoMap with
  | none =>
    refine ⟨_, rfl, invariant.sorted, fun entry member => ?_⟩
    have different := SortedMap.find_eq_none_iff.mp found entry member
    change Kept (lastHeard (if tooManyItems lengthLeft then run.heard else _) entry.1) entry.2
    split
    · exact invariant.kept entry member
    · rw [heardItems_other _ _ _ different]
      exact invariant.kept entry member
  | some info =>
    dsimp only
    by_cases many : tooManyItems lengthLeft = true
    · rw [if_pos many]
      refine ⟨_, rfl, ?_⟩
      rw [if_pos many]
      exact invariant
    · rw [if_neg many]
      have known := invariant.found found
      have allocated := known.paired.verifyAndAllocateTMMBRSet (lengthLeft / 8)
      rcases handleTMMBRItems_kept run.receiver.mainSsrc sources.senderSSRC (requester sources)
        time items (known.of_requests allocated.1 allocated.2.1) with ⟨next, handled, kept⟩
      rw [handled]
      refine ⟨_, rfl, ?_⟩
      rw [if_neg many]
      exact invariant.put kept fun other different =>
        heardItems_other _ _ _ different items run.heard

theorem Invariant.updateTimers (invariant : Invariant run) {time : Int}
    (settled : ∀ entry ∈ run.receiver.receivedInfoMap,
      silent time entry.2 → entry.2.tmmbrSet.lengthOfSet = 0) :
    Invariant { run with
      receiver := (run.receiver.updateRTCPReceiveInformationTimers time).2 } := by
  refine ⟨?_, fun entry member => ?_⟩
  · apply List.Pairwise.filterMap _ _ invariant.sorted
    intro first second less firstNext firstSame secondNext secondSame
    rcases map_eq_some_iff.mp firstSame with ⟨_, _, rfl⟩
    rcases map_eq_some_iff.mp secondSame with ⟨_, _, rfl⟩
    exact less
  · rcases mem_filterMap.mp member with ⟨old, oldMember, same⟩
    rcases map_eq_some_iff.mp same with ⟨info, updated, rfl⟩
    have kept := invariant.kept old oldMember
    rw [updateTimer] at updated
    split at updated
    · split at updated
      · rename_i quiet
        cases updated
        exact kept.cleared (settled old oldMember quiet)
      · cases updated
        exact kept
    split at updated
    · cases updated
    · cases updated
      exact kept

theorem Invariant.thinned (invariant : Invariant run) {receiver : TmmbrReceiver}
    (thinned : List.Forall₂ ThinnedEntry run.receiver.receivedInfoMap receiver.receivedInfoMap) :
    Invariant { run with receiver } := by
  refine ⟨thinned_sorted thinned invariant.sorted, fun entry member => ?_⟩
  rcases thinned_origin thinned entry member with ⟨old, oldMember, same, left⟩
  change Kept (lastHeard run.heard entry.1) entry.2
  rw [same]
  exact (invariant.kept old oldMember).thinned left

theorem step_invariant (operation : TmmbrEvent × Int) (invariant : Invariant run)
    (allowed : Allowed run operation) :
    ∃ next, run.step operation = some next ∧ Invariant next := by
  rcases operation with ⟨event, time⟩
  have paired : ∀ entry ∈ run.receiver.receivedInfoMap, Paired entry.2 :=
    fun entry member => (invariant.kept entry member).paired
  cases event with
  | report remoteSSRC => exact ⟨_, rfl, invariant.report remoteSSRC time⟩
  | bye senderSSRC => exact ⟨_, rfl, invariant.bye senderSSRC⟩
  | tmmbr sources lengthLeft items => exact invariant.tmmbr sources lengthLeft items time
  | updateTimers => exact ⟨_, rfl, invariant.updateTimers allowed⟩
  | collect size accNumCandidates candidateSet =>
    change ∃ next, (run.receiver.tmmbrReceived _ _ _ time).bind _ = some next ∧ Invariant next
    cases candidateSet with
    | none =>
      rw [tmmbrReceived]
      split
      · exact ⟨_, rfl, invariant⟩
      · exact ⟨_, rfl, invariant⟩
    | some candidateSet =>
      rcases tmmbrReceived_due paired rfl allowed with ⟨value, receiver, received, _, _, thinned⟩
      rw [received]
      exact ⟨_, rfl, invariant.thinned thinned⟩

end Steps

/-- The entries of all remotes whose sources were heard at most five intervals ago. -/
def due (run : TimeoutRun) (currentTimeMS : Int) : List SetElement :=
  run.receiver.receivedInfoMap.flatMap fun entry => entry.2.tmmbrSet.entries.filter fun element =>
      heardRecently currentTimeMS (lastHeard run.heard entry.1 element.ssrc)

theorem Invariant.due_eq {run : TimeoutRun} (invariant : Invariant run) (currentTimeMS : Int) :
    TmmbrReceiver.due currentTimeMS run.receiver.receivedInfoMap = run.due currentTimeMS := by
  apply flatMap_congr
  exact fun entry member => (invariant.kept entry member).fresh_eq currentTimeMS

/-- In every run of allowed events each entry has one timeout, the time at which its source was
heard last, and the next collection returns exactly the entries that are due, as many as there
is room for. -/
theorem timeouts_of_permitted (mainSsrc : UInt32) (operations : List (TmmbrEvent × Int))
    (permitted : Run.Permitted step Allowed (started mainSsrc) operations) :
    ∃ last, Run.reached step (started mainSsrc) operations = some last ∧
      (∀ entry ∈ last.receiver.receivedInfoMap, entry.2.tmmbrSetTimeouts.map some =
          entry.2.tmmbrSet.entries.map fun element => lastHeard last.heard entry.1 element.ssrc) ∧
      ∀ size accNumCandidates candidateSet currentTimeMS,
        Allowed last (.collect size accNumCandidates (some candidateSet), currentTimeMS) →
        ∃ value next,
          let found := (last.due currentTimeMS).take (room size accNumCandidates candidateSet)
          last.receiver.tmmbrReceived size accNumCandidates (some candidateSet) currentTimeMS =
              some (value, some (candidateSet.setEntries accNumCandidates.toNat found), next) ∧
            (last.receiver.receivedInfoMap ≠ [] →
              value = Int32.ofNat (accNumCandidates.toNat + found.length)) := by
  rcases Run.invariant_reached step (fun _ operation => step_invariant operation)
    (started_invariant mainSsrc) permitted with ⟨last, reached, invariant⟩
  refine ⟨last, reached, fun entry member => (invariant.kept entry member).timeouts, ?_⟩
  intro size accNumCandidates candidateSet currentTimeMS allowed
  rcases tmmbrReceived_due (fun entry member => (invariant.kept entry member).paired) rfl allowed
    with ⟨value, next, received, counted, _, _⟩
  rw [invariant.due_eq] at received counted
  exact ⟨value, next, received, counted⟩

/-- A remote asks this endpoint for a limit, on its own behalf or for a media source. -/
def ask (mediaSSRC : UInt32) : TmmbrEvent :=
  .tmmbr { senderSSRC := 1, mediaSSRC } 8
    [{ ssrc := 9, maxTotalMediaBitRate := 30, measuredOverhead := 0 }]

def requestingRun : List (TmmbrEvent × Int) :=
  [(.report 1, 1000), (ask 0, 1000), (.updateTimers, 2000), (ask 5, 3000), (ask 0, 4000)]

theorem timeouts_of_permitted_requestingRun :
    ∃ last, Run.reached step (started 9) requestingRun = some last ∧
      (∀ entry ∈ last.receiver.receivedInfoMap, entry.2.tmmbrSetTimeouts.map some =
          entry.2.tmmbrSet.entries.map fun element => lastHeard last.heard entry.1 element.ssrc) ∧
      ∀ size accNumCandidates candidateSet currentTimeMS,
        Allowed last (.collect size accNumCandidates (some candidateSet), currentTimeMS) →
        ∃ value next,
          let found := (last.due currentTimeMS).take (room size accNumCandidates candidateSet)
          last.receiver.tmmbrReceived size accNumCandidates (some candidateSet) currentTimeMS =
              some (value, some (candidateSet.setEntries accNumCandidates.toNat found), next) ∧
            (last.receiver.receivedInfoMap ≠ [] →
              value = Int32.ofNat (accNumCandidates.toNat + found.length)) :=
  timeouts_of_permitted 9 requestingRun (by decide +kernel)

/-- The requests of a silent remote are cleared without their timeouts. -/
def silentRun : List (TmmbrEvent × Int) :=
  [(.report 1, 1000), (ask 0, 1000), (.updateTimers, 30000), (.report 1, 30000), (ask 0, 30000)]

/-- One of two requests has timed out. -/
def relayRun : List (TmmbrEvent × Int) :=
  [(.report 1, 1000), (ask 0, 1000), (ask 5, 3000)]

/-- After the first run there are two timeouts for one entry, and after the second one the
request that has not timed out is not collected. -/
theorem not_timeouts_silentRun_relayRun :
    (¬ ∀ last, Run.reached step (started 9) silentRun = some last →
        ∀ entry ∈ last.receiver.receivedInfoMap, entry.2.tmmbrSetTimeouts.map some =
            entry.2.tmmbrSet.entries.map fun element => lastHeard last.heard entry.1 element.ssrc) ∧
      ¬ ∀ last, Run.reached step (started 9) relayRun = some last →
        ∃ next, last.receiver.tmmbrReceived 2 0 (some (TMMBRSet.empty.verifyAndAllocateSet 2))
            27000 =
          some (1, some ((TMMBRSet.empty.verifyAndAllocateSet 2).setEntries 0 (last.due 27000)),
            next) := by
  constructor
  · intro aligned
    have lost : ∃ last, Run.reached step (started 9) silentRun = some last ∧
        ¬ ∀ entry ∈ last.receiver.receivedInfoMap, entry.2.tmmbrSetTimeouts.map some =
            entry.2.tmmbrSet.entries.map fun element =>
              lastHeard last.heard entry.1 element.ssrc := by
      refine ⟨(Run.reached step (started 9) silentRun).get (by decide +kernel), ?_, ?_⟩
      · exact (some_get _).symm
      · decide +kernel
    rcases lost with ⟨last, reached, not⟩
    exact not (aligned last reached)
  · intro collected
    have missed : ∃ last, Run.reached step (started 9) relayRun = some last ∧
        (last.receiver.tmmbrReceived 2 0 (some (TMMBRSet.empty.verifyAndAllocateSet 2))
          27000).map Prod.fst = some 0 := by
      refine ⟨(Run.reached step (started 9) relayRun).get (by decide +kernel), ?_, ?_⟩
      · exact (some_get _).symm
      · decide +kernel
    rcases missed with ⟨last, reached, nothing⟩
    rcases collected last reached with ⟨next, received⟩
    rw [received, map_some] at nothing
    have zero : (1 : Int32) = 0 := Option.some.inj nothing
    exact absurd zero (by decide)

end TimeoutRun

end ZyWebRtc.Rtcp
