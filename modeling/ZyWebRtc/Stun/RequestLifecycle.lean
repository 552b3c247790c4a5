import ZyWebRtc.Stun.RequestManager

namespace ZyWebRtc.Stun

/-! What becomes of the requests of a `StunRequestManager` in a run.

While a handler of a request runs, the request is still there: in the map while it is sent, and
as an object in its callback. The manager goes on with it afterwards without another look. -/

open List Option

namespace RequestRecord

def key : RequestRecord → Nat
  | sent key | response key | errorResponse key | timedOut key | removed key => key

/-- One of the three callbacks. -/
def finishes (key : Nat) : RequestRecord → Bool
  | response other | errorResponse other | timedOut other => other = key
  | sent _ | removed _ => false

theorem key_of_finishes {key : Nat} {record : RequestRecord} (finishes : record.finishes key = true) :
    record.key = key := by
  cases record with
  | sent | removed => cases finishes
  | response | errorResponse | timedOut => exact of_decide_eq_true finishes

end RequestRecord

namespace StunRequest

section

variable (request : StunRequest)

/-- After how many messages a request of a class times out. -/
def limit : Nat :=
  match request.requestClass with
  | .stunRequest => MAX_SENDS
  | .allocateRequest => 5
  | .connectionRequest => 1

theorem limit_bounds : 0 < request.limit ∧ request.limit ≤ MAX_SENDS := by
  unfold limit
  cases request.requestClass <;> decide

/-- The counter has not passed the number at which the request times out. -/
def Counted : Prop := request.timeout = false → request.count < request.limit

def sendsLeft : Nat :=
  if request.timeout then 0 else request.limit - request.count

theorem sendsLeft_le : request.sendsLeft ≤ MAX_SENDS := by
  have bounds := request.limit_bounds
  rw [sendsLeft]
  split <;> omega

theorem Counted.sendsLeft_pos {request : StunRequest} (counted : request.Counted)
    (active : request.timeout = false) : 0 < request.sendsLeft := by
  rw [sendsLeft, active, if_neg (by decide)]
  exact Nat.sub_pos_of_lt (counted active)

theorem getNextDelay_key :
    request.getNextDelay.2.key = request.key ∧ request.getNextDelay.2.id = request.id := by
  unfold getNextDelay
  cases request.requestClass <;> exact ⟨rfl, rfl⟩

end

theorem Counted.getNextDelay {request : StunRequest} (counted : request.Counted)
    (active : request.timeout = false) :
    request.getNextDelay.2.Counted ∧ request.getNextDelay.2.sendsLeft + 1 = request.sendsLeft := by
  have below := counted active
  unfold limit at below
  unfold Counted sendsLeft limit StunRequest.getNextDelay
  cases kind : request.requestClass with
  | connectionRequest =>
    simp only [kind] at below ⊢
    simp [active]
    omega
  | stunRequest =>
    simp only [kind, MAX_SENDS] at below ⊢
    by_cases last : request.count + 1 = 9
    · simp [active, last]
      omega
    · simp [active, last]
      omega
  | allocateRequest =>
    simp only [kind] at below ⊢
    by_cases last : request.count + 1 = 5
    · simp [active, last]
      omega
    · simp [active, last]
      omega

end StunRequest

namespace StunRequestManager

section

variable (key : Nat) (manager : StunRequestManager)

/-- The request is in the map. -/
def Listed : Prop :=
  key ∈ manager.requests.map Prod.snd

/-- The request has not been deleted. -/
def Live : Prop :=
  key ∈ manager.objects.map StunRequest.key

/-- A handler of the request is running. -/
def Busy : Prop :=
  key ∈ manager.running.map Prod.fst

end

/-- Each request finishes once: it has at most one callback, and none after it was removed; it is
sent a bounded number of times; it is not in the map afterwards; and what still points to a
request points to one that lives. -/
structure FinishesOnce (manager : StunRequestManager) : Prop where
  once : ∀ key, manager.log.countP (RequestRecord.finishes key) ≤ 1
  afterRemoval : ∀ key later earlier, manager.log = later ++ .removed key :: earlier →
    ∀ record ∈ later, record.finishes key = false
  transmitted : ∀ key, manager.log.count (.sent key) ≤ MAX_SENDS
  absent : ∀ key, .removed key ∈ manager.log ∨
    0 < manager.log.countP (RequestRecord.finishes key) ∧ (key, .callback) ∉ manager.running →
      ¬ manager.Listed key
  live : ∀ key, manager.Listed key ∨ key ∈ manager.posted.map Prod.fst ∨ manager.Busy key →
    manager.Live key
  returns : manager.running ≠ [] → (manager.step .returned).isSome

/-- No handler removes the request that it sends, and none deletes or answers its own request. -/
def SparesRunning (manager : StunRequestManager) : RequestEvent → Prop
  | .remove key => (key, .sending) ∉ manager.running
  | .clear => ∀ key, manager.Listed key → ¬ manager.Busy key
  | .delete key => ¬ manager.Busy key
  | .checkResponse message => ∀ request ∈ manager.objects,
      manager.requests.lookup message.transactionId = some request.key →
        request.answer message ≠ none → ¬ manager.Busy request.key
  | .checkPacket data => ∀ message, manager.readResponse data = some message →
      ∀ request ∈ manager.objects,
        manager.requests.lookup message.transactionId = some request.key →
          request.answer message ≠ none → ¬ manager.Busy request.key
  | .send .. | .message _ | .returned => True

instance (manager : StunRequestManager) : ∀ event, Decidable (manager.SparesRunning event)
  | .remove key => inferInstanceAs (Decidable ((key, Handler.sending) ∉ manager.running))
  | .clear => inferInstanceAs (Decidable (∀ key ∈ manager.requests.map Prod.snd,
      key ∉ manager.running.map Prod.fst))
  | .delete key => inferInstanceAs (Decidable (key ∉ manager.running.map Prod.fst))
  | .checkResponse message => inferInstanceAs (Decidable (∀ request ∈ manager.objects,
      manager.requests.lookup message.transactionId = some request.key →
        request.answer message ≠ none → request.key ∉ manager.running.map Prod.fst))
  | .checkPacket data => inferInstanceAs (Decidable (∀ message,
      manager.readResponse data = some message → ∀ request ∈ manager.objects,
        manager.requests.lookup message.transactionId = some request.key →
          request.answer message ≠ none → request.key ∉ manager.running.map Prod.fst))
  | .send .. | .message _ | .returned => .isTrue trivial

/-! ## The invariant -/

/-- How the map, the requests, their messages and the handlers belong together. -/
structure Linked (manager : StunRequestManager) : Prop where
  keys : (manager.objects.map StunRequest.key).Nodup
  ids : (manager.objects.map StunRequest.id).Nodup
  fresh : ∀ request ∈ manager.objects, request.key < manager.created
  entries : ∀ entry ∈ manager.requests, ∃ request ∈ manager.objects,
    request.key = entry.2 ∧ request.id = entry.1
  posted : ∀ message ∈ manager.posted,
    manager.Listed message.1 ∧ (message.1, .sending) ∉ manager.running
  postedOnce : (manager.posted.map Prod.fst).Nodup
  runningOnce : (manager.running.map Prod.fst).Nodup
  busy : ∀ key, manager.Busy key → manager.Live key
  sending : ∀ key, (key, .sending) ∈ manager.running → manager.Listed key ∧
    ∀ request ∈ manager.objects, request.key = key → request.timeout = false

/-- What has happened to the requests. -/
structure Logged (manager : StunRequestManager) : Prop where
  known : ∀ record ∈ manager.log, record.key < manager.created
  pending : ∀ key, manager.Listed key → (key, .callback) ∉ manager.running →
    manager.log.countP (RequestRecord.finishes key) = 0
  kept : ∀ key, manager.Listed key → .removed key ∉ manager.log
  once : ∀ key, manager.log.countP (RequestRecord.finishes key) ≤ 1
  afterRemoval : ∀ key later earlier, manager.log = later ++ .removed key :: earlier →
    ∀ record ∈ later, record.finishes key = false
  counted : ∀ request ∈ manager.objects, request.Counted
  transmissions : ∀ request ∈ manager.objects,
    manager.log.count (.sent request.key) + request.sendsLeft ≤
      MAX_SENDS + (if (request.key, .sending) ∈ manager.running then 1 else 0)
  transmitted : ∀ key, manager.log.count (.sent key) ≤ MAX_SENDS

structure Invariant (manager : StunRequestManager) : Prop where
  linked : manager.Linked
  logged : manager.Logged

theorem invariant_new : Invariant new where
  linked := {
    keys := nodup_nil
    ids := nodup_nil
    fresh := nofun
    entries := nofun
    posted := nofun
    postedOnce := nodup_nil
    runningOnce := nodup_nil
    busy := nofun
    sending := nofun }
  logged := {
    known := nofun
    pending := fun _ _ _ => rfl
    kept := nofun
    once := fun _ => Nat.zero_le _
    afterRemoval := fun _ later _ same => by cases later <;> cases same
    counted := nofun
    transmissions := nofun
    transmitted := fun _ => Nat.zero_le _ }

section Objects

variable {manager : StunRequestManager} {key : Nat} {request : StunRequest}

theorem object_of_mem (linked : manager.Linked) (member : request ∈ manager.objects) :
    manager.object request.key = some request := by
  cases found : manager.object request.key with
  | none =>
    have absent := List.find?_eq_none.mp found request member
    simp at absent
  | some other =>
    have same : other.key = request.key := by simpa using List.find?_some found
    rw [inj_on_of_nodup_map linked.keys (List.mem_of_find?_eq_some found) member same]

theorem mem_of_object (found : manager.object key = some request) :
    request ∈ manager.objects ∧ request.key = key :=
  ⟨List.mem_of_find?_eq_some found, by simpa using List.find?_some found⟩

theorem exists_object (linked : manager.Linked) (live : manager.Live key) :
    ∃ request ∈ manager.objects, request.key = key ∧ manager.object key = some request := by
  rcases List.mem_map.mp live with ⟨request, member, rfl⟩
  exact ⟨request, member, rfl, object_of_mem linked member⟩

theorem Linked.live_of_listed (linked : manager.Linked) (listed : manager.Listed key) :
    manager.Live key := by
  rcases List.mem_map.mp listed with ⟨entry, member, rfl⟩
  rcases linked.entries entry member with ⟨request, live, same, -⟩
  exact List.mem_map.mpr ⟨request, live, same⟩

theorem Linked.entry_iff (linked : manager.Linked) (member : request ∈ manager.objects)
    {entry : Bytes × Nat} (isEntry : entry ∈ manager.requests) :
    entry.1 = request.id ↔ entry.2 = request.key := by
  rcases linked.entries entry isEntry with ⟨other, otherLive, sameKey, sameId⟩
  constructor
  · intro same
    rw [← sameKey, inj_on_of_nodup_map linked.ids otherLive member (sameId.trans same)]
  · intro same
    rw [← sameId, inj_on_of_nodup_map linked.keys otherLive member (sameKey.trans same)]

theorem mem_of_lookup {entries : List (Bytes × Nat)} {id : Bytes}
    (found : entries.lookup id = some key) : (id, key) ∈ entries := by
  rcases List.lookup_eq_some_iff.mp found with ⟨front, back, split, _⟩
  rw [split]
  exact mem_append_right _ mem_cons_self

theorem Linked.lookup_key (linked : manager.Linked) (member : request ∈ manager.objects)
    (found : manager.requests.lookup request.id = some key) : key = request.key :=
  (linked.entry_iff member (mem_of_lookup found)).mp rfl

end Objects

/-! ## Removal -/

section Removal

variable {manager : StunRequestManager} {key : Nat} {request : StunRequest}

def withoutRequest (key : Nat) (manager : StunRequestManager) : StunRequestManager :=
  { manager with
    requests := manager.requests.filter fun entry => entry.2 ≠ key
    posted := manager.posted.filter fun message => message.1 ≠ key }

def withoutObject (key : Nat) (manager : StunRequestManager) : StunRequestManager :=
  { manager.withoutRequest key with
    objects := manager.objects.filter fun request => request.key ≠ key }

theorem listed_withoutRequest {other : Nat} :
    (manager.withoutRequest key).Listed other ↔ manager.Listed other ∧ other ≠ key := by
  simp only [Listed, withoutRequest, List.mem_map, mem_filter, decide_eq_true_eq]
  constructor
  · rintro ⟨entry, ⟨member, different⟩, rfl⟩
    exact ⟨⟨entry, member, rfl⟩, different⟩
  · rintro ⟨⟨entry, member, rfl⟩, different⟩
    exact ⟨entry, ⟨member, different⟩, rfl⟩

theorem Linked.record (linked : manager.Linked) (entry : RequestRecord) :
    (manager.record entry).Linked :=
  ⟨linked.keys, linked.ids, linked.fresh, linked.entries, linked.posted, linked.postedOnce,
    linked.runningOnce, linked.busy, linked.sending⟩

theorem Linked.remove_eq (linked : manager.Linked) (member : request ∈ manager.objects) :
    manager.remove request = some (manager.withoutRequest request.key) := by
  rw [StunRequestManager.remove]
  cases found : manager.requests.lookup request.id with
  | none =>
    have absent : ∀ entry ∈ manager.requests, entry.2 ≠ request.key := by
      intro entry isEntry same
      have sameId := (linked.entry_iff member isEntry).mpr same
      have notFound := lookup_eq_none_iff.mp found entry isEntry
      simp [sameId] at notFound
    have requests : (manager.requests.filter fun entry => entry.2 ≠ request.key) =
        manager.requests :=
      filter_eq_self.mpr fun entry isEntry => decide_eq_true (absent entry isEntry)
    have posted : (manager.posted.filter fun message => message.1 ≠ request.key) =
        manager.posted := by
      apply filter_eq_self.mpr
      intro message isPosted
      rcases List.mem_map.mp (linked.posted message isPosted).1 with ⟨entry, isEntry, same⟩
      exact decide_eq_true (same ▸ absent entry isEntry)
    rw [withoutRequest, requests, posted]
  | some other =>
    have same : other = request.key := linked.lookup_key member found
    have requests : (manager.requests.filter fun entry => entry.1 ≠ request.id) =
        manager.requests.filter fun entry => entry.2 ≠ request.key :=
      filter_congr fun entry isEntry =>
        decide_eq_decide.mpr (not_congr (linked.entry_iff member isEntry))
    simp only [same, ne_eq, not_true_eq_false, if_false]
    rw [withoutRequest, ← requests]

theorem Linked.destroy_eq (linked : manager.Linked) (member : request ∈ manager.objects) :
    manager.destroy request = some (manager.withoutObject request.key) := by
  rw [StunRequestManager.destroy, linked.remove_eq member]
  change some _ = some _
  rw [withoutObject]
  congr 2
  change List.filter _ (List.filter _ manager.posted) = List.filter _ manager.posted
  rw [List.filter_filter]
  simp only [Bool.and_self]

theorem Linked.withoutRequest (linked : manager.Linked)
    (notSending : (key, .sending) ∉ manager.running) : (manager.withoutRequest key).Linked where
  keys := linked.keys
  ids := linked.ids
  fresh := linked.fresh
  entries := fun entry isEntry => linked.entries entry (mem_filter.mp isEntry).1
  posted := by
    intro message isPosted
    rcases mem_filter.mp isPosted with ⟨member, different⟩
    exact ⟨listed_withoutRequest.mpr ⟨(linked.posted message member).1, of_decide_eq_true different⟩,
      (linked.posted message member).2⟩
  postedOnce := linked.postedOnce.sublist (filter_sublist.map _)
  runningOnce := linked.runningOnce
  busy := linked.busy
  sending := by
    intro other running
    have different : other ≠ key := by
      rintro rfl
      exact notSending running
    exact ⟨listed_withoutRequest.mpr ⟨(linked.sending other running).1, different⟩,
      (linked.sending other running).2⟩

theorem mem_objects_withoutObject :
    request ∈ (manager.withoutObject key).objects ↔
      request ∈ manager.objects ∧ request.key ≠ key := by
  simp only [withoutObject, mem_filter, decide_eq_true_eq]

theorem Linked.withoutObject (linked : manager.Linked) (idle : ¬ manager.Busy key) :
    (manager.withoutObject key).Linked := by
  have notSending : (key, .sending) ∉ manager.running := fun running =>
    idle (List.mem_map.mpr ⟨_, running, rfl⟩)
  have without := linked.withoutRequest notSending
  exact {
    keys := without.keys.sublist (filter_sublist.map _)
    ids := without.ids.sublist (filter_sublist.map _)
    fresh := fun request member => linked.fresh request (mem_objects_withoutObject.mp member).1
    entries := by
      intro entry isEntry
      rcases without.entries entry isEntry with ⟨request, member, sameKey, sameId⟩
      have different : entry.2 ≠ key := of_decide_eq_true (mem_filter.mp isEntry).2
      exact ⟨request, mem_objects_withoutObject.mpr ⟨member, sameKey ▸ different⟩, sameKey, sameId⟩
    posted := without.posted
    postedOnce := without.postedOnce
    runningOnce := linked.runningOnce
    busy := by
      intro other busy
      rcases List.mem_map.mp (linked.busy other busy) with ⟨request, member, rfl⟩
      have different : request.key ≠ key := by
        intro same
        exact idle (same ▸ busy)
      exact List.mem_map.mpr ⟨request, mem_objects_withoutObject.mpr ⟨member, different⟩, rfl⟩
    sending := fun other running => ⟨(without.sending other running).1,
      fun request member => (linked.sending other running).2 request
        (mem_objects_withoutObject.mp member).1⟩ }

theorem Logged.of_subset {next : StunRequestManager} (logged : manager.Logged)
    (log : next.log = manager.log) (created : next.created = manager.created)
    (running : next.running = manager.running)
    (listed : ∀ other, next.Listed other → manager.Listed other)
    (objects : ∀ request ∈ next.objects, request ∈ manager.objects) : next.Logged where
  known := by
    rw [log, created]
    exact logged.known
  pending := by
    intro other isListed idle
    rw [log]
    exact logged.pending other (listed other isListed) (running ▸ idle)
  kept := by
    intro other isListed
    rw [log]
    exact logged.kept other (listed other isListed)
  once := by
    rw [log]
    exact logged.once
  afterRemoval := by
    rw [log]
    exact logged.afterRemoval
  counted := fun request member => logged.counted request (objects request member)
  transmissions := by
    intro request member
    rw [log, running]
    exact logged.transmissions request (objects request member)
  transmitted := by
    rw [log]
    exact logged.transmitted

theorem Logged.removed (logged : manager.Logged) (created : key < manager.created)
    (gone : ¬ manager.Listed key) : (manager.record (.removed key)).Logged where
  known := by
    intro record member
    rcases mem_cons.mp member with rfl | member
    · exact created
    · exact logged.known record member
  pending := fun other listed idle =>
    (countP_cons_of_neg (by simp [RequestRecord.finishes])).trans (logged.pending other listed idle)
  kept := by
    intro other listed member
    rcases mem_cons.mp member with same | member
    · cases same
      exact gone listed
    · exact logged.kept other listed member
  once := fun other => (countP_cons_of_neg (by simp [RequestRecord.finishes])).trans_le
    (logged.once other)
  afterRemoval := by
    intro other later earlier split record member
    cases later with
    | nil => cases member
    | cons last later =>
      rw [StunRequestManager.record, cons_append, List.cons.injEq] at split
      rcases mem_cons.mp member with rfl | member
      · rw [← split.1]
        rfl
      · exact logged.afterRemoval other later earlier split.2 record member
  counted := logged.counted
  transmissions := fun request member =>
    (congrArg (· + request.sendsLeft) (count_cons_of_ne (by simp))).trans_le
      (logged.transmissions request member)
  transmitted := fun other => (count_cons_of_ne (by simp)).trans_le (logged.transmitted other)

end Removal

/-! ## Steps -/

section Steps

variable {manager next : StunRequestManager} {key : Nat} {request : StunRequest}

theorem Invariant.key_lt (invariant : manager.Invariant) (live : manager.Live key) :
    key < manager.created := by
  rcases List.mem_map.mp live with ⟨request, member, rfl⟩
  exact invariant.linked.fresh request member

theorem Invariant.remove (invariant : manager.Invariant)
    (notSending : (key, .sending) ∉ manager.running)
    (stepped : manager.step (.remove key) = some next) : next.Invariant := by
  rw [step, bind_eq_bind, bind_eq_some_iff] at stepped
  rcases stepped with ⟨request, found, removed⟩
  rcases mem_of_object found with ⟨member, rfl⟩
  rw [(invariant.linked.record _).remove_eq member] at removed
  cases removed
  have live : manager.Live request.key := List.mem_map.mpr ⟨request, member, rfl⟩
  refine ⟨(invariant.linked.record _).withoutRequest notSending, ?_⟩
  have gone : ¬ (manager.withoutRequest request.key).Listed request.key := fun listed =>
    (listed_withoutRequest.mp listed).2 rfl
  have smaller : (manager.withoutRequest request.key).Logged :=
    invariant.logged.of_subset rfl rfl rfl (fun _ listed => (listed_withoutRequest.mp listed).1)
      fun _ isObject => isObject
  exact smaller.removed (invariant.key_lt live) gone

theorem Linked.delete_eq (linked : manager.Linked) (member : request ∈ manager.objects) :
    manager.delete request.key =
      some ((manager.withoutObject request.key).record (.removed request.key)) := by
  rw [StunRequestManager.delete, object_of_mem linked member]
  exact (linked.record _).destroy_eq member

theorem Invariant.deleted (invariant : manager.Invariant) (member : request ∈ manager.objects)
    (idle : ¬ manager.Busy request.key) :
    ((manager.withoutObject request.key).record (.removed request.key)).Invariant := by
  have live : manager.Live request.key := List.mem_map.mpr ⟨request, member, rfl⟩
  refine ⟨(invariant.linked.withoutObject idle).record _, ?_⟩
  have gone : ¬ (manager.withoutObject request.key).Listed request.key := fun listed =>
    (listed_withoutRequest.mp listed).2 rfl
  have smaller : (manager.withoutObject request.key).Logged :=
    invariant.logged.of_subset rfl rfl rfl (fun _ listed => (listed_withoutRequest.mp listed).1)
      fun _ isObject => (mem_objects_withoutObject.mp isObject).1
  exact smaller.removed (invariant.key_lt live) gone

theorem Invariant.delete (invariant : manager.Invariant) (idle : ¬ manager.Busy key)
    (stepped : manager.delete key = some next) : next.Invariant := by
  have found : ∃ request, manager.object key = some request := by
    rw [StunRequestManager.delete, bind_eq_bind, bind_eq_some_iff] at stepped
    exact ⟨_, stepped.choose_spec.1⟩
  rcases found with ⟨request, found⟩
  rcases mem_of_object found with ⟨member, rfl⟩
  rw [invariant.linked.delete_eq member] at stepped
  cases stepped
  exact invariant.deleted member idle

theorem Invariant.deleteAll (keys : List Nat) :
    ∀ {manager : StunRequestManager}, manager.Invariant → (∀ key ∈ keys, ¬ manager.Busy key) →
      ∀ {next}, deleteAll keys manager = some next → next.Invariant := by
  induction keys with
  | nil =>
    intro manager invariant _ next stepped
    exact Option.some.inj stepped ▸ invariant
  | cons key keys induction =>
    intro manager invariant idle next stepped
    rw [StunRequestManager.deleteAll, bind_eq_bind, bind_eq_some_iff] at stepped
    rcases stepped with ⟨middle, deleted, stepped⟩
    have middleInvariant := invariant.delete (idle key mem_cons_self) deleted
    have sameRunning : middle.running = manager.running := by
      rw [StunRequestManager.delete, bind_eq_bind, bind_eq_some_iff] at deleted
      rcases deleted with ⟨request, found, destroyed⟩
      rcases mem_of_object found with ⟨member, rfl⟩
      rw [(invariant.linked.record _).destroy_eq member] at destroyed
      cases destroyed
      rfl
    apply induction middleInvariant (fun other member => ?_) stepped
    rw [Busy, sameRunning]
    exact idle other (mem_cons_of_mem _ member)

theorem Invariant.sendDelayed (invariant : manager.Invariant) {requestClass : RequestClass}
    {messageClass : MessageClass} {id : Bytes} {type : UInt16} {delay : Nat}
    (stepped : manager.sendDelayed requestClass messageClass id type delay = some next) :
    next.Invariant := by
  rw [StunRequestManager.sendDelayed] at stepped
  split at stepped
  · cases stepped
  next allowed =>
  cases stepped
  have linked := invariant.linked
  have logged := invariant.logged
  have newId : id ∉ manager.objects.map StunRequest.id := fun member => allowed (.inr member)
  have newKey : ¬ manager.Live manager.created := fun live =>
    Nat.lt_irrefl _ (invariant.key_lt live)
  have notListed : ¬ manager.Listed manager.created := fun listed =>
    newKey (linked.live_of_listed listed)
  have notBusy : ¬ manager.Busy manager.created := fun busy => newKey (linked.busy _ busy)
  have unfinished : manager.log.countP (RequestRecord.finishes manager.created) = 0 := by
    apply countP_eq_zero.mpr
    intro record member finishes
    exact Nat.lt_irrefl _ (RequestRecord.key_of_finishes finishes ▸ logged.known record member)
  have unsent : manager.log.count (.sent manager.created) = 0 := by
    apply count_eq_zero.mpr
    intro member
    exact Nat.lt_irrefl _ (logged.known _ member)
  constructor
  · exact {
      keys := nodup_cons.mpr ⟨newKey, linked.keys⟩
      ids := nodup_cons.mpr ⟨newId, linked.ids⟩
      fresh := by
        intro request member
        rcases mem_cons.mp member with rfl | member
        · exact Nat.lt_succ_self _
        · exact Nat.lt_succ_of_lt (linked.fresh request member)
      entries := by
        intro entry isEntry
        rcases mem_cons.mp isEntry with rfl | isEntry
        · exact ⟨_, mem_cons_self, rfl, rfl⟩
        · rcases linked.entries entry isEntry with ⟨request, member, same⟩
          exact ⟨request, mem_cons_of_mem _ member, same⟩
      posted := by
        intro message isPosted
        rcases mem_cons.mp isPosted with rfl | isPosted
        · exact ⟨mem_cons_self, fun running => notBusy (List.mem_map.mpr ⟨_, running, rfl⟩)⟩
        · exact ⟨mem_cons_of_mem _ (linked.posted message isPosted).1,
            (linked.posted message isPosted).2⟩
      postedOnce := by
        refine nodup_cons.mpr ⟨fun isPosted => ?_, linked.postedOnce⟩
        rcases List.mem_map.mp isPosted with ⟨message, member, same⟩
        change message.1 = manager.created at same
        exact notListed (same ▸ (linked.posted message member).1)
      runningOnce := linked.runningOnce
      busy := fun other busy => mem_cons_of_mem _ (linked.busy other busy)
      sending := by
        intro other running
        rcases linked.sending other running with ⟨listed, active⟩
        refine ⟨mem_cons_of_mem _ listed, fun request member same => ?_⟩
        rcases mem_cons.mp member with rfl | member
        · rfl
        · exact active request member same }
  · exact {
      known := fun record member => Nat.lt_succ_of_lt (logged.known record member)
      pending := by
        intro other listed idle
        rcases mem_cons.mp listed with rfl | listed
        · exact unfinished
        · exact logged.pending other listed idle
      kept := by
        intro other listed member
        rcases mem_cons.mp listed with rfl | listed
        · exact Nat.lt_irrefl _ (logged.known _ member)
        · exact logged.kept other listed member
      once := logged.once
      afterRemoval := logged.afterRemoval
      counted := by
        intro request member
        rcases mem_cons.mp member with rfl | member
        · exact fun _ => (StunRequest.limit_bounds _).1
        · exact logged.counted request member
      transmissions := by
        intro request member
        rcases mem_cons.mp member with rfl | member
        · change manager.log.count (.sent manager.created) + _ ≤ _
          rw [unsent, Nat.zero_add]
          exact Nat.le_add_right_of_le (StunRequest.sendsLeft_le _)
        · exact logged.transmissions request member
      transmitted := logged.transmitted }

theorem Invariant.beginCallback (invariant : manager.Invariant) {entry : RequestRecord}
    (finishes : entry.finishes key = true) (listed : manager.Listed key)
    (idle : ¬ manager.Busy key) : ((manager.record entry).begin key .callback).Invariant := by
  have linked := invariant.linked
  have logged := invariant.logged
  have live := linked.live_of_listed listed
  have isKey := RequestRecord.key_of_finishes finishes
  have notCallback : (key, .callback) ∉ manager.running := fun running =>
    idle (List.mem_map.mpr ⟨_, running, rfl⟩)
  have notSent : ∀ other, entry ≠ .sent other := by
    rintro other rfl
    cases finishes
  have notRemoved : ∀ other, entry ≠ .removed other := by
    rintro other rfl
    cases finishes
  have sendingBefore {other : Nat}
      (running : (other, .sending) ∈ ((manager.record entry).begin key .callback).running) :
      (other, .sending) ∈ manager.running := by
    rcases mem_cons.mp running with same | running
    · cases same
    · exact running
  constructor
  · exact {
      keys := linked.keys
      ids := linked.ids
      fresh := linked.fresh
      entries := linked.entries
      posted := fun message isPosted => ⟨(linked.posted message isPosted).1,
        fun running => (linked.posted message isPosted).2 (sendingBefore running)⟩
      postedOnce := linked.postedOnce
      runningOnce := nodup_cons.mpr ⟨idle, linked.runningOnce⟩
      busy := by
        intro other busy
        rcases mem_cons.mp busy with rfl | busy
        · exact live
        · exact linked.busy other busy
      sending := fun other running => linked.sending other (sendingBefore running) }
  · exact {
      known := by
        intro record member
        rcases mem_cons.mp member with rfl | member
        · exact isKey.trans_lt (invariant.key_lt live)
        · exact logged.known record member
      pending := by
        intro other otherListed otherIdle
        have different : other ≠ key := by
          rintro rfl
          exact otherIdle mem_cons_self
        have notOther : ¬ entry.finishes other = true := fun finishesOther =>
          different ((RequestRecord.key_of_finishes finishesOther).symm.trans isKey)
        exact (countP_cons_of_neg notOther).trans (logged.pending other otherListed
          fun running => otherIdle (mem_cons_of_mem _ running))
      kept := by
        intro other otherListed member
        rcases mem_cons.mp member with same | member
        · exact notRemoved other same.symm
        · exact logged.kept other otherListed member
      once := by
        intro other
        by_cases finishesOther : entry.finishes other = true
        · have same : other = key := (RequestRecord.key_of_finishes finishesOther).symm.trans isKey
          rw [same] at finishesOther ⊢
          exact ((countP_cons_of_pos finishesOther).trans
            (congrArg (· + 1) (logged.pending key listed notCallback))).le
        · exact (countP_cons_of_neg finishesOther).trans_le (logged.once other)
      afterRemoval := by
        intro other later earlier split record member
        cases later with
        | nil => cases member
        | cons last later =>
          rw [begin, StunRequestManager.record, cons_append, List.cons.injEq] at split
          rcases mem_cons.mp member with rfl | member
          · rw [← split.1, Bool.eq_false_iff]
            intro finishesOther
            have same := (RequestRecord.key_of_finishes finishesOther).symm.trans isKey
            rw [same] at split
            apply logged.kept key listed
            rw [split.2]
            exact mem_append_right _ mem_cons_self
          · exact logged.afterRemoval other later earlier split.2 record member
      counted := logged.counted
      transmissions := by
        intro request member
        have before := logged.transmissions request member
        have sameCount : (entry :: manager.log).count (.sent request.key) =
            manager.log.count (.sent request.key) := count_cons_of_ne (notSent _)
        have sameRunning : ((request.key, Handler.sending) ∈ (key, Handler.callback) ::
            manager.running) ↔ (request.key, .sending) ∈ manager.running :=
          ⟨sendingBefore, mem_cons_of_mem _⟩
        change (entry :: manager.log).count (.sent request.key) + request.sendsLeft ≤ MAX_SENDS +
          if (request.key, Handler.sending) ∈ (key, Handler.callback) :: manager.running
            then 1 else 0
        simp only [sameCount, sameRunning]
        exact before
      transmitted := fun other =>
        (count_cons_of_ne (notSent other)).trans_le (logged.transmitted other) }

theorem answer_finishes {message : StunMessage} {entry : RequestRecord}
    (answers : request.answer message = some entry) : entry.finishes request.key = true := by
  unfold StunRequest.answer at answers
  split at answers
  · cases answers
    exact decide_eq_true rfl
  split at answers
  · cases answers
    exact decide_eq_true rfl
  · cases answers

theorem Invariant.checkResponse (invariant : manager.Invariant) {message : StunMessage}
    (spares : ∀ request ∈ manager.objects,
      manager.requests.lookup message.transactionId = some request.key →
        request.answer message ≠ none → ¬ manager.Busy request.key)
    (stepped : manager.checkResponse message = some next) : next.Invariant := by
  rw [StunRequestManager.checkResponse] at stepped
  cases lookup : manager.requests.lookup message.transactionId with
  | none =>
    rw [lookup] at stepped
    exact Option.some.inj stepped ▸ invariant
  | some key =>
    rw [lookup] at stepped
    simp only [bind_eq_bind, bind_eq_some_iff] at stepped
    rcases stepped with ⟨request, found, stepped⟩
    rcases mem_of_object found with ⟨member, rfl⟩
    cases answers : request.answer message with
    | none =>
      rw [answers] at stepped
      exact Option.some.inj stepped ▸ invariant
    | some entry =>
      rw [answers] at stepped
      cases stepped
      have listed : manager.Listed request.key :=
        List.mem_map.mpr ⟨_, mem_of_lookup lookup, rfl⟩
      exact invariant.beginCallback (answer_finishes answers) listed
        (spares request member lookup (by rw [answers]; exact some_ne_none _))

/-! ## Messages and the ends of handlers -/

def taken (key : Nat) (manager : StunRequestManager) : StunRequestManager :=
  { manager with posted := manager.posted.eraseP fun message => message.1 = key }

theorem Linked.not_posted_taken (linked : manager.Linked) :
    key ∉ (manager.taken key).posted.map Prod.fst := by
  have same : (manager.taken key).posted.map Prod.fst = (manager.posted.map Prod.fst).erase key := by
    rw [erase_eq_eraseP', eraseP_map]
    rfl
  rw [same]
  exact linked.postedOnce.not_mem_erase

theorem Invariant.taken (invariant : manager.Invariant) : (manager.taken key).Invariant where
  linked := {
    keys := invariant.linked.keys
    ids := invariant.linked.ids
    fresh := invariant.linked.fresh
    entries := invariant.linked.entries
    posted := fun message isPosted =>
      invariant.linked.posted message (eraseP_sublist.subset isPosted)
    postedOnce := invariant.linked.postedOnce.sublist (eraseP_sublist.map _)
    runningOnce := invariant.linked.runningOnce
    busy := invariant.linked.busy
    sending := invariant.linked.sending }
  logged := invariant.logged.of_subset rfl rfl rfl (fun _ listed => listed) fun _ member => member

/-- A request that has not timed out is sent. -/
theorem Invariant.beginSending (invariant : manager.Invariant) (noHandler : manager.running = [])
    (listed : manager.Listed request.key) (member : request ∈ manager.objects)
    (notPosted : request.key ∉ manager.posted.map Prod.fst) (active : request.timeout = false) :
    ((manager.record (.sent request.key)).begin request.key .sending).Invariant := by
  have linked := invariant.linked
  have logged := invariant.logged
  have live : manager.Live request.key := List.mem_map.mpr ⟨request, member, rfl⟩
  have onlyKey {other : Nat} {handler : Handler} (running : (other, handler) ∈
      ((manager.record (.sent request.key)).begin request.key .sending).running) :
      other = request.key ∧ handler = .sending := by
    rw [begin, StunRequestManager.record, noHandler, mem_singleton, Prod.mk.injEq] at running
    exact running
  have none {other : Nat} {handler : Handler} : (other, handler) ∉ manager.running := by
    rw [noHandler]
    exact not_mem_nil
  constructor
  · exact {
      keys := linked.keys
      ids := linked.ids
      fresh := linked.fresh
      entries := linked.entries
      posted := fun message isPosted => ⟨(linked.posted message isPosted).1, fun running =>
        notPosted ((onlyKey running).1 ▸ List.mem_map.mpr ⟨message, isPosted, rfl⟩)⟩
      postedOnce := linked.postedOnce
      runningOnce := by
        rw [begin, StunRequestManager.record, noHandler]
        exact nodup_singleton _
      busy := by
        intro other busy
        rcases List.mem_map.mp busy with ⟨frame, running, rfl⟩
        rw [(onlyKey running).1]
        exact live
      sending := by
        intro other running
        rw [(onlyKey running).1]
        refine ⟨listed, fun object isObject same => ?_⟩
        rw [inj_on_of_nodup_map linked.keys isObject member same]
        exact active }
  · exact {
      known := by
        intro record isRecord
        rcases mem_cons.mp isRecord with rfl | isRecord
        · exact invariant.key_lt live
        · exact logged.known record isRecord
      pending := fun other otherListed _ =>
        (countP_cons_of_neg (by simp [RequestRecord.finishes])).trans
          (logged.pending other otherListed none)
      kept := by
        intro other otherListed isRecord
        rcases mem_cons.mp isRecord with same | isRecord
        · cases same
        · exact logged.kept other otherListed isRecord
      once := fun other => (countP_cons_of_neg (by simp [RequestRecord.finishes])).trans_le
        (logged.once other)
      afterRemoval := by
        intro other later earlier split record isRecord
        cases later with
        | nil => cases isRecord
        | cons last later =>
          rw [begin, StunRequestManager.record, cons_append, List.cons.injEq] at split
          rcases mem_cons.mp isRecord with rfl | isRecord
          · rw [← split.1]
            rfl
          · exact logged.afterRemoval other later earlier split.2 record isRecord
      counted := logged.counted
      transmissions := by
        intro object isObject
        have before := logged.transmissions object isObject
        rw [if_neg none] at before
        change (RequestRecord.sent request.key :: manager.log).count (.sent object.key) +
          object.sendsLeft ≤ MAX_SENDS + if (object.key, Handler.sending) ∈
            (request.key, Handler.sending) :: manager.running then 1 else 0
        by_cases same : object.key = request.key
        · rw [same, count_cons_self, if_pos mem_cons_self]
          rw [same] at before
          omega
        · rw [count_cons_of_ne (by simpa using Ne.symm same)]
          omega
      transmitted := by
        intro other
        change (RequestRecord.sent request.key :: manager.log).count (.sent other) ≤ MAX_SENDS
        by_cases same : request.key = other
        · have before := logged.transmissions request member
          have left := (logged.counted request member).sendsLeft_pos active
          rw [if_neg none] at before
          rw [← same, count_cons_self]
          omega
        · rw [count_cons_of_ne (by simpa using same)]
          exact logged.transmitted other }

theorem Invariant.onMessage (invariant : manager.Invariant)
    (stepped : manager.onMessage key = some next) : next.Invariant := by
  rw [StunRequestManager.onMessage] at stepped
  split at stepped
  · cases stepped
  next ready =>
  rw [not_or, not_not, not_not] at ready
  rcases ready with ⟨noHandler, isPosted⟩
  rw [bind_eq_bind, bind_eq_some_iff] at stepped
  rcases stepped with ⟨request, found, stepped⟩
  rcases mem_of_object found with ⟨member, rfl⟩
  rcases List.mem_map.mp isPosted with ⟨message, isMessage, same⟩
  have listed : manager.Listed request.key := same ▸ (invariant.linked.posted message isMessage).1
  cases active : request.timeout with
  | true =>
    rw [active] at stepped
    cases stepped
    have idle : ¬ (manager.taken request.key).Busy request.key := by
      rw [Busy, StunRequestManager.taken, noHandler]
      exact not_mem_nil
    exact invariant.taken.beginCallback (decide_eq_true rfl) listed idle
  | false =>
    rw [active] at stepped
    cases stepped
    exact invariant.taken.beginSending noHandler listed member
      invariant.linked.not_posted_taken active

variable {running : List (Nat × Handler)}

theorem Linked.popped (linked : manager.Linked) {frame : Nat × Handler}
    (frames : manager.running = frame :: running) :
    Linked { manager with running } := by
  have outer {other : Nat × Handler} (isRunning : other ∈ running) : other ∈ manager.running :=
    frames ▸ mem_cons_of_mem _ isRunning
  have once := linked.runningOnce
  rw [frames, map_cons, nodup_cons] at once
  exact {
    keys := linked.keys
    ids := linked.ids
    fresh := linked.fresh
    entries := linked.entries
    posted := fun message isPosted => ⟨(linked.posted message isPosted).1,
      fun isRunning => (linked.posted message isPosted).2 (outer isRunning)⟩
    postedOnce := linked.postedOnce
    runningOnce := once.2
    busy := fun other busy => linked.busy other (map_subset _ (fun _ => outer) busy)
    sending := fun other isRunning => linked.sending other (outer isRunning) }

theorem Invariant.afterCallback (invariant : manager.Invariant)
    (frames : manager.running = (request.key, .callback) :: running) :
    (withoutObject request.key { manager with running }).Invariant := by
  have linked := invariant.linked
  have logged := invariant.logged
  have once := linked.runningOnce
  rw [frames, map_cons, nodup_cons] at once
  refine ⟨(linked.popped frames).withoutObject once.1, ?_⟩
  have sameFrames {other : Nat} {handler : Handler} (different : other ≠ request.key) :
      (other, handler) ∈ running ↔ (other, handler) ∈ manager.running := by
    rw [frames, mem_cons, or_iff_right]
    exact fun same => different (congrArg Prod.fst same)
  exact {
    known := logged.known
    pending := by
      intro other isListed idle
      rcases listed_withoutRequest.mp isListed with ⟨before, different⟩
      exact logged.pending other before fun isRunning => idle ((sameFrames different).mpr isRunning)
    kept := fun other isListed => logged.kept other (listed_withoutRequest.mp isListed).1
    once := logged.once
    afterRemoval := logged.afterRemoval
    counted := fun object isObject =>
      logged.counted object (mem_objects_withoutObject.mp isObject).1
    transmissions := by
      intro object isObject
      rcases mem_objects_withoutObject.mp isObject with ⟨before, different⟩
      have same : ((object.key, Handler.sending) ∈ running) ↔ _ := sameFrames different
      change _ ≤ MAX_SENDS + if (object.key, Handler.sending) ∈ running then 1 else 0
      simp only [same]
      exact logged.transmissions object before
    transmitted := logged.transmitted }

/-- A request with its counter, and its next message. -/
def postNext (request : StunRequest) (running : List (Nat × Handler))
    (manager : StunRequestManager) : StunRequestManager :=
  { manager with
    running
    objects := manager.objects.map fun other =>
      if other.key = request.key then request.getNextDelay.2 else other
    posted := (request.key, request.getNextDelay.1) :: manager.posted }

theorem mem_objects_postNext {object : StunRequest}
    (isObject : object ∈ (manager.postNext request running).objects) :
    object = request.getNextDelay.2 ∨ object ∈ manager.objects ∧ object.key ≠ request.key := by
  rcases List.mem_map.mp isObject with ⟨other, isOther, same⟩
  split at same
  · exact .inl same.symm
  · next different => exact .inr (same ▸ ⟨isOther, different⟩)

theorem map_objects_postNext (linked : manager.Linked) (member : request ∈ manager.objects)
    (running : List (Nat × Handler)) :
    (manager.postNext request running).objects.map StunRequest.key =
        manager.objects.map StunRequest.key ∧
      (manager.postNext request running).objects.map StunRequest.id =
        manager.objects.map StunRequest.id := by
  have same : ∀ other ∈ manager.objects,
      (if other.key = request.key then request.getNextDelay.2 else other).key = other.key ∧
        (if other.key = request.key then request.getNextDelay.2 else other).id = other.id := by
    intro other isOther
    split
    · next sameKey =>
        rw [inj_on_of_nodup_map linked.keys isOther member sameKey]
        exact request.getNextDelay_key
    · exact ⟨rfl, rfl⟩
  constructor
  · rw [postNext, List.map_map]
    exact map_congr_left fun other isOther => (same other isOther).1
  · rw [postNext, List.map_map]
    exact map_congr_left fun other isOther => (same other isOther).2

/-- After it was sent a request waits for its next message. -/
theorem Invariant.afterSending (invariant : manager.Invariant)
    (frames : manager.running = (request.key, .sending) :: running)
    (member : request ∈ manager.objects) : (manager.postNext request running).Invariant := by
  have linked := invariant.linked
  have logged := invariant.logged
  have popped := linked.popped frames
  have isSending : (request.key, Handler.sending) ∈ manager.running := by
    rw [frames]
    exact mem_cons_self
  rcases linked.sending request.key isSending with ⟨listed, active⟩
  have here := active request member rfl
  rcases (logged.counted request member).getNextDelay here with ⟨counted, fewer⟩
  have identities := map_objects_postNext linked member running
  have once := linked.runningOnce
  rw [frames, map_cons, nodup_cons] at once
  have ended : (request.key, Handler.sending) ∉ running := fun isRunning =>
    once.1 (List.mem_map.mpr ⟨_, isRunning, rfl⟩)
  have notPosted : request.key ∉ manager.posted.map Prod.fst := by
    intro isPosted
    rcases List.mem_map.mp isPosted with ⟨message, isMessage, same⟩
    exact (linked.posted message isMessage).2 (same ▸ isSending)
  constructor
  · exact {
      keys := identities.1 ▸ linked.keys
      ids := identities.2 ▸ linked.ids
      fresh := by
        intro object isObject
        have live : object.key ∈ manager.objects.map StunRequest.key :=
          identities.1 ▸ List.mem_map.mpr ⟨object, isObject, rfl⟩
        exact invariant.key_lt live
      entries := by
        intro entry isEntry
        rcases linked.entries entry isEntry with ⟨object, isObject, sameKey, sameId⟩
        by_cases same : object.key = request.key
        · rw [inj_on_of_nodup_map linked.keys isObject member same] at sameKey sameId
          refine ⟨request.getNextDelay.2, List.mem_map.mpr ⟨request, member, if_pos rfl⟩, ?_, ?_⟩
          · exact request.getNextDelay_key.1.trans sameKey
          · exact request.getNextDelay_key.2.trans sameId
        · exact ⟨object, List.mem_map.mpr ⟨object, isObject, if_neg same⟩, sameKey, sameId⟩
      posted := by
        intro message isPosted
        rcases mem_cons.mp isPosted with rfl | isPosted
        · exact ⟨listed, ended⟩
        · exact popped.posted message isPosted
      postedOnce := nodup_cons.mpr ⟨notPosted, linked.postedOnce⟩
      runningOnce := once.2
      busy := by
        intro other busy
        rw [Live, identities.1]
        exact popped.busy other busy
      sending := by
        intro other isRunning
        rcases popped.sending other isRunning with ⟨otherListed, otherActive⟩
        refine ⟨otherListed, fun object isObject same => ?_⟩
        rcases mem_objects_postNext isObject with rfl | ⟨before, _⟩
        · rw [request.getNextDelay_key.1] at same
          exact absurd (same ▸ isRunning) ended
        · exact otherActive object before same }
  · exact {
      known := logged.known
      pending := fun other otherListed idle => logged.pending other otherListed fun isRunning => by
        rw [frames, mem_cons] at isRunning
        rcases isRunning with same | isRunning
        · cases same
        · exact idle isRunning
      kept := logged.kept
      once := logged.once
      afterRemoval := logged.afterRemoval
      counted := by
        intro object isObject
        rcases mem_objects_postNext isObject with rfl | ⟨before, _⟩
        · exact counted
        · exact logged.counted object before
      transmissions := by
        intro object isObject
        rcases mem_objects_postNext isObject with rfl | ⟨before, different⟩
        · have sent := logged.transmissions request member
          rw [if_pos isSending] at sent
          rw [request.getNextDelay_key.1]
          change manager.log.count _ + _ ≤ _
          omega
        · have sent := logged.transmissions object before
          have same : ((object.key, Handler.sending) ∈ running) ↔
              (object.key, .sending) ∈ manager.running := by
            rw [frames, mem_cons, or_iff_right]
            exact fun same => different (congrArg Prod.fst same)
          change _ ≤ MAX_SENDS + if (object.key, Handler.sending) ∈ running then 1 else 0
          simp only [same]
          exact sent
      transmitted := logged.transmitted }

theorem Invariant.afterHandler (invariant : manager.Invariant) (handler : manager.running ≠ []) :
    ∃ next, manager.afterHandler = some next ∧ next.Invariant := by
  rw [StunRequestManager.afterHandler]
  cases frames : manager.running with
  | nil => exact absurd frames handler
  | cons frame running =>
    rcases frame with ⟨key, handler⟩
    have busy : manager.Busy key := by
      rw [Busy, frames]
      exact mem_cons_self
    rcases exists_object invariant.linked (invariant.linked.busy key busy) with
      ⟨request, member, rfl, found⟩
    cases handler with
    | callback =>
      refine ⟨_, ?_, invariant.afterCallback frames⟩
      simp only [found, bind_eq_bind, bind_some]
      exact (invariant.linked.popped frames).destroy_eq member
    | sending =>
      refine ⟨_, ?_, invariant.afterSending frames member⟩
      simp only [found, bind_eq_bind, bind_some]
      rfl

/-! ## Runs -/

theorem Invariant.step {event : RequestEvent} (invariant : manager.Invariant)
    (spares : manager.SparesRunning event) (stepped : manager.step event = some next) :
    next.Invariant := by
  cases event with
  | send requestClass messageClass id type delay => exact invariant.sendDelayed stepped
  | remove key => exact invariant.remove spares stepped
  | clear => exact Invariant.deleteAll _ invariant spares stepped
  | delete key => exact invariant.delete spares stepped
  | checkResponse message => exact invariant.checkResponse spares stepped
  | checkPacket data =>
    rw [StunRequestManager.step] at stepped
    cases read : manager.readResponse data with
    | none =>
      rw [read] at stepped
      exact Option.some.inj stepped ▸ invariant
    | some message =>
      rw [read] at stepped
      exact invariant.checkResponse (spares message read) stepped
  | message key => exact invariant.onMessage stepped
  | returned =>
    have handler : manager.running ≠ [] := by
      intro none
      rw [StunRequestManager.step, StunRequestManager.afterHandler, none] at stepped
      cases stepped
    rcases invariant.afterHandler handler with ⟨after, ended, afterInvariant⟩
    rw [StunRequestManager.step, ended] at stepped
    exact Option.some.inj stepped ▸ afterInvariant

theorem Invariant.finishesOnce (invariant : manager.Invariant) : manager.FinishesOnce where
  once := invariant.logged.once
  afterRemoval := invariant.logged.afterRemoval
  transmitted := invariant.logged.transmitted
  absent := by
    rintro key (removed | ⟨finished, ended⟩) listed
    · exact invariant.logged.kept key listed removed
    · exact finished.ne' (invariant.logged.pending key listed ended)
  live := by
    rintro key (listed | isPosted | busy)
    · exact invariant.linked.live_of_listed listed
    · rcases List.mem_map.mp isPosted with ⟨message, isMessage, rfl⟩
      exact invariant.linked.live_of_listed (invariant.linked.posted message isMessage).1
    · exact invariant.linked.busy key busy
  returns := by
    intro handler
    rcases invariant.afterHandler handler with ⟨next, ended, -⟩
    exact isSome_iff_exists.mpr ⟨next, ended⟩

end Steps

/-- In every run in which no handler removes the request that it sends, and none deletes or answers
its own request, each request finishes once. -/
theorem finishesOnce_of_sparesRunning {events : List RequestEvent} {last : StunRequestManager}
    (spares : Run.Permitted step SparesRunning new events)
    (run : Run.reached step new events = some last) : last.FinishesOnce :=
  (Run.invariant_of_reached step
    (fun _ _ _ invariant spares stepped => Invariant.step invariant spares stepped) invariant_new
      spares run).finishesOnce

def bindingRequest (id : Bytes) (delay : Nat) : RequestEvent :=
  .send .connectionRequest .iceMessage id STUN_BINDING_REQUEST delay

def bindingResponse (id : Bytes) : RequestEvent :=
  .checkResponse (StunMessage.new .iceMessage 0x0101 id)

/-- A request is answered, and its callback sends another one, which is cleared later. -/
def keptAlive : List RequestEvent :=
  [bindingRequest [1] 0, .message 0, .returned, bindingResponse [1], bindingRequest [2] 10000,
    .returned, bindingResponse [1], .message 1, .returned, .clear]

theorem finishesOnce_keptAlive :
    ∃ last, Run.reached step new keptAlive = some last ∧ last.FinishesOnce := by
  have spares : Run.Permitted step SparesRunning new keptAlive := by decide +kernel
  have runs : (Run.reached step new keptAlive).isSome := by decide +kernel
  rcases isSome_iff_exists.mp runs with ⟨last, run⟩
  exact ⟨last, run, finishesOnce_of_sparesRunning spares run⟩

def removedWhenSent : List RequestEvent :=
  [bindingRequest [1] 0, .message 0, .remove 0, .returned, .message 0]

def clearedInCallback : List RequestEvent :=
  [bindingRequest [1] 0, .message 0, .returned, bindingResponse [1], .clear]

/-- A request times out after it was removed, and the manager deletes a request that was deleted
in its callback. -/
theorem not_finishesOnce_removed :
    (∃ last, Run.reached step new removedWhenSent = some last ∧ ¬ last.FinishesOnce) ∧
      ∃ last, Run.reached step new clearedInCallback = some last ∧ ¬ last.FinishesOnce := by
  constructor
  · have log : (Run.reached step new removedWhenSent).map StunRequestManager.log =
        some [.timedOut 0, .removed 0, .sent 0] := by decide +kernel
    rcases map_eq_some_iff.mp log with ⟨last, run, lastLog⟩
    refine ⟨last, run, fun finishes => ?_⟩
    have after := finishes.afterRemoval 0 [.timedOut 0] [.sent 0] lastLog _ mem_cons_self
    cases after
  · have ended : (Run.reached step new clearedInCallback).map (fun last =>
        (last.running, (last.step .returned).isSome)) = some ([(0, .callback)], false) := by
      decide +kernel
    rcases map_eq_some_iff.mp ended with ⟨last, run, lastState⟩
    rw [Prod.mk.injEq] at lastState
    refine ⟨last, run, fun finishes => ?_⟩
    have returns := finishes.returns (by rw [lastState.1]; exact cons_ne_nil _ _)
    rw [lastState.2] at returns
    cases returns

end StunRequestManager

end ZyWebRtc.Stun
