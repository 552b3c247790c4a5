import ZyWebRtc.DataChannel.DeliveryOrder

namespace ZyWebRtc.DataChannel

/-! How often the provider is called before a channel that became ready is done with its queues.
A provider is given by what it answers to the calls, in their order. -/

open List

def answers (provider : Nat → SendDataResult) (count : Nat) : List SendDataResult :=
  (List.range count).map provider

namespace Channel

/-- How often the provider was given a control message. -/
def controlCalls (channel : Channel) : Nat :=
  channel.calls.countP fun call => call.params.type = .control

/-- The call ends, and no queue caused more calls of the provider than it had messages. -/
def EndsInBounds (writable connects : Bool) (provider : Nat → SendDataResult)
    (channel : Channel) : Prop :=
  ∃ count ready, channel.onChannelReady writable connects (answers provider count) = some ready ∧
    ready.calls.length ≤
      channel.calls.length + (channel.queuedControlData.length + channel.queuedSendData.length) ∧
    ready.controlCalls ≤ channel.controlCalls + channel.queuedControlData.length

/-- Nothing is drained, or no message that is drained comes back to the queue of control
messages. -/
def DrainsOnce (writable : Bool) (provider : Nat → SendDataResult) (channel : Channel) : Prop :=
  writable = false ∨ (channel.wasEverWritable = true ∧ channel.state ≠ .open) ∨
    channel.dataChannelType = .rtp ∨ channel.queuedControlData = [] ∨
    ((channel.state = .open ∨ channel.state = .connecting ∧ channel.hasNegotiationCompleted) ∧
      ∀ index < channel.queuedControlData.length, provider index ≠ .block)

/-! ## The loop of the control messages -/

/-- What the loop leaves alone, and how often it calls the provider. -/
structure Drained (before : Channel) (count : Nat) (after : Channel) : Prop where
  wasEverWritable : after.wasEverWritable = before.wasEverWritable
  queuedSendData : after.queuedSendData = before.queuedSendData
  calls : after.calls.length = before.calls.length + count
  controls : after.controlCalls = before.controlCalls + count

theorem controlCalls_provide (params : SendDataParams) (payload : Bytes)
    (result : SendDataResult) (channel : Channel) :
    (channel.provide params payload result).controlCalls =
      channel.controlCalls + if params.type = .control then 1 else 0 := by
  rw [controlCalls, provide, countP_append, controlCalls]
  by_cases control : params.type = .control <;> simp [control]

variable {channel : Channel}

theorem Drained.of_queue {drained : Channel} {queue : List Bytes} {count : Nat}
    (same : Drained { channel with queuedControlData := queue } count drained) :
    channel.Drained count drained :=
  ⟨same.wasEverWritable, same.queuedSendData, same.calls, same.controls⟩

theorem Drained.of_provide {drained : Channel} {buffer : Bytes} {result : SendDataResult}
    {count : Nat}
    (same : Drained (channel.provide channel.controlParams buffer result) count drained) :
    channel.Drained (count + 1) drained where
  wasEverWritable := same.wasEverWritable
  queuedSendData := same.queuedSendData
  calls := by
    rw [same.calls, Channel.provide, length_append, length_singleton]
    exact Nat.add_right_comm _ _ _
  controls := by
    rw [same.controls, controlCalls_provide, if_pos (by rfl)]
    exact Nat.add_right_comm _ _ _

variable {results : List SendDataResult}

theorem deliverControlData_of_empty (empty : channel.queuedControlData = []) :
    deliverControlData results channel = some (results, channel) := by
  rw [deliverControlData.eq_def]
  cases results with
  | nil => exact if_pos empty
  | cons =>
    dsimp only
    rw [empty]

theorem deliverControlData_rtp :
    ∀ {channel : Channel}, channel.dataChannelType = .rtp →
      channel.queuedControlData.length ≤ results.length →
      deliverControlData results channel = some (results.drop channel.queuedControlData.length,
        { channel with queuedControlData := [] }) := by
  induction results with
  | nil =>
    rintro ⟨⟩ _ enough
    cases length_eq_zero_iff.mp (Nat.le_zero.mp enough)
    rfl
  | cons result results induction =>
    intro channel rtp enough
    rw [deliverControlData.eq_def]
    cases queue : channel.queuedControlData with
    | nil =>
      cases channel
      cases queue
      rfl
    | cons buffer others =>
      rw [queue] at enough
      dsimp only
      rw [queue]
      dsimp only
      rw [Channel.sendControl.eq_def, if_pos (by exact rtp)]
      exact induction (by exact rtp) (Nat.le_of_succ_le_succ enough)

theorem deliverControlData_drained {left : List SendDataResult} {used : List SendDataResult} :
    ∀ {channel : Channel}, channel.dataChannelType = .sctp → channel.state = .open →
      channel.queuedControlData.length = used.length → (∀ result ∈ used, result ≠ .block) →
      ∃ drained, deliverControlData (used ++ left) channel = some (left, drained) ∧
        channel.Drained used.length drained := by
  induction used with
  | nil =>
    intro channel _ _ empty _
    have empty := length_eq_zero_iff.mp empty
    refine ⟨channel, ?_, rfl, rfl, rfl, rfl⟩
    rw [nil_append, deliverControlData_of_empty empty]
  | cons result used induction =>
    intro channel sctp isOpen length passes
    rcases exists_of_length_succ _ length with ⟨buffer, others, queue⟩
    rw [queue] at length
    rw [cons_append, deliverControlData, queue]
    dsimp only
    rw [sendControl_open { channel with queuedControlData := others } buffer result sctp isOpen,
      if_neg (passes result mem_cons_self)]
    rcases @induction (({ channel with queuedControlData := others } : Channel).provide
        channel.controlParams buffer result) sctp isOpen (Nat.succ_inj.mp length)
        (fun other member => passes other (mem_cons_of_mem _ member)) with
      ⟨drained, delivered, same⟩
    exact ⟨drained, delivered, same.of_provide.of_queue⟩

theorem deliverControlData_calls {left : List SendDataResult} {drained : Channel} :
    ∀ {channel : Channel}, channel.dataChannelType = .sctp → channel.state = .open →
      deliverControlData results channel = some (left, drained) →
      ∃ used, results = used ++ left ∧ channel.Drained used.length drained ∧
        used.countP (· ≠ .block) = channel.queuedControlData.length := by
  induction results with
  | nil =>
    intro channel _ _ delivered
    rw [deliverControlData] at delivered
    split at delivered
    next empty =>
      cases delivered
      exact ⟨[], rfl, ⟨rfl, rfl, rfl, rfl⟩, by rw [empty]; rfl⟩
    next => cases delivered
  | cons result results induction =>
    intro channel sctp isOpen delivered
    rw [deliverControlData] at delivered
    split at delivered
    next empty =>
      cases delivered
      exact ⟨[], rfl, ⟨rfl, rfl, rfl, rfl⟩, by rw [empty]; rfl⟩
    next buffer others queue =>
      rw [sendControl_open { channel with queuedControlData := others } buffer result sctp
        isOpen] at delivered
      by_cases blocked : result = .block
      · rw [if_pos blocked] at delivered
        rcases induction (by exact sctp) (by exact isOpen) delivered with ⟨used, rfl, same, counted⟩
        refine ⟨result :: used, rfl, same.of_queue.of_provide.of_queue, ?_⟩
        rw [countP_cons_of_neg (by simp [blocked]), counted, queue]
        exact length_append
      · rw [if_neg blocked] at delivered
        rcases induction (by exact sctp) (by exact isOpen) delivered with ⟨used, rfl, same, counted⟩
        refine ⟨result :: used, rfl, same.of_provide.of_queue, ?_⟩
        rw [countP_cons_of_pos (by simp [blocked]), counted, queue]
        rfl

theorem controlCalls_internalSend (buffer : DataBuffer) (result : SendDataResult)
    (channel : Channel) :
    (channel.internalSendWithoutQueueing buffer result).controlCalls = channel.controlCalls := by
  rw [internalSendWithoutQueueing, controlCalls_provide, dataParams_type]
  rcases buffer with ⟨data, _ | _⟩ <;> rfl

theorem deliverSendData_controlCalls :
    ∀ {channel ready : Channel}, deliverSendData results channel = some ready →
      ready.controlCalls = channel.controlCalls := by
  induction results with
  | nil =>
    intro channel ready delivered
    rw [deliverSendData] at delivered
    split at delivered <;> cases delivered
    rfl
  | cons result results induction =>
    intro channel ready delivered
    rw [deliverSendData] at delivered
    split at delivered
    · cases delivered
      rfl
    · dsimp only at delivered
      split at delivered
      · exact (induction delivered).trans (controlCalls_internalSend _ result channel)
      · cases delivered
        exact controlCalls_internalSend _ result channel

theorem exists_deliverSendData :
    ∀ {channel : Channel}, channel.queuedSendData.length ≤ results.length →
      ∃ ready, deliverSendData results channel = some ready ∧
        ready.calls.length ≤ channel.calls.length + channel.queuedSendData.length := by
  induction results with
  | nil =>
    intro channel enough
    refine ⟨channel, ?_, Nat.le_add_right _ _⟩
    rw [deliverSendData, if_pos (length_eq_zero_iff.mp (Nat.le_zero.mp enough))]
  | cons result results induction =>
    intro channel enough
    rw [deliverSendData.eq_def]
    dsimp only
    cases queue : channel.queuedSendData with
    | nil => exact ⟨channel, rfl, Nat.le_add_right _ _⟩
    | cons buffer others =>
      rw [queue] at enough
      have more : (channel.internalSendWithoutQueueing buffer result).calls.length =
          channel.calls.length + 1 := length_append
      dsimp only
      split
      · rcases @induction { channel.internalSendWithoutQueueing buffer result with
            queuedSendData := others } (Nat.le_of_succ_le_succ enough) with
          ⟨ready, delivered, calls⟩
        refine ⟨ready, delivered, calls.trans ?_⟩
        rw [more, length_cons]
        change _ + 1 + others.length ≤ _
        omega
      · refine ⟨_, rfl, ?_⟩
        rw [more, length_cons]
        omega

/-! ## The call -/

theorem deliverQueuedReceivedData_state (channel : Channel) :
    channel.deliverQueuedReceivedData.wasEverWritable = channel.wasEverWritable ∧
      channel.deliverQueuedReceivedData.state = channel.state := by
  rw [deliverQueuedReceivedData]
  split
  · exact ⟨rfl, rfl⟩
  · exact ⟨rfl, rfl⟩

/-- A channel that can be written for the first time opens unless its negotiation goes on, or it
was closed. -/
theorem updateState_of_writable {connects : Bool} {channel : Channel}
    (writable : channel.wasEverWritable = true) :
    (channel.updateState connects).wasEverWritable = true ∧
      ((channel.updateState connects).state = .open ↔ channel.state = .open ∨
        channel.state = .connecting ∧ channel.hasNegotiationCompleted) := by
  rw [updateState.eq_def]
  cases state : channel.state with
  | connecting =>
    by_cases negotiated : channel.hasNegotiationCompleted = true
    · dsimp only
      rw [if_pos negotiated]
      have opened : (if channel.connectedToProvider then channel
          else channel.connectToDataSession connects).wasEverWritable = true := by
        split
        · exact writable
        · exact writable
      rw [if_pos opened]
      exact ⟨(deliverQueuedReceivedData_state _).1.trans opened,
        iff_of_true (deliverQueuedReceivedData_state _).2 (.inr ⟨rfl, negotiated⟩)⟩
    · simp [negotiated, state, writable]
  | «open» => simp [state, writable]
  | closing =>
    dsimp only
    split <;> split <;>
      simp_all [setState, disconnectFromDataSession]
  | closed => simp [state, writable]

theorem answers_add (provider : Nat → SendDataResult) (count more : Nat) :
    answers provider (count + more) =
      answers provider count ++ answers (fun index => provider (count + index)) more := by
  rw [answers, range_add, map_append, List.map_map]
  rfl

theorem length_answers (provider : Nat → SendDataResult) (count : Nat) :
    (answers provider count).length = count := by
  rw [answers, length_map, length_range]

variable {provider : Nat → SendDataResult}

theorem exists_deliverControlData (more : Nat)
    (once : channel.dataChannelType = .rtp ∨ channel.queuedControlData = [] ∨
      channel.state = .open ∧ ∀ index < channel.queuedControlData.length, provider index ≠ .block) :
    ∃ left drained, deliverControlData
        (answers provider (channel.queuedControlData.length + more)) channel =
          some (left, drained) ∧
      left.length = more ∧ ∃ count ≤ channel.queuedControlData.length,
        channel.Drained count drained := by
  cases type : channel.dataChannelType with
  | rtp =>
    refine ⟨_, _, deliverControlData_rtp type ?_, ?_, 0, Nat.zero_le _, rfl, rfl, rfl, rfl⟩
    · rw [length_answers]
      exact Nat.le_add_right _ _
    · rw [length_drop, length_answers, Nat.add_sub_cancel_left]
  | sctp =>
    rcases once with rtp | empty | ⟨isOpen, passes⟩
    · rw [type] at rtp
      cases rtp
    · refine ⟨_, channel, deliverControlData_of_empty empty, ?_, 0, Nat.zero_le _, rfl, rfl,
        rfl, rfl⟩
      rw [length_answers, empty, length_nil, Nat.zero_add]
    · rw [answers_add]
      rcases @deliverControlData_drained
          (answers (fun index => provider (channel.queuedControlData.length + index)) more)
          (answers provider channel.queuedControlData.length) channel type isOpen
          (length_answers _ _).symm (by
            intro result member
            rcases List.mem_map.mp member with ⟨index, within, rfl⟩
            exact passes index (mem_range.mp within)) with ⟨drained, delivered, same⟩
      rw [length_answers] at same
      exact ⟨_, drained, delivered, length_answers _ _, _, le_rfl, same⟩

theorem not_blocked_of_deliverControlData {count : Nat}
    {left : List SendDataResult} {drained : Channel}
    (sctp : channel.dataChannelType = .sctp) (filled : channel.queuedControlData ≠ [])
    (delivered : deliverControlData (answers provider count) channel = some (left, drained))
    (bounded : drained.controlCalls ≤ channel.controlCalls + channel.queuedControlData.length) :
    channel.state = .open ∧
      ∀ index < channel.queuedControlData.length, provider index ≠ .block := by
  by_cases isOpen : channel.state = .open
  · rcases deliverControlData_calls sctp isOpen delivered with ⟨used, split, same, counted⟩
    rw [same.controls] at bounded
    have all : used.countP (· ≠ .block) = used.length := by
      have most := @countP_le_length _ (fun result => decide (result ≠ .block)) used
      omega
    refine ⟨isOpen, fun index within => ?_⟩
    have inside : index < used.length := by omega
    have passes := countP_eq_length.mp all _ (getElem_mem inside)
    have known : (answers provider count)[index]? = some used[index] := by
      rw [split, List.getElem?_append_left inside, List.getElem?_eq_getElem inside]
    rw [answers, List.getElem?_map] at known
    rcases Option.map_eq_some_iff.mp known with ⟨other, place, value⟩
    have same : other = index := by
      rcases List.getElem?_eq_some_iff.mp place with ⟨_, found⟩
      rw [getElem_range] at found
      exact found.symm
    rw [← same, value]
    exact of_decide_eq_true passes
  · rw [deliverControlData_stuck sctp isOpen filled] at delivered
    cases delivered

/-- The call of a channel whose queue is drained in the state `start`, whatever follows, as long as
that ends and sends no control message. -/
theorem ends_after_controlData_iff {start : Channel}
    {follow : List SendDataResult × Channel → Option Channel}
    (drains : channel.wasEverWritable = true → channel.state = .open)
    (same : SameTraffic channel start)
    (opens : start.state = .open ↔
      channel.state = .open ∨ channel.state = .connecting ∧ channel.hasNegotiationCompleted)
    (noControl : ∀ {left drained ready}, follow (left, drained) = some ready →
      ready.controlCalls = drained.controlCalls)
    (ends : ∀ {left count drained}, left.length = start.queuedSendData.length →
      start.Drained count drained → ∃ ready, follow (left, drained) = some ready ∧
        ready.calls.length ≤ drained.calls.length + start.queuedSendData.length) :
    (∃ count ready, (deliverControlData (answers provider count) start).bind follow = some ready ∧
      ready.calls.length ≤ channel.calls.length +
        (channel.queuedControlData.length + channel.queuedSendData.length) ∧
      ready.controlCalls ≤ channel.controlCalls + channel.queuedControlData.length) ↔
    channel.DrainsOnce true provider := by
  have made : channel.controlCalls = start.controlCalls :=
    congrArg (List.countP _) same.calls.symm
  rw [DrainsOnce, ← same.dataChannelType, made, ← same.calls, ← same.queuedControlData,
    ← same.queuedSendData, ← opens]
  constructor
  · rintro ⟨count, ready, result, _, controls⟩
    rcases Option.bind_eq_some_iff.mp result with ⟨⟨left, drained⟩, delivered, followed⟩
    rw [noControl followed] at controls
    apply Or.inr ∘ Or.inr
    cases type : start.dataChannelType with
    | rtp => exact .inl rfl
    | sctp =>
      by_cases empty : start.queuedControlData = []
      · exact .inr (.inl empty)
      · exact .inr (.inr (not_blocked_of_deliverControlData type empty delivered controls))
  · rintro (no | ⟨writable, shut⟩ | once)
    · cases no
    · exact absurd (drains writable) shut
    · rcases exists_deliverControlData start.queuedSendData.length once with
        ⟨left, drained, delivered, length, count, few, same⟩
      rcases ends length same with ⟨ready, followed, calls⟩
      refine ⟨start.queuedControlData.length + start.queuedSendData.length, ready, ?_, ?_, ?_⟩
      · rw [delivered]
        exact followed
      · rw [same.calls] at calls
        omega
      · rw [noControl followed, same.controls]
        omega

/-- A message that waits for the channel to open comes back whenever the provider is blocked. -/
theorem not_endsInBounds_blocked :
    ¬((Channel.new .sctp {}).sendControl [2] .success).2.EndsInBounds true true
      fun _ => .block := by
  rintro ⟨count, ready, result, _, controls⟩
  rcases Option.bind_eq_some_iff.mp (show (deliverControlData _ _).bind _ = _ from result) with
    ⟨⟨left, drained⟩, delivered, followed⟩
  cases followed
  exact (not_blocked_of_deliverControlData rfl (cons_ne_nil _ _) delivered controls).2 0
    (by decide) rfl

/-- The draining ends within bounds exactly when no drained message is queued again. -/
theorem endsInBounds_iff_drainsOnce (writable connects : Bool)
    (provider : Nat → SendDataResult) (channel : Channel) :
    channel.EndsInBounds writable connects provider ↔ channel.DrainsOnce writable provider := by
  rw [EndsInBounds]
  cases writable with
  | false =>
    exact iff_of_true ⟨0, channel, rfl, Nat.le_add_right _ _, Nat.le_add_right _ _⟩ (.inl rfl)
  | true =>
    cases writable : channel.wasEverWritable with
    | false =>
      have same : SameTraffic channel
          ({ channel with wasEverWritable := true }.updateState connects) :=
        updateState_sameTraffic connects ⟨rfl, rfl, rfl, rfl, rfl⟩
      have opens := @updateState_of_writable connects { channel with wasEverWritable := true }
        rfl
      have call (count : Nat) : channel.onChannelReady true connects (answers provider count) =
          (deliverControlData (answers provider count)
            ({ channel with wasEverWritable := true }.updateState connects)).bind
              fun outcome => some outcome.2 := by
        rw [onChannelReady, if_neg (by decide), if_pos writable, deliverQueuedControlData,
          if_pos opens.1]
        rfl
      simp only [call]
      refine ends_after_controlData_iff (fun yes => by rw [writable] at yes; cases yes) same
        opens.2 (fun followed => ?_) fun _ _ => ?_
      · cases followed
        rfl
      · exact ⟨_, rfl, Nat.le_add_right _ _⟩
    | true =>
      by_cases isOpen : channel.state = .open
      · have call (count : Nat) :
            channel.onChannelReady true connects (answers provider count) =
              (deliverControlData (answers provider count) channel).bind fun outcome =>
                if outcome.2.wasEverWritable then deliverSendData outcome.1 outcome.2
                else some outcome.2 := by
          rw [onChannelReady, if_neg (by decide), if_neg (by rw [writable]; decide),
            if_pos isOpen, deliverQueuedSendData, deliverQueuedControlData, if_pos writable]
          rfl
        simp only [call]
        refine ends_after_controlData_iff (fun _ => isOpen) (.refl channel)
          ⟨.inl, fun _ => isOpen⟩ (fun followed => ?_) fun length same => ?_
        · dsimp only at followed
          split at followed
          · exact deliverSendData_controlCalls followed
          · cases followed
            rfl
        · rw [if_pos (same.wasEverWritable.trans writable), ← same.queuedSendData]
          exact exists_deliverSendData (by rw [same.queuedSendData, length])
      · refine iff_of_true ⟨0, channel, ?_, Nat.le_add_right _ _, Nat.le_add_right _ _⟩
          (.inr (.inl ⟨writable, isOpen⟩))
        rw [onChannelReady, if_neg (by decide), writable, if_neg (by decide), if_neg isOpen]

end Channel

end ZyWebRtc.DataChannel
