import ZyWebRtc.DataChannel.Channel
import ZyWebRtc.Foundation.Run

namespace ZyWebRtc.DataChannel

/-! The order in which a data channel hands messages on: those of the application and the control
messages to the provider, and those received to the observer. -/

open List Option Channel

/-- The messages of the application that the provider took. -/
def handedData (calls : List ProviderCall) : List DataBuffer :=
  calls.filterMap fun call => if call.result = .success ∧ call.params.type ≠ .control then
      some ⟨call.payload, call.params.type = .binary⟩
    else none

def handedControl (calls : List ProviderCall) : List Bytes :=
  calls.filterMap fun call =>
    if call.result = .success ∧ call.params.type = .control then some call.payload else none

/-! ## Runs of a channel -/

/-- Each event comes with the answers of the provider to the calls that it causes. -/
inductive Operation
  | send (buffer : DataBuffer) (result : SendDataResult)
  | sendControl (buffer : Bytes) (result : SendDataResult)
  | setSendSsrc (sendSsrc : UInt32) (connects : Bool)
  | setReceiveSsrc (receiveSsrc : UInt32) (connects : Bool)
  | onChannelReady (writable connects : Bool) (results : List SendDataResult)
  | onDataReceived (ssrc : UInt32) (type : DataMessageType) (payload : Bytes)
  | registerObserver
  | unregisterObserver
  | close (connects : Bool)
  | doClose (connects : Bool)

/-- A channel, the messages for which `Send` was successful, the control messages that
`SendControl` took, and the messages that arrived. -/
structure Conversation where
  channel : Channel
  sent : List DataBuffer
  controls : List Bytes
  received : List DataBuffer

def Channel.takesControl (result : SendDataResult) (channel : Channel) : Bool :=
  channel.dataChannelType = .sctp ∧ (channel.state = .open → result ≠ .error)

namespace Conversation

def init (dataChannelType : DataChannelType) (config : DataChannelInit) : Conversation :=
  ⟨.new dataChannelType config, [], [], []⟩

def step (conversation : Conversation) : Operation → Option Conversation
  | .send buffer result =>
    let sending := conversation.channel.send buffer result
    some { conversation with
      channel := sending.2
      sent := if sending.1 then conversation.sent ++ [buffer] else conversation.sent }
  | .sendControl buffer result =>
    some { conversation with
      channel := (conversation.channel.sendControl buffer result).2
      controls :=
        if conversation.channel.takesControl result then conversation.controls ++ [buffer]
        else conversation.controls }
  | .setSendSsrc sendSsrc connects =>
    some { conversation with channel := conversation.channel.setSendSsrc sendSsrc connects }
  | .setReceiveSsrc receiveSsrc connects =>
    some { conversation with
      channel := conversation.channel.setReceiveSsrc receiveSsrc connects }
  | .onChannelReady writable connects results => do
    let channel ← conversation.channel.onChannelReady writable connects results
    pure { conversation with channel := channel }
  | .onDataReceived ssrc type payload =>
    some { conversation with
      channel := conversation.channel.onDataReceived ssrc type payload
      received :=
        if ssrc = conversation.channel.receiveSsrc then
          conversation.received ++ [⟨payload, type = .binary⟩]
        else conversation.received }
  | .registerObserver =>
    some { conversation with channel := conversation.channel.registerObserver }
  | .unregisterObserver =>
    some { conversation with channel := conversation.channel.unregisterObserver }
  | .close connects => some { conversation with channel := conversation.channel.close connects }
  | .doClose connects =>
    some { conversation with channel := conversation.channel.doClose connects }

/-- The provider took a prefix of the messages that were sent, and control messages in the order
in which they were accepted; the observer was given a prefix of the messages that arrived. -/
structure Ordered (conversation : Conversation) : Prop where
  data : handedData conversation.channel.calls <+: conversation.sent
  control : (handedControl conversation.channel.calls).Sublist conversation.controls
  messages : conversation.channel.messages <+: conversation.received

/-- While the queued control messages are delivered, the provider blocks none that another one
waits behind. -/
def BlocksLastOnly : List SendDataResult → (queued : Nat) → Prop
  | [], _ => True
  | _, 0 => True
  | .block :: results, queued + 1 => queued = 0 ∧ BlocksLastOnly results 1
  | _ :: results, queued + 1 => BlocksLastOnly results queued

def decideBlocksLastOnly : ∀ results queued, Decidable (BlocksLastOnly results queued)
  | [], _ => .isTrue trivial
  | _ :: _, 0 => .isTrue trivial
  | .block :: results, queued + 1 =>
    have := decideBlocksLastOnly results 1
    inferInstanceAs (Decidable (queued = 0 ∧ _))
  | .success :: results, queued + 1 => decideBlocksLastOnly results queued
  | .error :: results, queued + 1 => decideBlocksLastOnly results queued

instance (results : List SendDataResult) (queued : Nat) :
    Decidable (BlocksLastOnly results queued) := decideBlocksLastOnly results queued

/-- An operation that no message can overtake another in, and that drops none. -/
def Allowed (conversation : Conversation) : Operation → Prop
  | .sendControl _ _ =>
    conversation.channel.dataChannelType = .sctp → conversation.channel.state = .open →
      conversation.channel.queuedControlData = []
  | .onChannelReady writable _ results =>
    writable = true →
      conversation.channel.wasEverWritable = false ∨ conversation.channel.state = .open →
        BlocksLastOnly results conversation.channel.queuedControlData.length
  | .onDataReceived ssrc _ _ =>
    ssrc = conversation.channel.receiveSsrc →
      if conversation.channel.wasEverWritable && conversation.channel.hasObserver then
        conversation.channel.queuedReceivedData = []
      else conversation.channel.queuedReceivedData.length ≤ kMaxQueuedReceivedDataPackets
  | _ => True

def decideAllowed (conversation : Conversation) :
    ∀ operation, Decidable (conversation.Allowed operation)
  | .sendControl _ _ => inferInstanceAs (Decidable (_ = _ → _ = _ → _ = _))
  | .onChannelReady _ _ _ => inferInstanceAs (Decidable (_ = true → _ ∨ _ → BlocksLastOnly _ _))
  | .onDataReceived _ _ _ => inferInstanceAs (Decidable (_ = _ → ite _ (_ = _) (_ ≤ _)))
  | .send _ _ => .isTrue trivial
  | .setSendSsrc _ _ => .isTrue trivial
  | .setReceiveSsrc _ _ => .isTrue trivial
  | .registerObserver => .isTrue trivial
  | .unregisterObserver => .isTrue trivial
  | .close _ => .isTrue trivial
  | .doClose _ => .isTrue trivial

instance (conversation : Conversation) (operation : Operation) :
    Decidable (conversation.Allowed operation) := conversation.decideAllowed operation

end Conversation

/-! ## What changes of state leave alone -/

/-- Nothing is sent, and what was received goes at most from the queue to the observer. -/
structure SameTraffic (before after : Channel) : Prop where
  dataChannelType : after.dataChannelType = before.dataChannelType
  calls : after.calls = before.calls
  queuedSendData : after.queuedSendData = before.queuedSendData
  queuedControlData : after.queuedControlData = before.queuedControlData
  received : after.messages ++ after.queuedReceivedData =
    before.messages ++ before.queuedReceivedData

namespace SameTraffic

theorem refl (channel : Channel) : SameTraffic channel channel := ⟨rfl, rfl, rfl, rfl, rfl⟩

theorem trans {first second third : Channel} (earlier : SameTraffic first second)
    (later : SameTraffic second third) : SameTraffic first third where
  dataChannelType := later.dataChannelType.trans earlier.dataChannelType
  calls := later.calls.trans earlier.calls
  queuedSendData := later.queuedSendData.trans earlier.queuedSendData
  queuedControlData := later.queuedControlData.trans earlier.queuedControlData
  received := later.received.trans earlier.received

end SameTraffic

theorem deliverQueuedReceivedData_sameTraffic {before changed : Channel}
    (same : SameTraffic before changed) :
    SameTraffic before changed.deliverQueuedReceivedData := by
  apply same.trans
  rw [deliverQueuedReceivedData]
  split
  · exact .refl changed
  · exact ⟨rfl, rfl, rfl, rfl, append_nil _⟩

theorem updateState_sameTraffic (connects : Bool) {before channel : Channel}
    (same : SameTraffic before channel) :
    SameTraffic before (channel.updateState connects) := by
  apply same.trans
  rw [updateState.eq_def]
  split
  · split
    · dsimp only
      split
      · split
        · exact deliverQueuedReceivedData_sameTraffic ⟨rfl, rfl, rfl, rfl, rfl⟩
        · exact .refl channel
      · split
        · exact deliverQueuedReceivedData_sameTraffic ⟨rfl, rfl, rfl, rfl, rfl⟩
        · exact ⟨rfl, rfl, rfl, rfl, rfl⟩
    · exact .refl channel
  · exact .refl channel
  · dsimp only
    split
    · split
      · exact ⟨rfl, rfl, rfl, rfl, rfl⟩
      · exact ⟨rfl, rfl, rfl, rfl, rfl⟩
    · split
      · exact ⟨rfl, rfl, rfl, rfl, rfl⟩
      · exact .refl channel
  · exact .refl channel

theorem close_sameTraffic (connects : Bool) (channel : Channel) :
    SameTraffic channel (channel.close connects) := by
  rw [close]
  split
  · exact .refl channel
  · exact updateState_sameTraffic connects ⟨rfl, rfl, rfl, rfl, rfl⟩

theorem doClose_sameTraffic (connects : Bool) (channel : Channel) :
    SameTraffic channel (channel.doClose connects) :=
  updateState_sameTraffic connects ⟨rfl, rfl, rfl, rfl, rfl⟩

theorem setReceiveSsrc_sameTraffic (receiveSsrc : UInt32) (connects : Bool)
    (channel : Channel) : SameTraffic channel (channel.setReceiveSsrc receiveSsrc connects) := by
  rw [setReceiveSsrc]
  split
  · exact .refl channel
  · exact updateState_sameTraffic connects ⟨rfl, rfl, rfl, rfl, rfl⟩

theorem setSendSsrc_sameTraffic (sendSsrc : UInt32) (connects : Bool) (channel : Channel) :
    SameTraffic channel (channel.setSendSsrc sendSsrc connects) := by
  rw [setSendSsrc]
  split
  · exact .refl channel
  · exact updateState_sameTraffic connects ⟨rfl, rfl, rfl, rfl, rfl⟩

theorem registerObserver_sameTraffic (channel : Channel) :
    SameTraffic channel channel.registerObserver :=
  deliverQueuedReceivedData_sameTraffic ⟨rfl, rfl, rfl, rfl, rfl⟩

/-- What was sent was handed over or is queued, what was received was given to the observer or is
queued, and the control messages that are not queued were handed over in order, or dropped. -/
structure Holds (sent : List DataBuffer) (controls : List Bytes) (received : List DataBuffer)
    (channel : Channel) : Prop where
  data : sent = handedData channel.calls ++ channel.queuedSendData
  control : ∃ settled, controls = settled ++ channel.queuedControlData ∧
    (handedControl channel.calls).Sublist settled
  received : received = channel.messages ++ channel.queuedReceivedData
  quiet : channel.dataChannelType = .rtp → channel.queuedControlData = []

section Holds

variable {sent received : List DataBuffer} {controls : List Bytes} {channel : Channel}

theorem Holds.of_sameTraffic {after : Channel} (holds : Holds sent controls received channel)
    (same : SameTraffic channel after) : Holds sent controls received after where
  data := by rw [same.calls, same.queuedSendData, holds.data]
  control := by
    rw [same.calls, same.queuedControlData]
    exact holds.control
  received := by rw [same.received, holds.received]
  quiet := by
    rw [same.dataChannelType, same.queuedControlData]
    exact holds.quiet

/-! ### Messages of the application -/

theorem handedData_append (calls : List ProviderCall) (call : ProviderCall) :
    handedData (calls ++ [call]) = handedData calls ++
      if call.result = .success ∧ call.params.type ≠ .control then
        [⟨call.payload, call.params.type = .binary⟩]
      else [] := by
  rw [handedData, handedData, filterMap_append]
  by_cases taken : call.result = .success ∧ call.params.type ≠ .control
  · simp [taken]
  · simp only [if_neg taken, filterMap_cons, filterMap_nil]

theorem handedControl_append (calls : List ProviderCall) (call : ProviderCall) :
    handedControl (calls ++ [call]) = handedControl calls ++
      if call.result = .success ∧ call.params.type = .control then [call.payload] else [] := by
  rw [handedControl, handedControl, filterMap_append]
  by_cases taken : call.result = .success ∧ call.params.type = .control
  · simp [taken]
  · simp only [if_neg taken, filterMap_cons, filterMap_nil]

theorem dataParams_type (channel : Channel) (buffer : DataBuffer) :
    (channel.dataParams buffer).type = if buffer.binary then .binary else .text := by
  rw [dataParams.eq_def]
  cases channel.dataChannelType <;> rfl

theorem handedData_provide (channel : Channel) (buffer : DataBuffer) (result : SendDataResult) :
    handedData (channel.internalSendWithoutQueueing buffer result).calls =
      handedData channel.calls ++ if result = .success then [buffer] else [] := by
  change handedData (channel.calls ++ [_]) = _
  rw [handedData_append, dataParams_type]
  rcases buffer with ⟨data, _ | _⟩ <;> simp

theorem handedControl_provide (channel : Channel) (buffer : DataBuffer)
    (result : SendDataResult) :
    handedControl (channel.internalSendWithoutQueueing buffer result).calls =
      handedControl channel.calls := by
  change handedControl (channel.calls ++ [_]) = _
  rw [handedControl_append, dataParams_type]
  rcases buffer with ⟨data, _ | _⟩ <;> simp

section

variable (holds : Holds sent controls received channel) (buffer : DataBuffer)

include holds

theorem Holds.internalSend_failed {result : SendDataResult} (failed : result ≠ .success) :
    Holds sent controls received (channel.internalSendWithoutQueueing buffer result) where
  data := by
    rw [handedData_provide, if_neg failed, append_nil]
    exact holds.data
  control := by
    rw [handedControl_provide]
    exact holds.control
  received := holds.received
  quiet := holds.quiet

theorem Holds.queueSendData :
    Holds (if (channel.queueSendData buffer).1 then sent ++ [buffer] else sent) controls received
      (channel.queueSendData buffer).2 := by
  rw [Channel.queueSendData]
  split
  · exact holds
  · refine ⟨?_, holds.control, holds.received, holds.quiet⟩
    dsimp only
    rw [if_pos rfl, holds.data, append_assoc]

theorem Holds.send (result : SendDataResult) :
    Holds (if (channel.send buffer result).1 then sent ++ [buffer] else sent) controls received
      (channel.send buffer result).2 := by
  rw [Channel.send]
  split
  · exact holds
  split
  · exact holds.queueSendData buffer
  rename_i unqueued
  rw [ne_eq, not_not] at unqueued
  cases result with
  | success =>
    refine ⟨?_, ?_, holds.received, holds.quiet⟩
    · dsimp only
      change sent ++ [buffer] = handedData
        (channel.internalSendWithoutQueueing buffer .success).calls ++ channel.queuedSendData
      rw [handedData_provide, if_pos rfl, unqueued, append_nil, holds.data, unqueued, append_nil]
    · dsimp only
      rw [handedControl_provide]
      exact holds.control
  | error => exact holds.internalSend_failed buffer (by decide)
  | block => exact (holds.internalSend_failed buffer (by decide)).queueSendData buffer

end

theorem Holds.deliverSendData {results : List SendDataResult} :
    ∀ {channel after}, Holds sent controls received channel →
      Channel.deliverSendData results channel = some after →
      Holds sent controls received after := by
  induction results with
  | nil =>
    intro channel after holds run
    rw [Channel.deliverSendData] at run
    split at run
    · cases run
      exact holds
    · cases run
  | cons result results induction =>
    intro channel after holds run
    rw [Channel.deliverSendData] at run
    split at run
    · cases run
      exact holds
    · rename_i buffer others queue
      dsimp only at run
      split at run
      · rename_i success
        apply induction _ run
        refine ⟨?_, ?_, holds.received, holds.quiet⟩
        · rw [handedData_provide, if_pos success, holds.data, queue, append_assoc]
          rfl
        · rw [handedControl_provide]
          exact holds.control
      · rename_i failed
        cases run
        exact holds.internalSend_failed buffer failed

/-! ### Control messages -/

section

variable (channel : Channel) (buffer : Bytes) (result : SendDataResult)

theorem handedData_provideControl :
    handedData (channel.provide channel.controlParams buffer result).calls =
      handedData channel.calls := by
  change handedData (channel.calls ++ [_]) = _
  rw [handedData_append, if_neg fun taken => taken.2 rfl, append_nil]

theorem handedControl_provideControl :
    handedControl (channel.provide channel.controlParams buffer result).calls =
      handedControl channel.calls ++ if result = .success then [buffer] else [] := by
  change handedControl (channel.calls ++ [_]) = _
  rw [handedControl_append]
  cases result <;> rfl

theorem sendControl_open (sctp : channel.dataChannelType = .sctp) (isOpen : channel.state = .open) :
    (channel.sendControl buffer result).2 = if result = .block then
        (channel.provide channel.controlParams buffer result).queueControl buffer
      else channel.provide channel.controlParams buffer result := by
  rw [Channel.sendControl, sctp, isOpen]
  cases result <;> rfl

end

theorem Holds.sendControl_popped (holds : Holds sent controls received channel)
    {buffer : Bytes} {others : List Bytes} {result : SendDataResult}
    (queue : channel.queuedControlData = buffer :: others)
    (sctp : channel.dataChannelType = .sctp) (isOpen : channel.state = .open)
    (inOrder : result = .block → others = []) :
    Holds sent controls received
      ({ channel with queuedControlData := others }.sendControl buffer result).2 := by
  rcases holds.control with ⟨settled, known, taken⟩
  rw [queue] at known
  rw [sendControl_open { channel with queuedControlData := others } buffer result sctp isOpen]
  have noRtp {property : Prop} (rtp : channel.dataChannelType = .rtp) : property := by
    rw [sctp] at rtp
    cases rtp
  split
  · rename_i blocked
    refine ⟨?_, ⟨settled, ?_, ?_⟩, holds.received, noRtp⟩
    · rw [queueControl, handedData_provideControl]
      exact holds.data
    · change controls = settled ++ (others ++ [buffer])
      rw [known, inOrder blocked]
      rfl
    · rw [queueControl, handedControl_provideControl, if_neg (by rw [blocked]; decide), append_nil]
      exact taken
  · refine ⟨?_, ⟨settled ++ [buffer], ?_, ?_⟩, holds.received, noRtp⟩
    · rw [handedData_provideControl]
      exact holds.data
    · rw [known, append_assoc]
      rfl
    · rw [handedControl_provideControl]
      apply taken.append
      split
      · exact .refl _
      · exact nil_sublist _

theorem Holds.sendControl (holds : Holds sent controls received channel) (buffer : Bytes)
    (result : SendDataResult)
    (empty : channel.dataChannelType = .sctp → channel.state = .open →
      channel.queuedControlData = []) :
    Holds sent
      (if channel.takesControl result then controls ++ [buffer] else controls) received
      (channel.sendControl buffer result).2 := by
  rw [takesControl]
  cases type : channel.dataChannelType with
  | rtp =>
    rw [Channel.sendControl, if_pos type, if_neg (by simp)]
    exact holds
  | sctp =>
    have noRtp {property : Prop} (rtp : channel.dataChannelType = .rtp) : property := by
      rw [type] at rtp
      cases rtp
    by_cases isOpen : channel.state = .open
    · have queue := empty type isOpen
      rcases holds.control with ⟨settled, known, taken⟩
      rw [queue, append_nil] at known
      subst known
      rw [sendControl_open channel buffer result type isOpen]
      have data : sent = handedData (channel.provide channel.controlParams buffer result).calls ++
          channel.queuedSendData := by
        rw [handedData_provideControl]
        exact holds.data
      have handed := handedControl_provideControl channel buffer result
      cases result with
      | success =>
        rw [if_pos (by simp), if_neg (by decide)]
        refine ⟨data, ⟨controls ++ [buffer], ?_, ?_⟩, holds.received, noRtp⟩
        · change controls ++ [buffer] = controls ++ [buffer] ++ channel.queuedControlData
          rw [queue, append_nil]
        · rw [handed]
          exact taken.append (.refl _)
      | error =>
        rw [if_neg (by simp [isOpen]), if_neg (by decide)]
        refine ⟨data, ⟨controls, ?_, ?_⟩, holds.received, noRtp⟩
        · change controls = controls ++ channel.queuedControlData
          rw [queue, append_nil]
        · rw [handed]
          exact (append_nil _).symm ▸ taken
      | block =>
        rw [if_pos (by simp), if_pos rfl]
        refine ⟨data, ⟨controls, ?_, ?_⟩, holds.received, noRtp⟩
        · change controls ++ [buffer] = controls ++ (channel.queuedControlData ++ [buffer])
          rw [queue, nil_append]
        · rw [queueControl, handed]
          exact (append_nil _).symm ▸ taken
    · rw [if_pos (by simp [isOpen]), Channel.sendControl, if_neg (by rw [type]; decide),
        if_pos isOpen]
      rcases holds.control with ⟨settled, known, taken⟩
      refine ⟨holds.data, ⟨settled, ?_, taken⟩, holds.received, noRtp⟩
      rw [known, queueControl, append_assoc]

theorem deliverControlData_stuck {results : List SendDataResult} :
    ∀ {channel : Channel}, channel.dataChannelType = .sctp → channel.state ≠ .open →
      channel.queuedControlData ≠ [] → deliverControlData results channel = none := by
  induction results with
  | nil =>
    intro channel _ _ filled
    rw [deliverControlData, if_neg filled]
  | cons result results induction =>
    intro channel sctp shut filled
    rw [deliverControlData]
    split
    · rename_i empty
      exact absurd empty filled
    · rw [Channel.sendControl, if_neg (by rw [sctp]; decide), if_pos shut]
      exact induction sctp shut (append_ne_nil_of_right_ne_nil _ (cons_ne_nil _ _))

theorem Holds.deliverControlData {results : List SendDataResult} :
    ∀ {channel left after}, Holds sent controls received channel →
      Conversation.BlocksLastOnly results channel.queuedControlData.length →
      Channel.deliverControlData results channel = some (left, after) →
      Holds sent controls received after := by
  induction results with
  | nil =>
    intro channel left after holds _ run
    rw [Channel.deliverControlData] at run
    split at run
    · cases run
      exact holds
    · cases run
  | cons result results induction =>
    intro channel left after holds inOrder run
    cases queue : channel.queuedControlData with
    | nil =>
      rw [Channel.deliverControlData, queue] at run
      cases run
      exact holds
    | cons buffer others =>
      have filled : channel.queuedControlData ≠ [] := by
        rw [queue]
        exact cons_ne_nil buffer others
      have sctp : channel.dataChannelType = .sctp := by
        cases type : channel.dataChannelType with
        | rtp => exact absurd (holds.quiet type) filled
        | sctp => rfl
      by_cases isOpen : channel.state = .open
      swap
      · rw [deliverControlData_stuck sctp isOpen filled] at run
        cases run
      rw [Channel.deliverControlData, queue] at run
      rw [queue, length_cons] at inOrder
      have next :=
        sendControl_open { channel with queuedControlData := others } buffer result sctp isOpen
      refine induction (holds.sendControl_popped queue sctp isOpen ?_) ?_ run
      · rintro rfl
        exact eq_nil_of_length_eq_zero inOrder.1
      · rw [next]
        cases result with
        | success => exact inOrder
        | error => exact inOrder
        | block =>
          have last := eq_nil_of_length_eq_zero inOrder.1
          rw [if_pos rfl, last]
          exact inOrder.2

theorem Holds.deliverQueuedControlData {results left : List SendDataResult} {after : Channel}
    (holds : Holds sent controls received channel)
    (inOrder : Conversation.BlocksLastOnly results channel.queuedControlData.length)
    (run : channel.deliverQueuedControlData results = some (left, after)) :
    Holds sent controls received after := by
  rw [Channel.deliverQueuedControlData] at run
  split at run
  · exact holds.deliverControlData inOrder run
  · cases run
    exact holds

theorem Holds.onChannelReady {writable connects : Bool} {results : List SendDataResult}
    {after : Channel} (holds : Holds sent controls received channel)
    (inOrder : writable = true → channel.wasEverWritable = false ∨ channel.state = .open →
      Conversation.BlocksLastOnly results channel.queuedControlData.length)
    (run : channel.onChannelReady writable connects results = some after) :
    Holds sent controls received after := by
  rw [Channel.onChannelReady] at run
  split at run
  · cases run
    exact holds
  rename_i isWritable
  rw [Bool.not_eq_false] at isWritable
  split at run
  · rename_i first
    simp only [bind_eq_bind, bind_eq_some_iff] at run
    rcases run with ⟨⟨left, delivered⟩, delivery, result⟩
    cases result
    have same : SameTraffic channel
        ({ channel with wasEverWritable := true }.updateState connects) :=
      updateState_sameTraffic connects ⟨rfl, rfl, rfl, rfl, rfl⟩
    apply (holds.of_sameTraffic same).deliverQueuedControlData _ delivery
    rw [same.queuedControlData]
    exact inOrder isWritable (.inl first)
  split at run
  · rename_i isOpen
    simp only [deliverQueuedSendData, bind_eq_bind, bind_eq_some_iff] at run
    rcases run with ⟨⟨left, delivered⟩, delivery, result⟩
    have between := holds.deliverQueuedControlData (inOrder isWritable (.inr isOpen)) delivery
    split at result
    · exact between.deliverSendData result
    · cases result
      exact between
  · cases run
    exact holds

theorem Holds.onDataReceived (holds : Holds sent controls received channel) {ssrc : UInt32}
    {type : DataMessageType} {payload : Bytes}
    (allowed : ssrc = channel.receiveSsrc →
      if channel.wasEverWritable && channel.hasObserver then channel.queuedReceivedData = []
      else channel.queuedReceivedData.length ≤ kMaxQueuedReceivedDataPackets) :
    Holds sent controls
      (if ssrc = channel.receiveSsrc then received ++ [⟨payload, type = .binary⟩] else received)
      (channel.onDataReceived ssrc type payload) := by
  rw [Channel.onDataReceived]
  by_cases own : ssrc = channel.receiveSsrc
  swap
  · rw [if_neg own, if_pos own]
    exact holds
  have room := allowed own
  rw [if_pos own, if_neg (not_not.mpr own)]
  dsimp only
  split
  · rename_i direct
    rw [if_pos direct] at room
    refine ⟨holds.data, holds.control, ?_, holds.quiet⟩
    rw [holds.received, room, append_nil, append_nil]
  · rename_i queued
    rw [if_neg queued] at room
    refine ⟨holds.data, holds.control, ?_, holds.quiet⟩
    rw [queueReceivedData]
    dsimp only
    rw [if_neg (Nat.not_lt.mpr room), holds.received, append_assoc]

end Holds

/-! ## Every run -/

namespace Conversation

variable {conversation next : Conversation}

/-- What holds of a conversation between its events. -/
def Kept (conversation : Conversation) : Prop :=
  Holds conversation.sent conversation.controls conversation.received conversation.channel

section

variable (dataChannelType : DataChannelType) (config : DataChannelInit)

theorem init_kept : (init dataChannelType config).Kept where
  data := rfl
  control := ⟨[], rfl, .refl _⟩
  received := rfl
  quiet _ := rfl

theorem step_kept (operation : Operation) (kept : conversation.Kept)
    (allowed : conversation.Allowed operation)
    (stepped : conversation.step operation = some next) : next.Kept := by
  cases operation with
  | send buffer result =>
    cases stepped
    exact Holds.send kept buffer result
  | sendControl buffer result =>
    cases stepped
    exact Holds.sendControl kept buffer result allowed
  | setSendSsrc sendSsrc connects =>
    cases stepped
    exact Holds.of_sameTraffic kept (setSendSsrc_sameTraffic sendSsrc connects _)
  | setReceiveSsrc receiveSsrc connects =>
    cases stepped
    exact Holds.of_sameTraffic kept (setReceiveSsrc_sameTraffic receiveSsrc connects _)
  | onChannelReady writable connects results =>
    simp only [step, bind_eq_bind, bind_eq_some_iff] at stepped
    rcases stepped with ⟨after, run, result⟩
    cases result
    exact Holds.onChannelReady kept allowed run
  | onDataReceived ssrc type payload =>
    cases stepped
    exact Holds.onDataReceived kept allowed
  | registerObserver =>
    cases stepped
    exact Holds.of_sameTraffic kept (registerObserver_sameTraffic _)
  | unregisterObserver =>
    cases stepped
    exact Holds.of_sameTraffic kept ⟨rfl, rfl, rfl, rfl, rfl⟩
  | close connects =>
    cases stepped
    exact Holds.of_sameTraffic kept (close_sameTraffic connects _)
  | doClose connects =>
    cases stepped
    exact Holds.of_sameTraffic kept (doClose_sameTraffic connects _)

theorem ordered_of_kept (kept : conversation.Kept) : conversation.Ordered where
  data := ⟨_, (Holds.data kept).symm⟩
  control := by
    rcases Holds.control kept with ⟨settled, known, taken⟩
    rw [known]
    exact taken.trans (sublist_append_left settled _)
  messages := ⟨_, (Holds.received kept).symm⟩

/-- The messages are in order in all states of a run. -/
def OrderedThroughout (operations : List Operation) : Prop :=
  ∀ count last, Run.reached step (init dataChannelType config) (operations.take count) = some last →
      last.Ordered

theorem orderedThroughout_of_permitted (operations : List Operation)
    (allowed : Run.Permitted step Allowed (init dataChannelType config) operations) :
    OrderedThroughout dataChannelType config operations := by
  intro count last run
  apply ordered_of_kept
  have preserved : ∀ conversation operation next, Kept conversation →
      conversation.Allowed operation → conversation.step operation = some next → next.Kept :=
    fun _ operation _ kept allowed stepped => step_kept operation kept allowed stepped
  exact Run.invariant_of_reached step preserved (init_kept dataChannelType config)
    (Run.permitted_take step allowed count) run

end

/-- A control message and a message that arrives wait until the channel is open and observed. -/
theorem orderedThroughout_of_permitted_opening :
    OrderedThroughout .sctp {}
      [.sendControl [7] .success, .onDataReceived 0 .text [1], .registerObserver,
        .onChannelReady true true [.block, .success], .send ⟨[2], true⟩ .block,
        .send ⟨[3], false⟩ .success, .onChannelReady true true [.success, .error]] :=
  orderedThroughout_of_permitted .sctp {} _ (by decide)

/-- A control message overtakes one that the provider blocked. -/
theorem not_orderedThroughout_blockedControl :
    ¬ OrderedThroughout .sctp {}
      [.onChannelReady true true [], .sendControl [1] .block, .sendControl [2] .success,
        .onChannelReady true true [.success]] := by
  intro ordered
  exact absurd (ordered 4 _ rfl).control (by decide)

end Conversation

end ZyWebRtc.DataChannel
