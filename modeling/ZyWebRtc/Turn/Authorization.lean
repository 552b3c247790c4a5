import ZyWebRtc.Turn.Steps

namespace ZyWebRtc.Turn

/-! Who can change the allocations of a TURN server, and to whom it answers.

A nonce counts as issued at a time when it is what the server generates at that time; a
function of the key and the time cannot tell a forged HMAC from one that was sent. -/

open List Stun

namespace TurnServer

variable (settings : Settings)

def keyOf (username : Bytes) : Option Bytes :=
  settings.authHook.bind fun authHook => authHook username settings.realm

/-- The event is a request of a user, with an integrity that is valid under the key of the user
and a nonce that was issued recently. -/
def AuthorizedRequest (server : TurnServer) (event : Event) (username : Bytes) : Prop :=
  ∃ packet msg key nonce, event = .internalPacket packet ∧
    StunMessage.read .turnMessage packet.data = some (msg, []) ∧ isStunRequestType msg.type ∧
    msg.getByteString STUN_ATTR_USERNAME = some username ∧ keyOf settings username = some key ∧
    validateMessageIntegrity settings.hmac packet.data packet.beyond key = some true ∧
    msg.getByteString STUN_ATTR_NONCE = some nonce ∧
    IssuedRecently settings.hmacMd5 settings.nonceKey server.now nonce

/-- Nothing is added to an allocation and nothing of it is refreshed. -/
structure Within (before after : Allocation) : Prop where
  sameId : after.id = before.id
  sameUser : after.username = before.username
  timers : after.timers ⊆ before.timers
  perms : after.perms ⊆ before.perms
  channels : after.channels ⊆ before.channels

/-- An allocation after a step is one of before to which nothing is added, one of before that
its own user has changed, or a new one of a user who asked for it. -/
def Justified (server : TurnServer) (event : Event) (allocation : Allocation) : Prop :=
  (∃ before ∈ server.allocations, Within before allocation) ∨
  (∃ before ∈ server.allocations, allocation.id = before.id ∧
    allocation.username = before.username ∧
      AuthorizedRequest settings server event before.username) ∨
  (server.nextAllocation ≤ allocation.id ∧
    AuthorizedRequest settings server event allocation.username)

/-- The step changes allocations for authorized requests only, and answers to requests only. -/
structure StepAuthorized (server : TurnServer) (event : Event) : Prop where
  changes : ∀ result, server.step settings event = some result →
    ∀ allocation ∈ result.1.allocations, Justified settings server event allocation
  answers : ∀ result packet, server.step settings event = some result →
    event = .internalPacket packet → ∀ socket destination message,
      .stun socket destination message ∈ result.2 →
        ∃ msg, StunMessage.read .turnMessage packet.data = some (msg, []) ∧
          isStunRequestType msg.type

/-- A message that is no request comes for an allocation, and the nonce of a request, when its
HMAC is right, carries a current time stamp in the server's spelling. -/
def Ordinary (server : TurnServer) : Event → Prop
  | .internalPacket packet =>
    ∀ msg, StunMessage.read .turnMessage packet.data = some (msg, []) →
      (isStunRequestType msg.type = false → packet.found ≠ none) ∧
      ∀ nonce, msg.getByteString STUN_ATTR_NONCE = some nonce →
        Genuine settings.hmacMd5 settings.nonceKey nonce → CurrentStamp server.now nonce
  | _ => True

/-- Every allocation has the key of its user. -/
def Keyed (server : TurnServer) : Prop :=
  ∀ allocation ∈ server.allocations, keyOf settings allocation.username = some allocation.key

variable {settings} {server : TurnServer}

variable {msg : StunMessage}

theorem handleTurnMessage_username {allocation : Allocation} {now : Nat}
    (owner : msg.getByteString STUN_ATTR_USERNAME = some allocation.username) :
    (allocation.handleTurnMessage settings now msg).1.username = allocation.username := by
  unfold Allocation.handleTurnMessage
  split
  · simp [Allocation.handleAllocateRequest, owner]
  split
  · rfl
  split
  · rfl
  split
  · unfold Allocation.handleCreatePermissionRequest
    split <;> rfl
  split
  · unfold Allocation.handleChannelBindRequest
    split
    · simp only
      split <;> rfl
    · rfl
  · rfl

theorem create_username {id : Nat} {conn : Connection} {key username : Bytes}
    {externalAddress : SocketAddress} {now : Nat}
    (isAllocate : msg.type = STUN_ALLOCATE_REQUEST)
    (owner : msg.getByteString STUN_ATTR_USERNAME = some username) :
    ((Allocation.create id conn key externalAddress).handleTurnMessage settings now
      msg).1.username = username := by
  simp [Allocation.handleTurnMessage, isAllocate, Allocation.handleAllocateRequest, owner]

theorem keyOf_getKey {username : Bytes}
    (owner : msg.getByteString STUN_ATTR_USERNAME = some username)
    (hasKey : getKey settings msg ≠ []) :
    keyOf settings username = some (getKey settings msg) := by
  unfold getKey keyOf at *
  rw [owner] at *
  cases hook : settings.authHook with
  | none => simp [hook] at hasKey
  | some authHook =>
    simp only [hook, Option.bind_some] at *
    cases answer : authHook username settings.realm with
    | none => simp [answer] at hasKey
    | some key => rfl

/-! ## Packets -/

theorem Accepted.authorized {packet : InternalPacket} {key nonce username : Bytes}
    (accepted : Accepted settings server packet key msg nonce)
    (ordinary : Ordinary settings server (.internalPacket packet))
    (owner : msg.getByteString STUN_ATTR_USERNAME = some username)
    (keyed : keyOf settings username = some key) :
    AuthorizedRequest settings server (.internalPacket packet) username := by
  have current := (ordinary msg accepted.read).2 nonce accepted.hasNonce
    (genuine_of_validateNonce accepted.validNonce)
  exact ⟨packet, msg, key, nonce, rfl, accepted.read, accepted.isRequest, owner, keyed,
    accepted.integrity, accepted.hasNonce,
    issuedRecently_of_validateNonce accepted.validNonce current⟩

theorem justified_self {event : Event} {allocation : Allocation}
    (live : allocation ∈ server.allocations) : Justified settings server event allocation :=
  .inl ⟨allocation, live, rfl, rfl, List.Subset.refl _, List.Subset.refl _, List.Subset.refl _⟩

section

variable {conn : Connection} {packet : InternalPacket} {after : TurnServer} {outputs : List Output}
  (effect : PacketEffect settings server conn packet after outputs)

include effect

theorem PacketEffect.keyed (keyed : Keyed settings server) : Keyed settings after := by
  have updated {original changed : Allocation} (live : original ∈ server.allocations)
      (sameKey : changed.key = original.key) (sameUser : changed.username = original.username) :
      Keyed settings (server.update changed) := by
    intro other member
    rcases mem_update member with rfl | member
    · rw [sameKey, sameUser]
      exact keyed original live
    · exact keyed other member
  cases effect with
  | ignored | channelData | response | mismatch => exact keyed
  | indication msg allocation read notRequest found =>
    exact updated (findAllocation_mem found) rfl rfl
  | refused msg message allocation nonce found => exact updated (findAllocation_mem found) rfl rfl
  | changed msg allocation nonce found accepted owner =>
    exact updated (findAllocation_mem found) (Allocation.handleTurnMessage_frame ..).2.2
      (handleTurnMessage_username owner)
  | created msg nonce externalAddress accepted isAllocate =>
    rcases accepted.hasUsername with ⟨username, owner⟩
    intro other member
    rcases mem_append.mp member with member | member
    · exact keyed other member
    · rw [mem_singleton.mp member, create_username isAllocate owner,
        (Allocation.handleTurnMessage_frame ..).2.2]
      exact keyOf_getKey owner accepted.hasKey

theorem PacketEffect.justified (keyed : Keyed settings server)
    (ordinary : Ordinary settings server (.internalPacket packet)) :
    ∀ allocation ∈ after.allocations,
      Justified settings server (.internalPacket packet) allocation := by
  cases effect with
  | ignored | channelData | response | mismatch => exact fun allocation => justified_self
  | indication msg allocation read notRequest found =>
    intro other member
    rcases mem_update member with rfl | member
    · exact justified_self (findAllocation_mem found)
    · exact justified_self member
  | refused msg message allocation nonce found =>
    intro other member
    rcases mem_update member with rfl | member
    · exact .inl ⟨allocation, findAllocation_mem found, rfl, rfl, List.Subset.refl _,
        List.Subset.refl _, List.Subset.refl _⟩
    · exact justified_self member
  | changed msg allocation nonce found accepted owner =>
    intro other member
    have live := findAllocation_mem found
    rcases mem_update member with rfl | member
    · exact .inr (.inl ⟨allocation, live, (Allocation.handleTurnMessage_frame ..).1,
        handleTurnMessage_username owner,
        Accepted.authorized accepted ordinary owner (keyed allocation live)⟩)
    · exact justified_self member
  | created msg nonce externalAddress accepted isAllocate =>
    rcases accepted.hasUsername with ⟨username, owner⟩
    have isNew := ((Allocation.create server.nextAllocation conn (getKey settings msg)
      externalAddress).handleTurnMessage_frame settings server.now msg).1
    intro other member
    rcases mem_append.mp member with member | member
    · exact justified_self member
    · rw [mem_singleton.mp member]
      refine .inr (.inr ⟨isNew.ge, ?_⟩)
      rw [create_username isAllocate owner]
      exact Accepted.authorized accepted ordinary owner (keyOf_getKey owner accepted.hasKey)

theorem PacketEffect.answers (ordinary : Ordinary settings server (.internalPacket packet)) {socket : Nat}
    {destination : SocketAddress} {message : StunMessage}
    (sent : .stun socket destination message ∈ outputs) :
    ∃ msg, StunMessage.read .turnMessage packet.data = some (msg, []) ∧
      isStunRequestType msg.type := by
  cases effect with
  | ignored => cases sent
  | channelData allocation msgType found =>
    unfold Allocation.handleChannelData at sent
    split at sent
    · cases sent
    · cases mem_singleton.mp sent
  | response msg message read isRequest => exact ⟨msg, read, isRequest⟩
  | mismatch msg read notRequest notFound =>
    exact absurd notFound ((ordinary msg read).1 notRequest)
  | indication msg allocation read notRequest found =>
    split at sent
    · unfold Allocation.handleSendIndication at sent
      split at sent
      · split at sent
        · cases mem_singleton.mp sent
        · cases sent
      · cases sent
    · cases sent
  | refused msg message allocation nonce found accepted =>
    exact ⟨msg, accepted.read, accepted.isRequest⟩
  | changed msg allocation nonce found accepted => exact ⟨msg, accepted.read, accepted.isRequest⟩
  | created msg nonce externalAddress accepted =>
    exact ⟨msg, accepted.read, accepted.isRequest⟩

end

/-! ## Steps and runs -/

theorem StepEffect.justified {event : Event} {after : TurnServer} {outputs : List Output}
    (effect : StepEffect settings server event after outputs) (keyed : Keyed settings server)
    (ordinary : Ordinary settings server event) :
    ∀ allocation ∈ after.allocations, Justified settings server event allocation := by
  cases effect with
  | tick | accept | close | externalPacket => exact fun allocation live => justified_self live
  | internalPacket packet socket after outputs present effect =>
    exact PacketEffect.justified effect keyed ordinary
  | allocationTimeout id ended socket found present =>
    exact fun allocation member => justified_self (mem_of_mem_filter member)
  | permissionTimeout id perm allocation live =>
    intro other member
    rcases mem_update member with rfl | member
    · exact .inl ⟨allocation, live, rfl, rfl, List.Subset.refl _, erase_subset, List.Subset.refl _⟩
    · exact justified_self member
  | channelTimeout id channel allocation live =>
    intro other member
    rcases mem_update member with rfl | member
    · exact .inl ⟨allocation, live, rfl, rfl, List.Subset.refl _, List.Subset.refl _, erase_subset⟩
    · exact justified_self member

theorem StepEffect.keyed {event : Event} {after : TurnServer} {outputs : List Output}
    (effect : StepEffect settings server event after outputs) (keyed : Keyed settings server) :
    Keyed settings after := by
  cases effect with
  | tick | accept | close | externalPacket => exact keyed
  | internalPacket packet socket after outputs present effect =>
    exact PacketEffect.keyed effect keyed
  | allocationTimeout id ended socket found present =>
    exact fun allocation member => keyed allocation (mem_of_mem_filter member)
  | permissionTimeout id perm allocation live =>
    intro other member
    rcases mem_update member with rfl | member
    · exact keyed allocation live
    · exact keyed other member
  | channelTimeout id channel allocation live =>
    intro other member
    rcases mem_update member with rfl | member
    · exact keyed allocation live
    · exact keyed other member

/-- In every run of ordinary events each step changes allocations for authorized requests only
and answers to requests only. -/
theorem stepAuthorized_of_ordinary (serverSockets : List InternalSocket) {events : List Event}
    (ordinary : Run.Permitted (next settings) (Ordinary settings) (initial serverSockets) events) :
    Run.Permitted (next settings) (StepAuthorized settings) (initial serverSockets) events := by
  have start : Keyed settings (initial serverSockets) :=
    fun allocation live => absurd live not_mem_nil
  apply Run.permitted_of_invariant (next settings) _ _ start ordinary
  · intro server event after keyed _ stepped
    rcases Option.map_eq_some_iff.mp stepped with ⟨⟨_, outputs⟩, taken, rfl⟩
    exact StepEffect.keyed (step_effect taken) keyed
  · intro server event keyed ordinary
    refine ⟨fun result taken => StepEffect.justified (step_effect taken) keyed ordinary, ?_⟩
    rintro ⟨after, outputs⟩ packet taken rfl socket destination message sent
    rcases onInternalPacket_effect taken with ⟨origin, present, effect⟩
    exact PacketEffect.answers effect ordinary sent

theorem read_allocateRequest
    (read : StunMessage.read .turnMessage (allocateRequest (smallNonce 0)) = some (msg, [])) :
    isStunRequestType msg.type ∧ msg.getByteString STUN_ATTR_NONCE = some (smallNonce 0) := by
  have checked : ((StunMessage.read .turnMessage (allocateRequest (smallNonce 0))).all
      fun result => isStunRequestType result.1.type &&
        result.1.getByteString STUN_ATTR_NONCE == some (smallNonce 0)) = true := by
    decide +kernel
  rw [read] at checked
  simpa using checked

theorem stepAuthorized_of_ordinary_connected :
    Run.Permitted (next smallServer) (StepAuthorized smallServer) (initial []) connected := by
  apply stepAuthorized_of_ordinary
  refine ⟨trivial, fun after stepped => ⟨fun msg read => ?_, fun _ _ => trivial⟩⟩
  have clock : after.now = 0 := by
    rcases Option.map_eq_some_iff.mp stepped with ⟨_, taken, rfl⟩
    cases taken
    rfl
  rcases read_allocateRequest read with ⟨isRequest, hasNonce⟩
  refine ⟨fun notRequest => ?_, fun nonce isNonce _ => ?_⟩
  · rw [isRequest] at notRequest
    cases notRequest
  · rw [hasNonce] at isNonce
    cases isNonce
    exact ⟨0, by omega, by omega, by decide +kernel⟩

/-- An Allocate request without credentials, which is answered with a nonce. -/
def bareRequest : Bytes :=
  (StunMessage.new .turnMessage STUN_ALLOCATE_REQUEST (List.replicate 12 1)).write.getD []

/-- A client asks for a nonce, and 2^31 milliseconds pass. -/
def waited : List Event :=
  [.accept 1 7 clientAddress,
    .internalPacket ⟨7, bareRequest, [], clientAddress, none, none⟩, .tick (2 ^ 31)]

/-- Then it asks for an allocation with the nonce. -/
def replayed : Event :=
  .internalPacket ⟨7, allocateRequest (smallNonce 0), [], clientAddress, none, some relayAddress⟩

/-- The nonce is accepted and an allocation is created. -/
theorem not_stepAuthorized_replayed :
    ∃ last, Run.reached (next smallServer) (initial []) waited = some last ∧
      ¬ StepAuthorized smallServer last replayed := by
  let waiting : TurnServer := ⟨2 ^ 31, [⟨7, .tcp, clientAddress, true⟩], [], 0⟩
  refine ⟨waiting, by decide +kernel, fun authorized => ?_⟩
  have created : ((waiting.step smallServer replayed).map fun result =>
      result.1.allocations.length) = some 1 := by decide +kernel
  rcases Option.map_eq_some_iff.mp created with ⟨result, taken, count⟩
  rcases length_eq_one_iff.mp count with ⟨allocation, only⟩
  have justified := authorized.changes result taken allocation (by simp [only])
  have request : ∃ username, AuthorizedRequest smallServer waiting replayed username := by
    rcases justified with ⟨_, member, _⟩ | ⟨_, member, _⟩ | ⟨_, request⟩
    · cases member
    · cases member
    · exact ⟨_, request⟩
  rcases request with ⟨username, packet, msg, key, nonce, same, read, _, _, _, _, isNonce, issued⟩
  cases same
  rw [(read_allocateRequest read).2] at isNonce
  cases isNonce
  rcases issued with ⟨time, past, recent, generated⟩
  have stamps := congrArg UInt32.toNat (time32_eq_of_generateNonce_eq generated)
  simp only [time32, UInt32.toNat_ofNat'] at stamps
  simp only [waiting, kNonceTimeout] at past recent
  omega

end TurnServer

end ZyWebRtc.Turn
