import ZyWebRtc.Foundation.Run
import ZyWebRtc.Ice.RoleConflict

namespace ZyWebRtc.Ice

/-! Two sessions that check each other's ports, and the roles that they end up with.

A session gives one role to its transports, which hand it down to their channels and ports. A
port that finds a conflict has a message posted to the signaling thread; there the session
switches its transports, one after the other. Messages stay in flight after they are
delivered, so that they are lost, delayed, reordered and duplicated in every way. -/

open List Option Stun

/-! ## Sessions -/

structure RoleChannel where
  iceRole : IceRole
  tiebreaker : UInt64
  ports : List RolePort
  deriving DecidableEq, Repr

structure RoleTransport where
  iceRole : IceRole
  tiebreaker : UInt64
  channels : List RoleChannel
  deriving DecidableEq, Repr

namespace RoleChannel

def setIceRole (channel : RoleChannel) (role : IceRole) : RoleChannel :=
  if channel.iceRole ≠ role then
    { channel with
      iceRole := role
      ports := channel.ports.map fun port => { port with iceRole := role } }
  else channel

def onPortReady (channel : RoleChannel) (usernameFragment : Bytes) : RoleChannel :=
  { channel with
    ports := channel.ports ++ [⟨channel.iceRole, channel.tiebreaker, usernameFragment⟩] }

end RoleChannel

namespace RoleTransport

def setIceRole (transport : RoleTransport) (role : IceRole) : RoleTransport :=
  { transport with iceRole := role, channels := transport.channels.map (·.setIceRole role) }

def createChannel (transport : RoleTransport) : RoleTransport :=
  { transport with
    channels := transport.channels ++ [⟨transport.iceRole, transport.tiebreaker, []⟩] }

end RoleTransport

/-- A request in flight. It is settled when its sender had finished a role switch. -/
structure SentRequest where
  msg : StunMessage
  settled : Bool
  deriving DecidableEq, Repr

/-- A session with the messages that are on their way to it. A conflict that is posted, and
the one for which the transports are being switched, keep the request that raised them. The
number of switches and the processed requests are history. -/
structure Peer where
  initiator : Bool
  iceTiebreaker : UInt64
  roleSwitch : Bool
  transports : List RoleTransport
  posted : List (Option SentRequest)
  switching : Option (Nat × Option SentRequest)
  requests : List SentRequest
  responses : List StunMessage
  switches : Nat
  processed : List SentRequest
  deriving DecidableEq, Repr

def initialRole (initiator : Bool) : IceRole := if initiator then .controlling else .controlled

def Peer.create (initiator : Bool) (iceTiebreaker : UInt64) (transports : Nat) : Peer :=
  { initiator, iceTiebreaker, roleSwitch := false,
    transports := List.replicate transports ⟨initialRole initiator, iceTiebreaker, []⟩,
    posted := [], switching := none, requests := [], responses := [], switches := 0,
    processed := [] }

/-- Where a port is: its transport, its channel, and its position there. -/
structure PortPlace where
  transport : Nat
  channel : Nat
  port : Nat
  deriving DecidableEq, Repr

inductive RoleEvent where
  | createChannel (transport : Nat)
  | portReady (transport channel : Nat) (usernameFragment : Bytes)
  | ping (place : PortPlace) (ping : Ping)
  | request (number : Nat) (place : PortPlace) (remoteUfrag : Bytes)
  | response (number : Nat)
  | onRoleConflict
  | setIceRole

namespace Peer

def port (peer : Peer) (place : PortPlace) : Option RolePort := do
  let transport ← peer.transports[place.transport]?
  let channel ← transport.channels[place.channel]?
  channel.ports[place.port]?

def successResponse (request : StunMessage) : StunMessage :=
  StunMessage.new .iceMessage STUN_BINDING_RESPONSE request.transactionId

def markProcessed (peer : Peer) (request : Option SentRequest) : Peer :=
  { peer with processed := request.toList ++ peer.processed }

/-- The session after an event, and the requests and responses that it sends. -/
def step (peer : Peer) : RoleEvent → Option (Peer × List SentRequest × List StunMessage)
  | .createChannel number =>
    some ({ peer with
      transports := peer.transports.modify number RoleTransport.createChannel }, [], [])
  | .portReady number channel usernameFragment =>
    some ({ peer with
      transports := peer.transports.modify number fun transport => { transport with
          channels := transport.channels.modify channel (·.onPortReady usernameFragment) } },
      [], [])
  | .ping place ping => do
    let port ← peer.port place
    let settled := peer.roleSwitch && peer.switching.isNone
    pure (peer, [⟨port.prepare ping, settled⟩], [])
  | .request number place remoteUfrag => do
    let request ← peer.requests[number]?
    let port ← peer.port place
    match port.maybeIceRoleConflict request.msg remoteUfrag with
    | .proceed => pure (peer.markProcessed request, [], [successResponse request.msg])
    | .signal => pure ({ peer with posted := peer.posted ++ [some request] }, [],
        [successResponse request.msg])
    | .reject => pure (peer.markProcessed request, [], [conflictResponse request.msg])
  | .response number => do
    let response ← peer.responses[number]?
    if isConflictResponse response then
      pure ({ peer with posted := peer.posted ++ [none] }, [], [])
    else pure (peer, [], [])
  | .onRoleConflict =>
    match peer.switching, peer.posted with
    | none, request :: posted =>
      if peer.roleSwitch then
        some (markProcessed { peer with posted := posted } request, [], [])
      else
        some ({ peer with
          posted := posted
          roleSwitch := true
          switching := some (0, request)
          switches := peer.switches + 1 }, [], [])
    | _, _ => none
  | .setIceRole =>
    match peer.switching with
    | none => none
    | some (number, request) =>
      if number < peer.transports.length then
        some ({ peer with
          transports := peer.transports.modify number
            (·.setIceRole (initialRole (!peer.initiator)))
          switching := some (number + 1, request) }, [], [])
      else some (markProcessed { peer with switching := none } request, [], [])

def receive (peer : Peer) (requests : List SentRequest) (responses : List StunMessage) : Peer :=
  { peer with requests := peer.requests ++ requests, responses := peer.responses ++ responses }

end Peer

inductive Side where
  | first
  | second
  deriving DecidableEq, Repr

structure RoleSystem where
  first : Peer
  second : Peer
  deriving DecidableEq, Repr

namespace RoleSystem

def step (system : RoleSystem) (event : Side × RoleEvent) : Option RoleSystem :=
  match event.1 with
  | .first => do
    let (own, requests, responses) ← system.first.step event.2
    pure ⟨own, system.second.receive requests responses⟩
  | .second => do
    let (own, requests, responses) ← system.second.step event.2
    pure ⟨system.first.receive requests responses, own⟩

end RoleSystem

namespace Peer

/-- All ports of the session have a role, and so have the channels and transports. -/
def Holds (peer : Peer) (role : IceRole) : Prop :=
  ∀ transport ∈ peer.transports, transport.iceRole = role ∧
    ∀ channel ∈ transport.channels, channel.iceRole = role ∧
      ∀ port ∈ channel.ports, port.iceRole = role

/-- The session has processed a request that the other one sent after its last switch. -/
def Heard (peer other : Peer) : Prop :=
  ∃ request ∈ peer.processed, other.roleSwitch = true → request.settled = true

instance (peer other : Peer) : Decidable (peer.Heard other) :=
  inferInstanceAs (Decidable (∃ request ∈ peer.processed,
    other.roleSwitch = true → request.settled = true))

end Peer

/-- Each session switches at most once, and when each has heard of the other, they hold
opposite roles; if they started with the same role, the one with the larger tiebreaker is
controlling. -/
structure RoleSystem.Agreement (system : RoleSystem) : Prop where
  firstSwitches : system.first.switches ≤ 1
  secondSwitches : system.second.switches ≤ 1
  opposite : system.first.Heard system.second → system.second.Heard system.first →
    ∃ role, role ≠ .unknown ∧ system.first.Holds role ∧ system.second.Holds role.reverse ∧
      (system.first.initiator = system.second.initiator →
        (role = .controlling ↔ system.second.iceTiebreaker < system.first.iceTiebreaker))

/-- A transport, its channels and its ports have one role and one tiebreaker. -/
def RoleTransport.Uniform (transport : RoleTransport) (role : IceRole) (tiebreaker : UInt64) :
    Prop :=
  transport.iceRole = role ∧ transport.tiebreaker = tiebreaker ∧
    ∀ channel ∈ transport.channels, channel.iceRole = role ∧ channel.tiebreaker = tiebreaker ∧
      ∀ port ∈ channel.ports, port.iceRole = role ∧ port.tiebreaker = tiebreaker

namespace RoleTransport

variable {transport : RoleTransport} {role : IceRole} {tiebreaker : UInt64}

theorem Uniform.createChannel (uniform : transport.Uniform role tiebreaker) :
    transport.createChannel.Uniform role tiebreaker := by
  refine ⟨uniform.1, uniform.2.1, fun channel member => ?_⟩
  rcases mem_append.mp member with member | member
  · exact uniform.2.2 channel member
  · rw [mem_singleton.mp member]
    exact ⟨uniform.1, uniform.2.1, fun port absent => absurd absent not_mem_nil⟩

theorem Uniform.onPortReady (uniform : transport.Uniform role tiebreaker) (number : Nat)
    (usernameFragment : Bytes) :
    Uniform { transport with
      channels := transport.channels.modify number (·.onPortReady usernameFragment) } role
      tiebreaker := by
  refine ⟨uniform.1, uniform.2.1, fun channel member => ?_⟩
  rcases mem_iff_getElem?.mp member with ⟨place, found⟩
  rw [List.getElem?_modify, Option.map_eq_map, map_eq_some_iff] at found
  rcases found with ⟨original, isOriginal, rfl⟩
  have before := uniform.2.2 original (mem_of_getElem? isOriginal)
  split
  · refine ⟨before.1, before.2.1, fun port isPort => ?_⟩
    rcases mem_append.mp isPort with isPort | isPort
    · exact before.2.2 port isPort
    · rw [mem_singleton.mp isPort]
      exact ⟨before.1, before.2.1⟩
  · exact before

theorem Uniform.setIceRole (uniform : transport.Uniform role tiebreaker) (next : IceRole) :
    (transport.setIceRole next).Uniform next tiebreaker := by
  refine ⟨rfl, uniform.2.1, fun channel member => ?_⟩
  rcases List.mem_map.mp member with ⟨original, isOriginal, rfl⟩
  have before := uniform.2.2 original isOriginal
  unfold RoleChannel.setIceRole
  split
  · refine ⟨rfl, before.2.1, fun port isPort => ?_⟩
    rcases List.mem_map.mp isPort with ⟨originalPort, isOriginalPort, rfl⟩
    exact ⟨rfl, (before.2.2 originalPort isOriginalPort).2⟩
  · rename_i unchanged
    have same : role = next := before.1.symm.trans (not_not.mp unchanged)
    rw [← same]
    exact before

end RoleTransport

/-! ## What one session does -/

namespace Peer

inductive Effect (peer : Peer) : Peer → List SentRequest → List StunMessage → Prop
  | transports (transports : List RoleTransport)
      (kept : ∀ (number : Nat) (transport : RoleTransport), transports[number]? = some transport →
          ∃ original : RoleTransport, peer.transports[number]? = some original ∧
            ∀ role tiebreaker, original.Uniform role tiebreaker →
              transport.Uniform role tiebreaker) :
      Effect peer { peer with transports := transports } [] []
  | ping (place : PortPlace) (port : RolePort) (ping : Ping) (found : peer.port place = some port) :
      Effect peer peer [⟨port.prepare ping, peer.roleSwitch && peer.switching.isNone⟩] []
  | proceed (request : SentRequest) (place : PortPlace) (port : RolePort) (remoteUfrag : Bytes)
      (received : request ∈ peer.requests) (found : peer.port place = some port)
      (verdict : port.maybeIceRoleConflict request.msg remoteUfrag = .proceed) :
      Effect peer (peer.markProcessed request) [] [successResponse request.msg]
  | signal (request : SentRequest) (place : PortPlace) (port : RolePort) (remoteUfrag : Bytes)
      (received : request ∈ peer.requests) (found : peer.port place = some port)
      (verdict : port.maybeIceRoleConflict request.msg remoteUfrag = .signal) :
      Effect peer { peer with posted := peer.posted ++ [some request] } []
        [successResponse request.msg]
  | reject (request : SentRequest) (place : PortPlace) (port : RolePort) (remoteUfrag : Bytes)
      (received : request ∈ peer.requests) (found : peer.port place = some port)
      (verdict : port.maybeIceRoleConflict request.msg remoteUfrag = .reject) :
      Effect peer (peer.markProcessed request) [] [conflictResponse request.msg]
  | conflict (response : StunMessage) (received : response ∈ peer.responses)
      (isConflict : isConflictResponse response) :
      Effect peer { peer with posted := peer.posted ++ [none] } [] []
  | otherResponse : Effect peer peer [] []
  | repeated (request : Option SentRequest) (posted : List (Option SentRequest))
      (isPosted : peer.posted = request :: posted) (switched : peer.roleSwitch = true) :
      Effect peer (markProcessed { peer with posted := posted } request) [] []
  | begin (request : Option SentRequest) (posted : List (Option SentRequest))
      (isPosted : peer.posted = request :: posted) (notSwitched : peer.roleSwitch = false) :
      Effect peer { peer with
        posted := posted
        roleSwitch := true
        switching := some (0, request)
        switches := peer.switches + 1 } [] []
  | advance (number : Nat) (request : Option SentRequest)
      (isSwitching : peer.switching = some (number, request)) :
      Effect peer { peer with
        transports := peer.transports.modify number
          (·.setIceRole (initialRole (!peer.initiator)))
        switching := some (number + 1, request) } [] []
  | finish (number : Nat) (request : Option SentRequest)
      (isSwitching : peer.switching = some (number, request))
      (all : peer.transports.length ≤ number) :
      Effect peer (markProcessed { peer with switching := none } request) [] []

theorem step_effect {peer own : Peer} {event : RoleEvent} {requests : List SentRequest}
    {responses : List StunMessage}
    (stepped : peer.step event = some (own, requests, responses)) :
    Effect peer own requests responses := by
  cases event with
  | createChannel number =>
    cases stepped
    apply Effect.transports
    intro place transport found
    rw [List.getElem?_modify, Option.map_eq_map, map_eq_some_iff] at found
    rcases found with ⟨original, isOriginal, rfl⟩
    refine ⟨original, isOriginal, fun role tiebreaker uniform => ?_⟩
    split
    · exact uniform.createChannel
    · exact uniform
  | portReady number channel usernameFragment =>
    cases stepped
    apply Effect.transports
    intro place transport found
    rw [List.getElem?_modify, Option.map_eq_map, map_eq_some_iff] at found
    rcases found with ⟨original, isOriginal, rfl⟩
    refine ⟨original, isOriginal, fun role tiebreaker uniform => ?_⟩
    split
    · exact uniform.onPortReady channel usernameFragment
    · exact uniform
  | ping place ping =>
    simp only [step, bind_eq_bind, bind_eq_some_iff] at stepped
    rcases stepped with ⟨port, found, stepped⟩
    cases stepped
    exact .ping place port ping found
  | request number place remoteUfrag =>
    simp only [step, bind_eq_bind, bind_eq_some_iff] at stepped
    rcases stepped with ⟨request, isRequest, port, found, stepped⟩
    have received := mem_of_getElem? isRequest
    split at stepped
    · rename_i verdict
      cases stepped
      exact .proceed request place port remoteUfrag received found verdict
    · rename_i verdict
      cases stepped
      exact .signal request place port remoteUfrag received found verdict
    · rename_i verdict
      cases stepped
      exact .reject request place port remoteUfrag received found verdict
  | response number =>
    simp only [step, bind_eq_bind, bind_eq_some_iff] at stepped
    rcases stepped with ⟨response, isResponse, stepped⟩
    split at stepped
    · rename_i isConflict
      cases stepped
      exact .conflict response (mem_of_getElem? isResponse) isConflict
    · cases stepped
      exact .otherResponse
  | onRoleConflict =>
    simp only [step] at stepped
    split at stepped
    · rename_i request posted _ isPosted
      split at stepped
      · rename_i switched
        cases stepped
        exact .repeated request posted isPosted switched
      · rename_i notSwitched
        cases stepped
        exact .begin request posted isPosted (Bool.eq_false_of_not_eq_true notSwitched)
    · cases stepped
  | setIceRole =>
    simp only [step] at stepped
    split at stepped
    · cases stepped
    · rename_i number request isSwitching
      split at stepped
      · cases stepped
        exact .advance number request isSwitching
      · rename_i all
        cases stepped
        exact .finish number request isSwitching (not_lt.mp all)

/-- The role of a transport, while and after the transports are switched in their order. -/
def roleAt (peer : Peer) (number : Nat) : IceRole :=
  match peer.roleSwitch, peer.switching with
  | false, _ => initialRole peer.initiator
  | true, none => initialRole (!peer.initiator)
  | true, some (next, _) =>
    if number < next then initialRole (!peer.initiator) else initialRole peer.initiator

structure Consistent (peer : Peer) : Prop where
  uniform : ∀ (number : Nat) (transport : RoleTransport),
    peer.transports[number]? = some transport →
      transport.Uniform (peer.roleAt number) peer.iceTiebreaker
  flagged : ∀ place, peer.switching = some place → peer.roleSwitch = true
  once : peer.switches = if peer.roleSwitch then 1 else 0

theorem initialRole_known (initiator : Bool) : initialRole initiator ≠ .unknown := by
  cases initiator <;> decide

theorem initialRole_not (initiator : Bool) :
    initialRole (!initiator) = (initialRole initiator).reverse := by
  cases initiator <;> rfl

theorem roleAt_cases (peer : Peer) (number : Nat) :
    peer.roleAt number = initialRole peer.initiator ∨
      peer.roleSwitch = true ∧ peer.roleAt number = initialRole (!peer.initiator) := by
  unfold roleAt
  split
  · exact .inl rfl
  · rename_i switched _
    exact .inr ⟨switched, rfl⟩
  · rename_i switched _
    split
    · exact .inr ⟨switched, rfl⟩
    · exact .inl rfl

theorem Consistent.port {peer : Peer} (consistent : peer.Consistent) {place : PortPlace}
    {port : RolePort} (found : peer.port place = some port) :
    port.iceRole = peer.roleAt place.transport ∧ port.tiebreaker = peer.iceTiebreaker := by
  simp only [Peer.port, bind_eq_bind, bind_eq_some_iff] at found
  rcases found with ⟨transport, isTransport, channel, isChannel, isPort⟩
  have uniform := consistent.uniform place.transport transport isTransport
  exact (uniform.2.2 channel (mem_of_getElem? isChannel)).2.2 port
    (mem_of_getElem? isPort)

theorem consistent_create (initiator : Bool) (iceTiebreaker : UInt64) (transports : Nat) :
    (Peer.create initiator iceTiebreaker transports).Consistent where
  uniform := by
    intro number transport found
    have created := eq_of_mem_replicate (mem_of_getElem? found)
    rw [created]
    exact ⟨rfl, rfl, fun channel absent => absurd absent not_mem_nil⟩
  flagged := fun _ absent => by cases absent
  once := rfl

/-! ## What an effect keeps -/

section Kept

variable {peer own : Peer} {requests : List SentRequest} {responses : List StunMessage}

theorem Effect.frame (effect : Effect peer own requests responses) :
    own.initiator = peer.initiator ∧ own.iceTiebreaker = peer.iceTiebreaker ∧
      own.requests = peer.requests ∧ own.responses = peer.responses := by
  cases effect <;> exact ⟨rfl, rfl, rfl, rfl⟩

theorem Effect.consistent (effect : Effect peer own requests responses)
    (consistent : peer.Consistent) : own.Consistent := by
  cases effect with
  | transports transports kept =>
    refine ⟨fun number transport found => ?_, consistent.flagged, consistent.once⟩
    rcases kept number transport found with ⟨original, isOriginal, uniform⟩
    exact uniform _ _ (consistent.uniform number original isOriginal)
  | ping | proceed | signal | reject | conflict | otherResponse | repeated =>
    exact ⟨consistent.uniform, consistent.flagged, consistent.once⟩
  | begin request posted isPosted notSwitched =>
    refine ⟨fun number transport found => ?_, fun _ _ => rfl, ?_⟩
    · have uniform := consistent.uniform number transport found
      simpa [roleAt, notSwitched] using uniform
    · have once := consistent.once
      rw [notSwitched] at once
      simpa using once
  | advance next request isSwitching =>
    have switched := consistent.flagged _ isSwitching
    refine ⟨fun number transport found => ?_, fun _ _ => switched, consistent.once⟩
    rw [List.getElem?_modify, Option.map_eq_map, map_eq_some_iff] at found
    rcases found with ⟨original, isOriginal, rfl⟩
    have uniform := consistent.uniform number original isOriginal
    simp only [roleAt, switched, isSwitching] at uniform ⊢
    by_cases isNext : next = number
    · simp only [isNext, if_true, Nat.lt_succ_self]
      exact uniform.setIceRole _
    · simp only [isNext, if_false]
      have sameSide : number < next + 1 ↔ number < next := by omega
      simpa only [sameSide] using uniform
  | finish next request isSwitching all =>
    have switched := consistent.flagged _ isSwitching
    refine ⟨fun number transport found => ?_, (fun _ absent => nomatch absent), consistent.once⟩
    have uniform := consistent.uniform number transport found
    have inside : number < next :=
      (List.getElem?_eq_some_iff.mp found).1.trans_le all
    simp only [roleAt, switched, isSwitching, inside, if_true] at uniform
    simpa [roleAt, switched, markProcessed] using uniform

/-- A request that a session has sent: the role is the first one, or the session has begun to
switch; when the request is settled, the session has switched. -/
def Sent (sender : Peer) (request : SentRequest) : Prop :=
  (∃ role, Speaks request.msg role sender.iceTiebreaker ∧ (role = initialRole sender.initiator ∨
      sender.roleSwitch = true ∧ role = initialRole (!sender.initiator))) ∧
  (request.settled = true → sender.roleSwitch = true ∧ sender.switching = none)

theorem Effect.sent_mono (effect : Effect peer own requests responses)
    {request : SentRequest} (sent : peer.Sent request) : own.Sent request := by
  cases effect with
  | transports | ping | proceed | signal | reject | conflict | otherResponse | repeated =>
    exact sent
  | begin _ posted isPosted notSwitched =>
    rcases sent with ⟨⟨role, speaks, known⟩, settled⟩
    refine ⟨⟨role, speaks, known.imp id fun both => ⟨rfl, both.2⟩⟩, fun isSettled => ?_⟩
    have switched := (settled isSettled).1
    rw [notSwitched] at switched
    cases switched
  | advance next _ isSwitching =>
    refine ⟨sent.1, fun isSettled => ?_⟩
    have finished := (sent.2 isSettled).2
    rw [isSwitching] at finished
    cases finished
  | finish next _ isSwitching =>
    exact ⟨sent.1, fun isSettled => ⟨(sent.2 isSettled).1, rfl⟩⟩

theorem Effect.sent (effect : Effect peer own requests responses)
    (consistent : peer.Consistent) : ∀ request ∈ requests, own.Sent request := by
  cases effect with
  | ping place port ping found =>
    intro request member
    rw [mem_singleton.mp member]
    rcases consistent.port found with ⟨role, tiebreaker⟩
    have known : port.iceRole ≠ .unknown := by
      rw [role]
      rcases peer.roleAt_cases place.transport with same | ⟨_, same⟩ <;> rw [same]
      · exact initialRole_known _
      · exact initialRole_known _
    refine ⟨⟨port.iceRole, ?_, ?_⟩, fun isSettled => ?_⟩
    · rw [← tiebreaker]
      exact port.speaks_prepare ping known
    · rw [role]
      exact peer.roleAt_cases place.transport
    · simpa using isSettled
  | transports | proceed | signal | reject | conflict | otherResponse | repeated | begin | advance
  | finish => exact fun _ absent => absurd absent not_mem_nil

end Kept

/-- The session has seen no conflict, and no message on its way to it tells of one. -/
structure Quiet (peer : Peer) : Prop where
  consistent : peer.Consistent
  posted : peer.posted = []
  notSwitched : peer.roleSwitch = false
  responses : ∀ response ∈ peer.responses, isConflictResponse response = false
  processed : ∀ request ∈ peer.processed, request ∈ peer.requests

theorem quiet_create (initiator : Bool) (iceTiebreaker : UInt64) (transports : Nat) :
    (Peer.create initiator iceTiebreaker transports).Quiet where
  consistent := consistent_create initiator iceTiebreaker transports
  posted := rfl
  notSwitched := rfl
  responses := fun _ absent => absurd absent not_mem_nil
  processed := fun _ absent => absurd absent not_mem_nil

theorem isConflictResponse_success (request : StunMessage) :
    isConflictResponse (successResponse request) = false := by
  rfl

theorem Effect.quiet {peer own : Peer} {requests : List SentRequest}
    {responses : List StunMessage} (effect : Effect peer own requests responses)
    (quiet : peer.Quiet)
    (silent : ∀ request ∈ peer.requests, ∀ place port remoteUfrag, peer.port place = some port →
      port.maybeIceRoleConflict request.msg remoteUfrag ≠ .signal) : own.Quiet := by
  have consistent := effect.consistent quiet.consistent
  have none_switching (place) (isSwitching : peer.switching = some place) : False := by
    have switched := quiet.consistent.flagged place isSwitching
    rw [quiet.notSwitched] at switched
    cases switched
  cases effect with
  | transports | ping | otherResponse =>
    exact ⟨consistent, quiet.posted, quiet.notSwitched, quiet.responses, quiet.processed⟩
  | proceed request place port remoteUfrag received =>
    refine ⟨consistent, quiet.posted, quiet.notSwitched, quiet.responses, ?_⟩
    exact forall_mem_cons.mpr ⟨received, quiet.processed⟩
  | reject request place port remoteUfrag received =>
    refine ⟨consistent, quiet.posted, quiet.notSwitched, quiet.responses, ?_⟩
    exact forall_mem_cons.mpr ⟨received, quiet.processed⟩
  | signal request place port remoteUfrag received found verdict =>
    exact absurd verdict (silent request received place port remoteUfrag found)
  | conflict response received isConflict =>
    rw [quiet.responses response received] at isConflict
    cases isConflict
  | repeated request posted isPosted =>
    rw [quiet.posted] at isPosted
    cases isPosted
  | begin request posted isPosted =>
    rw [quiet.posted] at isPosted
    cases isPosted
  | advance next request isSwitching => exact absurd isSwitching (none_switching _)
  | finish next request isSwitching => exact absurd isSwitching (none_switching _)

theorem Quiet.holds {peer : Peer} (quiet : peer.Quiet) : peer.Holds (initialRole peer.initiator) := by
  intro transport member
  rcases mem_iff_getElem?.mp member with ⟨number, found⟩
  have uniform := quiet.consistent.uniform number transport found
  simp only [roleAt, quiet.notSwitched] at uniform
  refine ⟨uniform.1, fun channel isChannel => ?_⟩
  have channelUniform := uniform.2.2 channel isChannel
  exact ⟨channelUniform.1, fun port isPort => (channelUniform.2.2 port isPort).1⟩

theorem compareRoles_opposite (initiator : Bool) (tiebreaker remote : UInt64) :
    compareRoles (initialRole initiator) tiebreaker (initialRole (!initiator), remote) =
      .proceed := by
  cases initiator <;> rfl

theorem Effect.responses_quiet {peer own : Peer} {requests : List SentRequest}
    {responses : List StunMessage} (effect : Effect peer own requests responses)
    (accepting : ∀ request ∈ peer.requests, ∀ place port remoteUfrag, peer.port place = some port →
        port.maybeIceRoleConflict request.msg remoteUfrag ≠ .reject) :
    ∀ response ∈ responses, isConflictResponse response = false := by
  cases effect with
  | proceed | signal =>
    intro response member
    rw [mem_singleton.mp member]
    exact isConflictResponse_success _
  | reject request place port remoteUfrag received found verdict =>
    exact absurd verdict (accepting request received place port remoteUfrag found)
  | transports | ping | conflict | otherResponse | repeated | begin | advance | finish =>
    exact fun _ absent => absurd absent not_mem_nil

theorem Quiet.receive {peer : Peer} (quiet : peer.Quiet) {requests : List SentRequest}
    {responses : List StunMessage}
    (noConflict : ∀ response ∈ responses, isConflictResponse response = false) :
    (peer.receive requests responses).Quiet where
  consistent := ⟨quiet.consistent.uniform, quiet.consistent.flagged, quiet.consistent.once⟩
  posted := quiet.posted
  notSwitched := quiet.notSwitched
  responses := by
    intro response member
    rcases mem_append.mp member with member | member
    · exact quiet.responses response member
    · exact noConflict response member
  processed := fun request member => mem_append_left _ (quiet.processed request member)

/-- The requests on the way to a session were sent by the other one. -/
def Hears (peer sender : Peer) : Prop := ∀ request ∈ peer.requests, sender.Sent request

theorem Effect.hears {peer own other : Peer} {requests : List SentRequest}
    {responses : List StunMessage} (effect : Effect peer own requests responses)
    (consistent : peer.Consistent) (own_hears : peer.Hears other) (hears : other.Hears peer) :
    own.Hears (other.receive requests responses) ∧
      (other.receive requests responses).Hears own := by
  refine ⟨fun request member => ?_, fun request member => ?_⟩
  · rw [effect.frame.2.2.1] at member
    exact own_hears request member
  · rcases mem_append.mp member with member | member
    · exact effect.sent_mono (hears request member)
    · exact effect.sent consistent request member

structure Peaceful (first second : Peer) : Prop where
  roles : second.initiator = !first.initiator
  tiebreakers : first.iceTiebreaker ≠ second.iceTiebreaker
  firstQuiet : first.Quiet
  secondQuiet : second.Quiet
  firstHears : first.Hears second
  secondHears : second.Hears first

theorem Peaceful.symm {first second : Peer} (peaceful : Peaceful first second) :
    Peaceful second first where
  roles := by rw [peaceful.roles, Bool.not_not]
  tiebreakers := peaceful.tiebreakers.symm
  firstQuiet := peaceful.secondQuiet
  secondQuiet := peaceful.firstQuiet
  firstHears := peaceful.secondHears
  secondHears := peaceful.firstHears

theorem Quiet.port {peer : Peer} (quiet : peer.Quiet) {place : PortPlace} {port : RolePort}
    (found : peer.port place = some port) :
    port.iceRole = initialRole peer.initiator ∧ port.tiebreaker = peer.iceTiebreaker := by
  rcases quiet.consistent.port found with ⟨role, tiebreaker⟩
  simp only [roleAt, quiet.notSwitched] at role
  exact ⟨role, tiebreaker⟩

theorem Quiet.speaks {sender : Peer} (quiet : sender.Quiet) {request : SentRequest}
    (sent : sender.Sent request) :
    Speaks request.msg (initialRole sender.initiator) sender.iceTiebreaker := by
  rcases sent with ⟨⟨role, speaks, same | ⟨switched, _⟩⟩, _⟩
  · exact same ▸ speaks
  · rw [quiet.notSwitched] at switched
    cases switched

variable {request : SentRequest} {place : PortPlace} {port : RolePort}

theorem Peaceful.verdict {first second : Peer} (peaceful : Peaceful first second)
    (received : request ∈ first.requests)
    (remoteUfrag : Bytes) (found : first.port place = some port) :
    port.maybeIceRoleConflict request.msg remoteUfrag = .proceed := by
  rcases peaceful.firstQuiet.port found with ⟨role, tiebreaker⟩
  have speaks := peaceful.secondQuiet.speaks (peaceful.firstHears request received)
  rw [RolePort.verdict_of_speaks speaks (by rw [tiebreaker]; exact peaceful.tiebreakers.symm),
    role, peaceful.roles]
  exact compareRoles_opposite _ _ _

theorem Peaceful.step {first second own : Peer} {requests : List SentRequest}
    {responses : List StunMessage} (peaceful : Peaceful first second)
    (effect : Effect first own requests responses) :
    Peaceful own (second.receive requests responses) := by
  have hears := effect.hears peaceful.firstQuiet.consistent peaceful.firstHears
    peaceful.secondHears
  rcases effect.frame with ⟨sameInitiator, sameTiebreaker, _⟩
  refine ⟨?_, ?_, ?_, ?_, hears.1, hears.2⟩
  · rw [sameInitiator]
    exact peaceful.roles
  · rw [sameTiebreaker]
    exact peaceful.tiebreakers
  · apply effect.quiet peaceful.firstQuiet
    intro request received place port remoteUfrag found
    rw [peaceful.verdict received remoteUfrag found]
    decide
  · apply peaceful.secondQuiet.receive
    apply effect.responses_quiet
    intro request received place port remoteUfrag found
    rw [peaceful.verdict received remoteUfrag found]
    decide

/-! ### The same role at the start -/

/-- The session with the larger tiebreaker keeps the controlling role, the one with the smaller
tiebreaker keeps the controlled role. -/
def Keeps (role : IceRole) (keeper yielder : UInt64) : Prop :=
  match role with
  | .controlling => yielder < keeper
  | .controlled => keeper < yielder
  | .unknown => False

theorem compareRoles_keeper {role : IceRole} {keeper yielder : UInt64}
    (keeps : Keeps role keeper yielder) :
    compareRoles role keeper (role, yielder) = .reject ∧
      compareRoles role yielder (role, keeper) = .signal := by
  cases role with
  | unknown => cases keeps
  | controlling =>
    have smaller : yielder < keeper := keeps
    have atMost : yielder ≤ keeper :=
      UInt64.le_iff_toNat_le.mpr (UInt64.lt_iff_toNat_lt.mp smaller).le
    simp [compareRoles, smaller, atMost]
  | controlled =>
    have larger : keeper < yielder := keeps
    have atMost : keeper ≤ yielder :=
      UInt64.le_iff_toNat_le.mpr (UInt64.lt_iff_toNat_lt.mp larger).le
    simp [compareRoles, larger, atMost]

structure Conflict (keeper yielder : Peer) : Prop where
  roles : yielder.initiator = keeper.initiator
  keeps : Keeps (initialRole keeper.initiator) keeper.iceTiebreaker yielder.iceTiebreaker
  tiebreakers : keeper.iceTiebreaker ≠ yielder.iceTiebreaker
  keeperQuiet : keeper.Quiet
  yielderConsistent : yielder.Consistent
  keeperHears : keeper.Hears yielder
  yielderHears : yielder.Hears keeper
  yielded : yielder.processed ≠ [] → yielder.roleSwitch = true

theorem Conflict.keeper_verdict {keeper yielder : Peer} (conflict : Conflict keeper yielder)
    (received : request ∈ keeper.requests)
    (remoteUfrag : Bytes) (found : keeper.port place = some port) :
    port.maybeIceRoleConflict request.msg remoteUfrag ≠ .signal := by
  rcases conflict.keeperQuiet.port found with ⟨role, tiebreaker⟩
  rcases conflict.keeperHears request received with ⟨⟨sentRole, speaks, same⟩, _⟩
  rw [RolePort.verdict_of_speaks speaks (by rw [tiebreaker]; exact conflict.tiebreakers.symm),
    role, tiebreaker]
  rcases same with same | ⟨_, same⟩
  · rw [same, conflict.roles, (compareRoles_keeper conflict.keeps).1]
    decide
  · rw [same, conflict.roles, compareRoles_opposite]
    decide

theorem Conflict.yielder_verdict {keeper yielder : Peer} (conflict : Conflict keeper yielder)
    (received : request ∈ yielder.requests)
    (remoteUfrag : Bytes) (found : yielder.port place = some port) :
    port.maybeIceRoleConflict request.msg remoteUfrag = .signal ∨ yielder.roleSwitch = true ∧
        port.maybeIceRoleConflict request.msg remoteUfrag = .proceed := by
  rcases conflict.yielderConsistent.port found with ⟨role, tiebreaker⟩
  have speaks := conflict.keeperQuiet.speaks (conflict.yielderHears request received)
  rw [RolePort.verdict_of_speaks speaks (by rw [tiebreaker]; exact conflict.tiebreakers),
    role, tiebreaker]
  rcases yielder.roleAt_cases place.transport with same | ⟨switched, same⟩
  · rw [same, conflict.roles]
    exact .inl (compareRoles_keeper conflict.keeps).2
  · rw [same, conflict.roles]
    refine .inr ⟨switched, ?_⟩
    have opposite := compareRoles_opposite (!keeper.initiator) yielder.iceTiebreaker
      keeper.iceTiebreaker
    rwa [Bool.not_not] at opposite

section

variable {keeper yielder own : Peer} {requests : List SentRequest} {responses : List StunMessage}
  (conflict : Conflict keeper yielder)

include conflict

theorem Conflict.keeper_step (effect : Effect keeper own requests responses) :
    Conflict own (yielder.receive requests responses) := by
  have hears := effect.hears conflict.keeperQuiet.consistent conflict.keeperHears
    conflict.yielderHears
  rcases effect.frame with ⟨sameInitiator, sameTiebreaker, _⟩
  refine ⟨?_, ?_, ?_, ?_, ?_, hears.1, hears.2, conflict.yielded⟩
  · rw [sameInitiator]
    exact conflict.roles
  · rw [sameInitiator, sameTiebreaker]
    exact conflict.keeps
  · rw [sameTiebreaker]
    exact conflict.tiebreakers
  · exact effect.quiet conflict.keeperQuiet
      fun request received place port remoteUfrag found =>
        conflict.keeper_verdict received remoteUfrag found
  · exact ⟨conflict.yielderConsistent.uniform, conflict.yielderConsistent.flagged,
      conflict.yielderConsistent.once⟩

theorem Conflict.yielder_step (effect : Effect yielder own requests responses) :
    Conflict (keeper.receive requests responses) own := by
  have hears := effect.hears conflict.yielderConsistent conflict.yielderHears
    conflict.keeperHears
  rcases effect.frame with ⟨sameInitiator, sameTiebreaker, _⟩
  refine ⟨?_, ?_, ?_, ?_, effect.consistent conflict.yielderConsistent, hears.2, hears.1, ?_⟩
  · rw [sameInitiator]
    exact conflict.roles
  · rw [sameTiebreaker]
    exact conflict.keeps
  · rw [sameTiebreaker]
    exact conflict.tiebreakers
  · apply conflict.keeperQuiet.receive
    apply effect.responses_quiet
    intro request received place port remoteUfrag found
    rcases conflict.yielder_verdict received remoteUfrag found with signal | ⟨_, proceed⟩
    · rw [signal]
      decide
    · rw [proceed]
      decide
  · cases effect with
    | transports | ping | signal | conflict | otherResponse => exact conflict.yielded
    | proceed request place port remoteUfrag received found verdict =>
      intro _
      rcases conflict.yielder_verdict received remoteUfrag found with signal | ⟨switched, _⟩
      · rw [signal] at verdict
        cases verdict
      · exact switched
    | reject request place port remoteUfrag received found verdict =>
      rcases conflict.yielder_verdict received remoteUfrag found with signal | ⟨_, proceed⟩
      · rw [signal] at verdict
        cases verdict
      · rw [proceed] at verdict
        cases verdict
    | repeated request posted isPosted switched => exact fun _ => switched
    | begin => exact fun _ => rfl
    | advance next request isSwitching => exact conflict.yielded
    | finish next request isSwitching =>
      exact fun _ => conflict.yielderConsistent.flagged _ isSwitching

end

/-! ## What is reached -/

theorem Consistent.switches_le {peer : Peer} (consistent : peer.Consistent) :
    peer.switches ≤ 1 := by
  rw [consistent.once]
  split <;> decide

theorem Consistent.holds {peer : Peer} (consistent : peer.Consistent)
    (switched : peer.roleSwitch = true) (finished : peer.switching = none) :
    peer.Holds (initialRole (!peer.initiator)) := by
  intro transport member
  rcases mem_iff_getElem?.mp member with ⟨number, found⟩
  have uniform := consistent.uniform number transport found
  simp only [roleAt, switched, finished] at uniform
  refine ⟨uniform.1, fun channel isChannel => ?_⟩
  have channelUniform := uniform.2.2 channel isChannel
  exact ⟨channelUniform.1, fun port isPort => (channelUniform.2.2 port isPort).1⟩

theorem Conflict.opposite {keeper yielder : Peer} (conflict : Conflict keeper yielder)
    (keeperHeard : keeper.Heard yielder) (yielderHeard : yielder.Heard keeper) :
    keeper.Holds (initialRole keeper.initiator) ∧
      yielder.Holds (initialRole keeper.initiator).reverse := by
  refine ⟨conflict.keeperQuiet.holds, ?_⟩
  rcases yielderHeard with ⟨heard, isHeard, _⟩
  have switched := conflict.yielded (ne_nil_of_mem isHeard)
  rcases keeperHeard with ⟨request, isProcessed, settled⟩
  have received := conflict.keeperQuiet.processed request isProcessed
  have finished := ((conflict.keeperHears request received).2 (settled switched)).2
  have holds := conflict.yielderConsistent.holds switched finished
  rw [conflict.roles, initialRole_not] at holds
  exact holds

end Peer

namespace RoleSystem

open Peer

def create (firstInitiator secondInitiator : Bool) (firstTiebreaker secondTiebreaker : UInt64)
    (firstTransports secondTransports : Nat) : RoleSystem :=
  ⟨Peer.create firstInitiator firstTiebreaker firstTransports,
    Peer.create secondInitiator secondTiebreaker secondTransports⟩

/-- The two sessions are at peace, or one of them is the keeper of a conflict. -/
inductive Invariant (system : RoleSystem) : Prop
  | peaceful (peaceful : Peaceful system.first system.second)
  | firstKeeps (conflict : Conflict system.first system.second)
  | secondKeeps (conflict : Conflict system.second system.first)

theorem Invariant.step {system next : RoleSystem} {event : Side × RoleEvent}
    (invariant : Invariant system) (stepped : system.step event = some next) :
    Invariant next := by
  rcases event with ⟨side, event⟩
  cases side with
  | first =>
    simp only [RoleSystem.step, bind_eq_bind, bind_eq_some_iff] at stepped
    rcases stepped with ⟨⟨own, requests, responses⟩, taken, stepped⟩
    cases stepped
    have effect := step_effect taken
    cases invariant with
    | peaceful peaceful => exact .peaceful (peaceful.step effect)
    | firstKeeps conflict => exact .firstKeeps (conflict.keeper_step effect)
    | secondKeeps conflict => exact .secondKeeps (conflict.yielder_step effect)
  | second =>
    simp only [RoleSystem.step, bind_eq_bind, bind_eq_some_iff] at stepped
    rcases stepped with ⟨⟨own, requests, responses⟩, taken, stepped⟩
    cases stepped
    have effect := step_effect taken
    cases invariant with
    | peaceful peaceful => exact .peaceful (peaceful.symm.step effect).symm
    | firstKeeps conflict => exact .firstKeeps (conflict.yielder_step effect)
    | secondKeeps conflict => exact .secondKeeps (conflict.keeper_step effect)

theorem hears_create (initiator : Bool) (tiebreaker : UInt64) (transports : Nat) (sender : Peer) :
    (Peer.create initiator tiebreaker transports).Hears sender :=
  fun _ absent => absurd absent not_mem_nil

section

variable {initiator : Bool} {keeper yielder : UInt64}

theorem conflict_create (keeps : Keeps (initialRole initiator) keeper yielder)
    (different : keeper ≠ yielder)
    (keeperTransports yielderTransports : Nat) :
    Conflict (Peer.create initiator keeper keeperTransports)
      (Peer.create initiator yielder yielderTransports) where
  roles := rfl
  keeps := keeps
  tiebreakers := different
  keeperQuiet := quiet_create _ _ _
  yielderConsistent := consistent_create _ _ _
  keeperHears := hears_create _ _ _ _
  yielderHears := hears_create _ _ _ _
  yielded := fun some => absurd rfl some

theorem keeps_or (initiator : Bool) {first second : UInt64} (different : first ≠ second) :
    Keeps (initialRole initiator) first second ∨ Keeps (initialRole initiator) second first := by
  have apart : first.toNat ≠ second.toNat := fun same => different (UInt64.toNat_inj.mp same)
  rcases Nat.lt_or_gt_of_ne apart with less | greater
  · cases initiator with
    | false => exact .inl (UInt64.lt_iff_toNat_lt.mpr less)
    | true => exact .inr (UInt64.lt_iff_toNat_lt.mpr less)
  · cases initiator with
    | false => exact .inr (UInt64.lt_iff_toNat_lt.mpr greater)
    | true => exact .inl (UInt64.lt_iff_toNat_lt.mpr greater)

theorem invariant_create (firstInitiator secondInitiator : Bool)
    {firstTiebreaker secondTiebreaker : UInt64} (different : firstTiebreaker ≠ secondTiebreaker)
    (firstTransports secondTransports : Nat) :
    Invariant (create firstInitiator secondInitiator firstTiebreaker secondTiebreaker
      firstTransports secondTransports) := by
  by_cases same : secondInitiator = firstInitiator
  · subst same
    rcases keeps_or secondInitiator different with keeps | keeps
    · exact .firstKeeps (conflict_create keeps different _ _)
    · exact .secondKeeps (conflict_create keeps different.symm _ _)
  · refine .peaceful ⟨?_, different, quiet_create _ _ _, quiet_create _ _ _,
      hears_create _ _ _ _, hears_create _ _ _ _⟩
    exact Bool.eq_not.mpr same

theorem keeps_controlling_iff (keeps : Keeps (initialRole initiator) keeper yielder) :
    initialRole initiator = .controlling ↔ yielder < keeper := by
  cases initiator with
  | true => exact ⟨fun _ => keeps, fun _ => rfl⟩
  | false =>
    have larger : keeper < yielder := keeps
    refine ⟨(fun absurdity => by cases absurdity), fun smaller => ?_⟩
    rw [UInt64.lt_iff_toNat_lt] at larger smaller
    omega

theorem keeps_controlled_iff (keeps : Keeps (initialRole initiator) keeper yielder) :
    (initialRole initiator).reverse = .controlling ↔ keeper < yielder := by
  cases initiator with
  | false => exact ⟨fun _ => keeps, fun _ => rfl⟩
  | true =>
    have smaller : yielder < keeper := keeps
    refine ⟨(fun absurdity => by cases absurdity), fun larger => ?_⟩
    rw [UInt64.lt_iff_toNat_lt] at larger smaller
    omega

end

theorem Invariant.agreement {system : RoleSystem} (invariant : Invariant system) :
    Agreement system := by
  cases invariant with
  | peaceful peaceful =>
    refine ⟨peaceful.firstQuiet.consistent.switches_le,
      peaceful.secondQuiet.consistent.switches_le, fun _ _ => ?_⟩
    refine ⟨initialRole system.first.initiator, initialRole_known _,
      peaceful.firstQuiet.holds, ?_, fun same => ?_⟩
    · rw [← initialRole_not, ← peaceful.roles]
      exact peaceful.secondQuiet.holds
    · rw [peaceful.roles] at same
      exact absurd same (Bool.eq_not_self _).mp
  | firstKeeps conflict =>
    refine ⟨conflict.keeperQuiet.consistent.switches_le,
      conflict.yielderConsistent.switches_le, fun firstHeard secondHeard => ?_⟩
    rcases conflict.opposite firstHeard secondHeard with ⟨keeps, yields⟩
    exact ⟨initialRole system.first.initiator, initialRole_known _, keeps, yields,
      fun _ => keeps_controlling_iff conflict.keeps⟩
  | secondKeeps conflict =>
    refine ⟨conflict.yielderConsistent.switches_le,
      conflict.keeperQuiet.consistent.switches_le, fun firstHeard secondHeard => ?_⟩
    rcases conflict.opposite secondHeard firstHeard with ⟨keeps, yields⟩
    rw [← initialRole_not] at yields
    refine ⟨initialRole (!system.second.initiator), initialRole_known _, yields, ?_, fun _ => ?_⟩
    · rw [← initialRole_not, Bool.not_not]
      exact keeps
    · rw [initialRole_not]
      exact keeps_controlled_iff conflict.keeps

/-- Both sessions start controlling. The second one learns of the conflict from the first
request, and its own request finds the roles settled. -/
def conflictRun : List (Side × RoleEvent) :=
  [(.first, .createChannel 0), (.first, .portReady 0 0 [102]),
    (.second, .createChannel 0), (.second, .portReady 0 0 [115]),
    (.first, .ping ⟨0, 0, 0⟩ ⟨[1], [115, 58, 102], none, true, 7⟩),
    (.second, .request 0 ⟨0, 0, 0⟩ [102]),
    (.second, .onRoleConflict), (.second, .setIceRole), (.second, .setIceRole),
    (.second, .ping ⟨0, 0, 0⟩ ⟨[2], [102, 58, 115], none, false, 7⟩),
    (.first, .request 0 ⟨0, 0, 0⟩ [115])]

/-- The sessions after `conflictRun`. -/
def settledSystem : RoleSystem :=
  (Run.reached step (create true true 5 3 1 1) conflictRun).getD (create true true 5 3 1 1)

end RoleSystem

end ZyWebRtc.Ice
