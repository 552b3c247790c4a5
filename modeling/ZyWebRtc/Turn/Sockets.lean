import ZyWebRtc.Turn.Steps

namespace ZyWebRtc.Turn

/-! Whether the internal socket of every live allocation is still there.

A packet keeps the sockets and gives its own socket to the allocation that it creates. Two
steps delete sockets: a client that closes its connection, and the end of an allocation whose
socket is not on UDP. Neither looks for the allocations that still record the socket. -/

open List Stun

/-- The internal socket that an output is sent through, if it is. -/
def Output.socket : Output → Option Nat
  | .stun socket _ _ => some socket
  | .channelData socket _ _ => some socket
  | .external _ _ _ => none

namespace TurnServer

variable (settings : Settings)

def Present (server : TurnServer) (socket : Nat) : Prop := (server.findSocket socket).isSome

/-- Every live allocation has its socket, nothing that a step sends goes through a deleted
socket, and the end of an allocation finds its socket. -/
structure SocketSafe (server : TurnServer) : Prop where
  recorded : ∀ allocation ∈ server.allocations, server.Present allocation.conn.socket
  sends : ∀ event result, server.step settings event = some result →
    ∀ output ∈ result.2, ∀ socket, output.socket = some socket → server.Present socket
  ends : ∀ allocation ∈ server.allocations, (server.onAllocationTimeout allocation).isSome

/-- No closed socket is recorded by a live allocation, and the allocation that ends on a
socket other than UDP is the only one there. -/
def KeepsSockets (server : TurnServer) : Event → Prop
  | .close socket => ∀ allocation ∈ server.allocations, allocation.conn.socket ≠ socket
  | .allocationTimeout id =>
    ∀ ended socket, server.allocation id = some ended →
      server.findSocket ended.conn.socket = some socket → socket.proto ≠ .udp →
        ∀ other ∈ server.allocations, other.id ≠ ended.id → other.conn.socket ≠ ended.conn.socket
  | _ => True

variable {settings} {server : TurnServer}

theorem present_iff {id : Nat} :
    server.Present id ↔ ∃ socket ∈ server.serverSockets, socket.id = id := by
  simp [Present, findSocket]

theorem present_of_findSocket {id : Nat} {socket : InternalSocket}
    (found : server.findSocket id = some socket) : server.Present socket.id :=
  present_iff.mpr ⟨socket, List.mem_of_find?_eq_some found, rfl⟩

/-! ## Where sends go -/

theorem handleTurnMessage_socket {allocation : Allocation} {now : Nat} {msg : StunMessage}
    {output : Output} (sent : output ∈ (allocation.handleTurnMessage settings now msg).2)
    {socket : Nat} (through : output.socket = some socket) :
    socket = allocation.conn.socket := by
  have response (message : StunMessage) (same : output = settings.sendStun allocation.conn message) :
      socket = allocation.conn.socket := by
    rw [same] at through
    exact (Option.some.inj through).symm
  unfold Allocation.handleTurnMessage at sent
  split at sent
  · exact response _ (mem_singleton.mp sent)
  split at sent
  · exact response _ (mem_singleton.mp sent)
  split at sent
  · unfold Allocation.handleSendIndication at sent
    split at sent
    · split at sent
      · rw [mem_singleton.mp sent] at through
        cases through
      · cases sent
    · cases sent
  split at sent
  · unfold Allocation.handleCreatePermissionRequest at sent
    split at sent <;> exact response _ (mem_singleton.mp sent)
  split at sent
  · unfold Allocation.handleChannelBindRequest at sent
    split at sent
    · simp only at sent
      split at sent <;> exact response _ (mem_singleton.mp sent)
    · exact response _ (mem_singleton.mp sent)
  · cases sent

theorem onExternalPacket_socket {allocation : Allocation} {data transactionId : Bytes}
    {addr : SocketAddress} {output : Output}
    (sent : output ∈ allocation.onExternalPacket settings data addr transactionId)
    {socket : Nat} (through : output.socket = some socket) :
    socket = allocation.conn.socket := by
  unfold Allocation.onExternalPacket at sent
  split at sent
  · rw [mem_singleton.mp sent] at through
    exact (Option.some.inj through).symm
  · split at sent
    · rw [mem_singleton.mp sent] at through
      exact (Option.some.inj through).symm
    · cases sent

section

variable {conn : Connection} {packet : InternalPacket} {after : TurnServer} {outputs : List Output}
  (effect : PacketEffect settings server conn packet after outputs)

include effect

theorem PacketEffect.socket {output : Output} (sent : output ∈ outputs) {socket : Nat}
    (through : output.socket = some socket) :
    socket = conn.socket ∨ ∃ allocation ∈ server.allocations, socket = allocation.conn.socket := by
  have own (message : StunMessage) (sent : output ∈ [settings.sendStun conn message]) :
      socket = conn.socket := by
    rw [mem_singleton.mp sent] at through
    exact (Option.some.inj through).symm
  cases effect with
  | ignored => cases sent
  | channelData allocation msgType found =>
    unfold Allocation.handleChannelData at sent
    split at sent
    · cases sent
    · rw [mem_singleton.mp sent] at through
      cases through
  | response msg message => exact .inl (own message sent)
  | mismatch msg => exact .inl (own _ sent)
  | indication msg allocation read notRequest found =>
    split at sent
    · unfold Allocation.handleSendIndication at sent
      split at sent
      · split at sent
        · rw [mem_singleton.mp sent] at through
          cases through
        · cases sent
      · cases sent
    · cases sent
  | refused msg message => exact .inl (own message sent)
  | changed msg allocation nonce found =>
    exact .inr ⟨allocation, findAllocation_mem found, handleTurnMessage_socket sent through⟩
  | created msg nonce externalAddress => exact .inl (handleTurnMessage_socket sent through)

theorem PacketEffect.connections : after.serverSockets = server.serverSockets ∧
      ∀ allocation ∈ after.allocations, allocation.conn = conn ∨
        ∃ before ∈ server.allocations, allocation.conn = before.conn := by
  have kept {changed original : Allocation} (live : original ∈ server.allocations)
      (same : changed.conn = original.conn) :
      ∀ allocation ∈ (server.update changed).allocations, allocation.conn = conn ∨
        ∃ before ∈ server.allocations, allocation.conn = before.conn := by
    intro allocation member
    rcases mem_update member with rfl | member
    · exact .inr ⟨original, live, same⟩
    · exact .inr ⟨allocation, member, rfl⟩
  cases effect with
  | ignored => exact ⟨rfl, fun allocation member => .inr ⟨allocation, member, rfl⟩⟩
  | channelData => exact ⟨rfl, fun allocation member => .inr ⟨allocation, member, rfl⟩⟩
  | response => exact ⟨rfl, fun allocation member => .inr ⟨allocation, member, rfl⟩⟩
  | mismatch => exact ⟨rfl, fun allocation member => .inr ⟨allocation, member, rfl⟩⟩
  | indication msg allocation read notRequest found =>
    exact ⟨rfl, kept (findAllocation_mem found) rfl⟩
  | refused msg message allocation nonce found =>
    exact ⟨rfl, kept (findAllocation_mem found) rfl⟩
  | changed msg allocation nonce found =>
    exact ⟨rfl, kept (findAllocation_mem found) (Allocation.handleTurnMessage_frame ..).2.1⟩
  | created msg nonce externalAddress =>
    refine ⟨rfl, fun allocation member => ?_⟩
    rcases mem_append.mp member with member | member
    · exact .inr ⟨allocation, member, rfl⟩
    · rw [mem_singleton.mp member]
      exact .inl (Allocation.handleTurnMessage_frame ..).2.1

end

/-! ## Steps -/

theorem socketSafe_iff : SocketSafe settings server ↔
    ∀ allocation ∈ server.allocations, server.Present allocation.conn.socket := by
  refine ⟨SocketSafe.recorded, fun recorded => ⟨recorded, ?_, ?_⟩⟩
  · rintro event ⟨after, outputs⟩ stepped output sent socket through
    have effect : StepEffect settings server event after outputs := step_effect stepped
    cases effect with
    | tick | accept | close | allocationTimeout | permissionTimeout | channelTimeout => cases sent
    | internalPacket packet origin after outputs present effect =>
      rcases effect.socket sent through with rfl | ⟨allocation, live, rfl⟩
      · exact present_of_findSocket present
      · exact recorded allocation live
    | externalPacket id data addr transactionId allocation live =>
      rw [onExternalPacket_socket sent through]
      exact recorded allocation live
  · intro allocation live
    rcases Option.isSome_iff_exists.mp (recorded allocation live) with ⟨socket, present⟩
    simp [onAllocationTimeout, present]

theorem socketSafe_next {event : Event} {after : TurnServer}
    (stepped : server.next settings event = some after)
    (safe : SocketSafe settings server) :
    SocketSafe settings after ↔ server.KeepsSockets event := by
  have recorded := safe.recorded
  rw [socketSafe_iff]
  rcases Option.map_eq_some_iff.mp stepped with ⟨⟨_, outputs⟩, taken, rfl⟩
  have effect : StepEffect settings server event _ outputs := step_effect taken
  cases effect with
  | tick time => exact ⟨fun _ => trivial, fun _ => recorded⟩
  | accept listener id remoteAddress proto =>
    refine ⟨fun _ => trivial, fun _ allocation live => ?_⟩
    rcases present_iff.mp (recorded allocation live) with ⟨socket, member, isSocket⟩
    exact present_iff.mpr ⟨socket, mem_append_left _ member, isSocket⟩
  | close id =>
    constructor
    · intro safeAfter allocation live same
      rcases present_iff.mp (safeAfter allocation live) with ⟨socket, member, isSocket⟩
      have different := (mem_filter.mp member).2
      simp [isSocket, same] at different
    · intro keeps allocation live
      rcases present_iff.mp (recorded allocation live) with ⟨socket, member, isSocket⟩
      refine present_iff.mpr ⟨socket, mem_filter.mpr ⟨member, ?_⟩, isSocket⟩
      simpa [isSocket] using keeps allocation live
  | internalPacket packet socket after outputs present effect =>
    refine ⟨fun _ => trivial, fun _ allocation live => ?_⟩
    rcases effect.connections with ⟨sameSockets, connections⟩
    rw [present_iff, sameSockets, ← present_iff]
    rcases connections allocation live with own | ⟨before, beforeLive, same⟩
    · rw [own]
      exact present_of_findSocket present
    · rw [same]
      exact recorded before beforeLive
  | externalPacket id data addr transactionId allocation live =>
    exact ⟨fun _ => trivial, fun _ => recorded⟩
  | allocationTimeout id ended socket found present =>
    constructor
    · intro safeAfter other otherSocket otherFound otherPresent notUdp another live different same
      rw [found] at otherFound
      cases otherFound
      rw [present] at otherPresent
      cases otherPresent
      have remains : another ∈ (server.withoutAllocation ended socket).allocations :=
        mem_filter.mpr ⟨live, by simpa using different⟩
      rcases present_iff.mp (safeAfter another remains) with ⟨kept, member, isKept⟩
      simp only [notUdp, ne_eq, not_false_eq_true, if_true] at member
      have keptDiffers := (mem_filter.mp member).2
      simp [isKept, same] at keptDiffers
    · intro keeps other member
      rcases mem_filter.mp member with ⟨live, different⟩
      rcases present_iff.mp (recorded other live) with ⟨kept, keptMember, isKept⟩
      refine present_iff.mpr ⟨kept, ?_, isKept⟩
      by_cases notUdp : socket.proto ≠ .udp
      · simp only [notUdp, ne_eq, not_false_eq_true, if_true]
        refine mem_filter.mpr ⟨keptMember, ?_⟩
        have apart := keeps ended socket found present notUdp other live (by simpa using different)
        simpa [isKept] using apart
      · simp only [notUdp, if_false]
        exact keptMember
  | permissionTimeout id perm allocation live =>
    refine ⟨fun _ => trivial, fun _ other member => ?_⟩
    rcases mem_update member with rfl | member
    · exact recorded allocation live
    · exact recorded other member
  | channelTimeout id channel allocation live =>
    refine ⟨fun _ => trivial, fun _ other member => ?_⟩
    rcases mem_update member with rfl | member
    · exact recorded allocation live
    · exact recorded other member

theorem reached_connected : Run.reached (next smallServer) (initial []) connected =
    some ⟨0, [⟨7, .tcp, clientAddress, true⟩], [connectedAllocation], 1⟩ := by
  decide +kernel

end TurnServer

end ZyWebRtc.Turn
