import ZyWebRtc.Stun.TcpFraming
import ZyWebRtc.Turn.ChannelNumbers
import ZyWebRtc.Turn.Permissions

namespace ZyWebRtc.Turn

/-! The payload of ChannelData messages, from the client that sends one over the server to the
peer.

The client looks at the length field of what it receives, and so does the framing of a TCP
connection. The server does not: it relays everything behind the header. -/

open List Option Stun StunMessage Bytes

/-- The first bytes behind the header, as many as the length field says. There is no value where
the message is shorter. -/
def channelPayload (data : Bytes) : Option Bytes := do
  let len ← data.uint16At 2
  data.bytesAt TURN_CHANNEL_HEADER_SIZE len.toNat

example : channelPayload [0x40, 0, 0, 1, 7, 0, 0, 0] = some [7] := by decide

example : channelPayload [0x40, 0, 0, 2, 7] = none := by decide

/-- The message ends where its length field says. -/
def EndsAtLength (data : Bytes) : Prop :=
  ∃ len, data.uint16At 2 = some len ∧ data.length = TURN_CHANNEL_HEADER_SIZE + len.toNat

/-- The socket of a TCP connection signals the packet at some read event. -/
def Signalled (data : Bytes) : Prop :=
  ∃ received inBuffer packets rest, onReadEvent received inBuffer = some (packets, rest) ∧
    data ∈ packets

namespace TurnPort

def setBinding (channelId : Nat) (port : TurnPort) : TurnPort :=
  { port with
    entries := port.entries.map fun entry : TurnEntry =>
      if entry.channelId = channelId then { entry with state := .binding } else entry }

/-- `TurnEntry::Send`: the bytes for the server. An entry without a bound channel asks for one
when it sends a payload. -/
def sendFromEntry (newId transactionId : Bytes) (entry : TurnEntry) (data : Bytes)
    (payload : Bool) (port : TurnPort) : Option (Bytes × TurnPort) :=
  if entry.state = .bound then
    some (uint16Bytes (UInt16.ofNat entry.channelId) ++
      (uint16Bytes (UInt16.ofNat data.length) ++ data), port)
  else do
    let bytes ← (((StunMessage.new .turnMessage TURN_SEND_INDICATION transactionId).add
      STUN_ATTR_XOR_PEER_ADDRESS (.xorAddress entry.extAddr.ip entry.extAddr.port)).add
        STUN_ATTR_DATA (.byteString data)).write
    if entry.state = .unbound ∧ payload then
      pure (bytes, (port.sendRequest newId (.channelBind (some entry.channelId))).setBinding
        entry.channelId)
    else pure (bytes, port)

end TurnPort

namespace TurnServer

/-- The packet is a ChannelData message, and its number that of a channel of the allocation that
is found for it. -/
structure NamesChannel (server : TurnServer) (packet : InternalPacket) (socket : InternalSocket)
    (allocation : Allocation) (channel : Channel) : Prop where
  header : TURN_CHANNEL_HEADER_SIZE ≤ packet.data.length
  found : server.findAllocation ⟨packet.addr, socket.remoteAddress, socket.proto, socket.id⟩
    packet.found = some (some allocation)
  bound : ∃ number, packet.data.uint16At 0 = some number ∧ isTurnChannelData number = true ∧
    allocation.findChannel number.toNat = some channel

/-- A packet for a channel leaves the server as it is, and its payload, or nothing when the
message is too short, goes to the peer. -/
def RelaysPayload (settings : Settings) (server : TurnServer) (packet : InternalPacket) : Prop :=
  ∀ socket allocation channel, server.findSocket packet.socket = some socket →
    server.NamesChannel packet socket allocation channel →
      ∀ outcome, server.onInternalPacket settings packet = some outcome →
        outcome = (server, ((channelPayload packet.data).map
          (Output.external allocation.id channel.peer)).toList)

variable {settings : Settings} {server : TurnServer} {packet : InternalPacket}
  {socket : InternalSocket} {allocation : Allocation} {channel : Channel}

theorem NamesChannel.onInternalPacket (names : server.NamesChannel packet socket allocation channel)
    (found : server.findSocket packet.socket = some socket)
    (origin : ¬ (socket.accepted ∧ packet.addr ≠ socket.remoteAddress)) :
    server.onInternalPacket settings packet = some (server,
      [.external allocation.id channel.peer (packet.data.drop TURN_CHANNEL_HEADER_SIZE)]) := by
  rcases names.bound with ⟨number, numberAt, isData, channelFound⟩
  rw [TurnServer.onInternalPacket, found]
  simp only [bind_eq_bind, bind_some, if_neg origin, if_neg names.header.not_gt,
    numberAt, names.found, isData, if_true, Option.pure_def, Allocation.handleChannelData,
    channelFound]

theorem origin_of_outcome {outcome : TurnServer × List Output}
    (found : server.findSocket packet.socket = some socket)
    (stepped : server.onInternalPacket settings packet = some outcome) :
    ¬ (socket.accepted ∧ packet.addr ≠ socket.remoteAddress) := by
  intro foreign
  rw [TurnServer.onInternalPacket, found, bind_eq_bind, bind_some, if_pos foreign] at stepped
  cases stepped

end TurnServer

theorem channelPayload_eq_drop_iff {data : Bytes}
    (header : TURN_CHANNEL_HEADER_SIZE ≤ data.length) :
    channelPayload data = some (data.drop TURN_CHANNEL_HEADER_SIZE) ↔ EndsAtLength data := by
  rcases exists_uint16At (show 2 + 2 ≤ data.length from header) with ⟨len, lengthAt⟩
  constructor
  · intro same
    refine ⟨len, lengthAt, ?_⟩
    rw [channelPayload, lengthAt] at same
    simp only [bind_eq_bind, bind_some, bytesAt] at same
    split at same
    · next inside =>
        have lengths := congrArg List.length (Option.some.inj same)
        rw [length_take, length_drop] at lengths
        omega
    · cases same
  · rintro ⟨other, otherAt, total⟩
    rw [lengthAt] at otherAt
    cases otherAt
    rw [channelPayload, lengthAt]
    simp only [bind_eq_bind, bind_some]
    rw [bytesAt_inside (by omega), take_of_length_le]
    rw [length_drop]
    omega

theorem processInput_complete {iterations : Nat} :
    ∀ {data rest : Bytes} {packets : List Bytes},
      processInput iterations data = some (packets, rest) →
        ∀ message ∈ packets, Complete message := by
  induction iterations with
  | zero => exact fun result => nomatch result
  | succ iterations induction =>
    intro data rest packets result
    rw [processInput] at result
    by_cases short : data.length < 4
    · rw [if_pos short] at result
      cases result
      rintro message ⟨⟩
    rw [if_neg short] at result
    rcases exists_getExpectedLength (not_lt.mp short) with ⟨expectedPktLen, padBytes, expected⟩
    have bounds := getExpectedLength_bounds expected
    rw [expected] at result
    simp only [bind_eq_bind, bind_some] at result
    by_cases fewer : data.length < expectedPktLen + padBytes
    · rw [if_pos fewer] at result
      cases result
      rintro message ⟨⟩
    rw [if_neg fewer, bind_eq_some_iff] at result
    rcases result with ⟨⟨others, after⟩, resultAfter, same⟩
    cases same
    intro message member
    rcases mem_cons.mp member with rfl | member
    · have length : (data.take expectedPktLen).length = expectedPktLen := by
        rw [length_take]
        omega
      refine ⟨padBytes, ?_⟩
      rw [length, ← expected, ← getExpectedLength_append (by omega)
        (data.drop expectedPktLen), take_append_drop]
    · exact induction resultAfter message member

theorem Signalled.complete {data : Bytes} (signalled : Signalled data) : Complete data := by
  rcases signalled with ⟨received, inBuffer, packets, rest, result, member⟩
  rw [onReadEvent, bind_eq_bind, bind_eq_some_iff] at result
  rcases result with ⟨⟨others, after⟩, processed, same⟩
  cases same
  exact processInput_complete processed data member

theorem complete_iff_endsAtLength {data : Bytes} {number : UInt16}
    (numberAt : data.uint16At 0 = some number) (isData : isTurnChannelData number = true) :
    Complete data ↔ EndsAtLength data := by
  have notStun : ¬ number &&& 0xC000 = 0 := by
    rw [of_decide_eq_true isData]
    decide
  constructor
  · rintro ⟨padBytes, expected⟩
    rw [getExpectedLength, numberAt, bind_eq_bind, bind_eq_some_iff] at expected
    rcases expected with ⟨len, lengthAt, same⟩
    rw [bind_some, expectedLength, if_neg notStun] at same
    exact ⟨len, lengthAt, (congrArg Prod.fst (Option.some.inj same)).symm⟩
  · rintro ⟨len, lengthAt, total⟩
    refine ⟨(expectedLength number len).2, ?_⟩
    rw [getExpectedLength, numberAt, lengthAt]
    change some (expectedLength number len) = _
    rw [expectedLength, if_neg notStun, total]
    rfl

/-! ## From the client to the peer -/

section Sent

variable {port : TurnPort} {newId transactionId payload : Bytes} {entry : TurnEntry}

theorem sendFromEntry_bound (bound : entry.state = .bound) (isPayload : Bool) :
    port.sendFromEntry newId transactionId entry payload isPayload =
      some (TurnPort.channelPacket entry.channelId payload [], port) := by
  rw [TurnPort.sendFromEntry, if_pos bound, TurnPort.channelPacket, append_nil]

theorem channelPacket_drop (channelId : Nat) (padding : Bytes) :
    (TurnPort.channelPacket channelId payload padding).drop TURN_CHANNEL_HEADER_SIZE =
      payload ++ padding := rfl

theorem channelPacket_endsAtLength (channelId : Nat) (short : payload.length < 65536) :
    EndsAtLength (TurnPort.channelPacket channelId payload []) := by
  refine ⟨UInt16.ofNat payload.length, ?_, ?_⟩
  · exact (uint16At_append (uint16Bytes (UInt16.ofNat channelId)) _ 0).trans
      (uint16At_uint16Bytes _ _)
  · rw [UInt16.toNat_ofNat', Nat.mod_eq_of_lt short, TURN_CHANNEL_HEADER_SIZE]
    simp only [TurnPort.channelPacket, length_append, uint16Bytes_length, append_nil]
    omega

end Sent

theorem send_signalled {message : Bytes} (complete : Complete message) {room : Nat}
    (enough : (framed message).length ≤ room) :
    Stun.send message (some room) [] = some ((message.length : Int), framed message, []) ∧
      onReadEvent (framed message) [] = some ([message], []) := by
  rcases complete.framed_length with ⟨padBytes, expected, same, total⟩
  have bounds := getExpectedLength_bounds expected
  constructor
  · have size : ¬ (kTcpBufSize < message.length ∨ message.length < 4) := by omega
    have room₁ : message.length < kTcpBufSize := by omega
    have room₂ : message.length + padBytes < kTcpBufSize := by omega
    have status : ¬ (min (room : Int) (framed message).length ≤ 0) := by omega
    rw [Stun.send, if_neg size, expected]
    simp only [bind_eq_bind, bind_some, ne_eq, not_true_eq_false, if_false,
      appendToOutBuffer, length_nil, Nat.zero_add, nil_append, room₁, if_true,
      length_replicate, room₂, ← same, flushOutBuffer, status, take_of_length_le enough,
      drop_of_length_le enough]
    rfl
  · have processed : processInput ((framed message).length + 1) (framed message) =
        some ([message], []) := by
      have step := processInput_framed complete [] (framed message).length
      rw [append_nil] at step
      obtain ⟨fewer, isSucc⟩ : ∃ fewer, (framed message).length = fewer + 1 :=
        ⟨(framed message).length - 1, by omega⟩
      rw [step, isSucc, processInput_unfinished (.inl (by decide))]
      rfl
    rw [onReadEvent, nil_append]
    simp only [processed, bind_eq_bind, bind_some]
    rfl

namespace TurnServer

/-- What an entry with a bound channel sends comes to the peer when it comes to the server, and
a TCP connection brings it there if its length fits into the header. -/
def RelaysSent (settings : Settings) (server : TurnServer) (entry : TurnEntry) (payload : Bytes) :
    Prop :=
  ∀ port newId transactionId isPayload, ∃ bytes,
    TurnPort.sendFromEntry newId transactionId entry payload isPayload port = some (bytes, port) ∧
      (∀ packet socket allocation channel, packet.data = bytes →
        server.findSocket packet.socket = some socket →
          server.NamesChannel packet socket allocation channel →
            ∀ outcome, server.onInternalPacket settings packet = some outcome →
              outcome = (server, [.external allocation.id channel.peer payload])) ∧
      (isTurnChannelData (UInt16.ofNat entry.channelId) = true → payload.length < 65536 →
        ∀ room, (framed bytes).length ≤ room → ∃ stream,
          Stun.send bytes (some room) [] = some ((bytes.length : Int), stream, []) ∧
            onReadEvent stream [] = some ([bytes], []))

variable {settings : Settings} {server : TurnServer} {packet : InternalPacket}
  {socket : InternalSocket}

theorem relaysSent {entry : TurnEntry} (bound : entry.state = .bound) (payload : Bytes) :
    server.RelaysSent settings entry payload := by
  intro port newId transactionId isPayload
  refine ⟨_, sendFromEntry_bound bound isPayload, ?_, ?_⟩
  · intro packet socket allocation channel same found names outcome stepped
    rw [names.onInternalPacket found (origin_of_outcome found stepped), same, channelPacket_drop,
      append_nil] at stepped
    exact (Option.some.inj stepped).symm
  · intro isData short room enough
    have numberAt : (TurnPort.channelPacket entry.channelId payload []).uint16At 0 =
        some (UInt16.ofNat entry.channelId) := uint16At_uint16Bytes _ _
    have complete := (complete_iff_endsAtLength numberAt isData).mpr
      (channelPacket_endsAtLength entry.channelId short)
    exact ⟨_, send_signalled complete enough⟩

/-- The payload of a message for a channel is what goes to the peer exactly if the message ends at
its length, which every one does that comes over TCP; and what a client sends on a bound channel
comes to the peer. -/
theorem relaysPayload_iff (found : server.findSocket packet.socket = some socket)
    (arrived : socket.accepted = true → Signalled packet.data) :
    (server.RelaysPayload settings packet ↔ (socket.accepted = false →
      ∀ allocation channel, server.NamesChannel packet socket allocation channel →
        EndsAtLength packet.data)) ∧
    ∀ entry : TurnEntry, entry.state = .bound → ∀ payload,
      server.RelaysSent settings entry payload := by
  refine ⟨⟨?_, ?_⟩, fun entry bound payload => relaysSent bound payload⟩
  · intro relays notAccepted allocation channel names
    have origin : ¬ (socket.accepted ∧ packet.addr ≠ socket.remoteAddress) := by
      rw [notAccepted]
      exact fun foreign => nomatch foreign.1
    have outcome := relays socket allocation channel found names _
      (names.onInternalPacket found origin)
    rw [← channelPayload_eq_drop_iff names.header]
    cases payload : channelPayload packet.data with
    | none =>
      rw [payload] at outcome
      cases outcome
    | some bytes =>
      rw [payload] at outcome
      cases outcome
      rfl
  · intro ends other allocation channel otherFound names outcome stepped
    rw [found] at otherFound
    cases otherFound
    have endsHere : EndsAtLength packet.data := by
      cases accepted : socket.accepted with
      | false => exact ends accepted allocation channel names
      | true =>
        rcases names.bound with ⟨number, numberAt, isData, -⟩
        exact (complete_iff_endsAtLength numberAt isData).mp (arrived accepted).complete
    rw [names.onInternalPacket found (origin_of_outcome found stepped)] at stepped
    rw [(channelPayload_eq_drop_iff names.header).mpr endsHere]
    exact (Option.some.inj stepped).symm

def udpSocket : InternalSocket := ⟨3, .udp, ⟨[], .ipv4 0xC0000201, 3478⟩, false⟩

/-- A client gets an allocation over UDP and binds a channel to a peer. -/
def boundOverUdp : List Event :=
  [.internalPacket ⟨3, allocateRequest (smallNonce 0), [], clientAddress, none, some relayAddress⟩,
    .internalPacket ⟨3, smallRequest TURN_CHANNEL_BIND_REQUEST (smallNonce 0)
      [⟨STUN_ATTR_CHANNEL_NUMBER, .uint32 0x40000000⟩,
        ⟨STUN_ATTR_XOR_PEER_ADDRESS, .xorAddress Monitored.peerAddress.ip
          Monitored.peerAddress.port⟩], [], clientAddress, some 0, none⟩]

def udpAllocation : Allocation :=
  { id := 0
    conn := ⟨clientAddress, udpSocket.remoteAddress, .udp, 3⟩
    key := [7]
    externalAddress := relayAddress
    transactionId := List.replicate 12 1
    username := ascii "u"
    lastNonce := smallNonce 0
    timers := [600000]
    perms := [⟨Monitored.peerAddress.ip, 0⟩]
    channels := [⟨0x4000, Monitored.peerAddress, 0⟩] }

def udpServer : TurnServer := ⟨0, [udpSocket], [udpAllocation], 1⟩

/-- One byte of data on the channel, with padding behind it. -/
def channelDatagram (padding : Bytes) : InternalPacket :=
  ⟨3, [0x40, 0, 0, 1, 9] ++ padding, [], clientAddress, some 0, none⟩

theorem namesChannel_datagram (padding : Bytes) :
    udpServer.NamesChannel (channelDatagram padding) udpSocket udpAllocation
      ⟨0x4000, Monitored.peerAddress, 0⟩ where
  header := by
    simp only [channelDatagram, length_append, length_cons, length_nil, TURN_CHANNEL_HEADER_SIZE]
    omega
  found := show udpServer.findAllocation ⟨clientAddress, udpSocket.remoteAddress, .udp, 3⟩
    (some 0) = some (some udpAllocation) by decide +kernel
  bound := ⟨0x4000, rfl, by decide, by decide⟩

theorem relaysPayload_datagram :
    udpServer.RelaysPayload smallServer (channelDatagram []) := by
  have found : udpServer.findSocket (channelDatagram []).socket = some udpSocket := rfl
  have arrived : udpSocket.accepted = true → Signalled (channelDatagram []).data := nofun
  exact (relaysPayload_iff found arrived).1.mpr fun _ _ _ _ => ⟨1, by decide, by decide⟩

/-- The padding of the datagram is sent to the peer. -/
theorem not_relaysPayload_padded :
    Run.reached (next smallServer) (initial [udpSocket]) boundOverUdp = some udpServer ∧
      ¬ udpServer.RelaysPayload smallServer (channelDatagram [0, 0, 0]) := by
  refine ⟨by decide +kernel, fun relays => ?_⟩
  have outcome := relays udpSocket udpAllocation _ rfl (namesChannel_datagram [0, 0, 0])
    (udpServer, [.external 0 Monitored.peerAddress [9, 0, 0, 0]]) (by decide +kernel)
  revert outcome
  decide

end TurnServer

end ZyWebRtc.Turn
