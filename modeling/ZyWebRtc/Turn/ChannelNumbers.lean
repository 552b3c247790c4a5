import ZyWebRtc.Turn.Port

namespace ZyWebRtc.Turn

/-! The channel numbers of the entries of a `TurnPort`, over all runs in which connections are
created and destroyed. The counter that they come from never goes back. -/

open List Option Stun Bytes

/-- A connection to an address that no live connection has, and the end of a live one. -/
inductive ConnectionEvent
  | create (newId : Bytes) (conn : ProxyConnection)
  | destroy (conn : ProxyConnection)
  deriving DecidableEq, Repr

def ConnectionEvent.isCreate : ConnectionEvent → Bool
  | create _ _ => true
  | destroy _ => false

namespace TurnPort

/-- There is no step where an assertion fails, or a connection ends that does not live. -/
def step (port : TurnPort) : ConnectionEvent → Option TurnPort
  | .create newId conn => port.createConnection newId conn
  | .destroy conn =>
    if conn ∈ port.connections then port.onConnectionDestroyed conn else none

/-- The channel data of an entry, with padding behind it. -/
def channelPacket (channelId : Nat) (payload padding : Bytes) : Bytes :=
  uint16Bytes (UInt16.ofNat channelId) ++
    (uint16Bytes (UInt16.ofNat payload.length) ++ (payload ++ padding))

/-- Channel data for the entry goes to a live connection to its address. -/
def Serves (port : TurnPort) (entry : TurnEntry) : Prop :=
  ∃ conn ∈ port.connections, conn.remoteAddress.equal entry.extAddr = true ∧
    ∀ settings newId payload padding, payload.length < 65536 →
      port.onReadPacket settings newId (channelPacket entry.channelId payload padding) =
        some (some (.connection conn payload), port)

/-- Every live entry has a channel number of its own, and its data finds its connection. -/
structure ChannelsAssigned (port : TurnPort) : Prop where
  range : ∀ entry ∈ port.entries, 0x4000 ≤ entry.channelId ∧ entry.channelId ≤ 0x7FFF
  distinct : (port.entries.map TurnEntry.channelId).Nodup
  serves : ∀ entry ∈ port.entries, port.Serves entry

/-- The entries have increasing numbers of the counter, and belong to the connections. -/
structure Matched (port : TurnPort) : Prop where
  increasing : (port.entries.map TurnEntry.channelId).Pairwise (· < ·)
  range : ∀ entry ∈ port.entries,
    0x4000 ≤ entry.channelId ∧ entry.channelId < port.nextChannelNumber
  start : 0x4000 ≤ port.nextChannelNumber
  entryKeys : (port.entries.map fun entry => entry.extAddr.key).Nodup
  connKeys : (port.connections.map fun conn => conn.remoteAddress.key).Nodup
  sameKeys : ∀ key, key ∈ (port.entries.map fun entry => entry.extAddr.key) ↔
    key ∈ port.connections.map fun conn => conn.remoteAddress.key

theorem sameKey_iff (first second : SocketAddress) :
    sameKey first second = true ↔ first.key = second.key := by
  have firstLess := SocketAddress.less_iff_key first second
  have secondLess := SocketAddress.less_iff_key second first
  rw [sameKey, Bool.and_eq_true, Bool.not_eq_true', Bool.not_eq_true', ← Bool.not_eq_true,
    ← Bool.not_eq_true, firstLess, secondLess, not_lt, not_lt]
  exact ⟨fun both => le_antisymm both.2 both.1, fun same => ⟨same.ge, same.le⟩⟩

theorem mem_map_erase {Element Image : Type*} [DecidableEq Element] {elements : List Element}
    {image : Element → Image} (nodup : (elements.map image).Nodup) {element : Element}
    (member : element ∈ elements) (value : Image) :
    value ∈ (elements.erase element).map image ↔
      value ∈ elements.map image ∧ value ≠ image element := by
  have perm := (perm_cons_erase member).map image
  have apart := perm.nodup_iff.mp nodup
  rw [map_cons, nodup_cons] at apart
  rw [perm.mem_iff, map_cons, mem_cons]
  constructor
  · intro inside
    refine ⟨.inr inside, ?_⟩
    rintro rfl
    exact apart.1 inside
  · rintro ⟨same | inside, different⟩
    · exact absurd same different
    · exact inside

variable {port : TurnPort} {entry : TurnEntry} {conn : ProxyConnection}

theorem matched_new : Matched new where
  increasing := List.Pairwise.nil
  range := nofun
  start := le_refl _
  entryKeys := nodup_nil
  connKeys := nodup_nil
  sameKeys := fun _ => Iff.rfl

/-! ## Channel data -/

theorem Matched.getConnection (matched : port.Matched) (member : entry ∈ port.entries) :
    ∃ conn ∈ port.connections, conn.remoteAddress.equal entry.extAddr = true ∧
      port.getConnection entry.extAddr = some conn := by
  have keyThere := (matched.sameKeys entry.extAddr.key).mp (List.mem_map_of_mem member)
  rcases List.mem_map.mp keyThere with ⟨there, thereMember, thereKey⟩
  cases found : port.getConnection entry.extAddr with
  | none =>
    have missed := List.find?_eq_none.mp found there thereMember
    exact absurd ((sameKey_iff _ _).mpr thereKey) missed
  | some conn =>
    have chosen : sameKey conn.remoteAddress entry.extAddr = true :=
      List.find?_some (p := fun conn : ProxyConnection =>
        sameKey conn.remoteAddress entry.extAddr) found
    have same := (sameKey_iff _ _).mp chosen
    exact ⟨conn, List.mem_of_find?_eq_some found, (SocketAddress.equal_iff_key _ _).mpr same, rfl⟩

theorem Matched.findEntryOfChannel (matched : port.Matched) (member : entry ∈ port.entries) :
    port.findEntryOfChannel entry.channelId = some entry := by
  cases found : port.findEntryOfChannel entry.channelId with
  | none =>
    have missed := List.find?_eq_none.mp found entry member
    exact absurd (decide_eq_true rfl) missed
  | some other =>
    have chosen := List.find?_some (p := fun other : TurnEntry =>
      other.channelId = entry.channelId) found
    have same : other.channelId = entry.channelId := of_decide_eq_true chosen
    have distinct : (port.entries.map TurnEntry.channelId).Nodup :=
      matched.increasing.imp fun less => Nat.ne_of_lt less
    rw [inj_on_of_nodup_map distinct (List.mem_of_find?_eq_some found) member same]

theorem isTurnChannelData_ofNat {channelId : Nat} (low : 0x4000 ≤ channelId)
    (high : channelId ≤ 0x7FFF) : isTurnChannelData (UInt16.ofNat channelId) = true := by
  rw [isTurnChannelData, decide_eq_true_iff, ← UInt16.toNat_inj, UInt16.toNat_and,
    UInt16.toNat_ofNat', Nat.mod_eq_of_lt (by omega)]
  apply Nat.eq_of_testBit_eq
  intro bit
  change (channelId &&& 49152).testBit bit = (2 ^ 14).testBit bit
  rw [Nat.testBit_and, Nat.testBit_two_pow]
  by_cases lower : bit < 14
  · have mask : ∀ bit < 14, (49152 : Nat).testBit bit = false := by decide
    rw [mask bit lower, Bool.and_false]
    exact (decide_eq_false (by omega)).symm
  by_cases higher : 15 ≤ bit
  · have clear : channelId.testBit bit = false :=
      Nat.testBit_lt_two_pow (lt_of_lt_of_le (Nat.lt_succ_of_le high)
        (Nat.pow_le_pow_right Nat.zero_lt_two higher))
    rw [clear, Bool.false_and]
    exact (decide_eq_false (by omega)).symm
  · obtain rfl : bit = 14 := by omega
    have set : channelId.testBit 14 = true := by
      rw [Nat.testBit_eq_decide_div_mod_eq, decide_eq_true_iff]
      omega
    rw [set]
    rfl

theorem Matched.serves (matched : port.Matched) (member : entry ∈ port.entries)
    (high : entry.channelId ≤ 0x7FFF) : port.Serves entry := by
  rcases matched.getConnection member with ⟨conn, connMember, equal, found⟩
  refine ⟨conn, connMember, equal, fun settings newId payload padding short => ?_⟩
  have low := (matched.range entry member).1
  have channel : (UInt16.ofNat entry.channelId).toNat = entry.channelId := by
    rw [UInt16.toNat_ofNat']
    omega
  have len : (UInt16.ofNat payload.length).toNat = payload.length := by
    rw [UInt16.toNat_ofNat']
    omega
  have typeAt : (channelPacket entry.channelId payload padding).uint16At 0 =
      some (UInt16.ofNat entry.channelId) := uint16At_uint16Bytes _ _
  have lengthAt : (channelPacket entry.channelId payload padding).uint16At 2 =
      some (UInt16.ofNat payload.length) :=
    (uint16At_append (uint16Bytes (UInt16.ofNat entry.channelId)) _ 0).trans
      (uint16At_uint16Bytes _ _)
  have total : (channelPacket entry.channelId payload padding).length =
      4 + payload.length + padding.length := by
    simp only [channelPacket, length_append, uint16Bytes_length]
    omega
  have payloadAt : (channelPacket entry.channelId payload padding).bytesAt 4 payload.length =
      some payload := by
    rw [channelPacket, ← append_assoc]
    exact bytesAt_middle _ _ _
  have long : ¬ (channelPacket entry.channelId payload padding).length <
      TURN_CHANNEL_HEADER_SIZE := by
    rw [total, TURN_CHANNEL_HEADER_SIZE]
    omega
  have enough : ¬ (channelPacket entry.channelId payload padding).length -
      TURN_CHANNEL_HEADER_SIZE < payload.length := by
    rw [total, TURN_CHANNEL_HEADER_SIZE]
    omega
  have delivered : port.onChannelData entry.channelId
      (channelPacket entry.channelId payload padding) = some (some (.connection conn payload)) := by
    rw [onChannelData, lengthAt]
    simp only [bind_eq_bind, bind_some, len, enough, if_false, matched.findEntryOfChannel member]
    rw [TURN_CHANNEL_HEADER_SIZE, payloadAt, bind_some, dispatchPacket, found]
    rfl
  rw [onReadPacket, if_neg long, typeAt]
  simp only [bind_eq_bind, bind_some, isTurnChannelData_ofNat low high, if_true, channel, delivered]
  rfl

theorem Matched.channelsAssigned_iff (matched : port.Matched) :
    port.ChannelsAssigned ↔ ∀ entry ∈ port.entries, entry.channelId ≤ 0x7FFF := by
  constructor
  · exact fun assigned entry member => (assigned.range entry member).2
  · intro high
    exact {
      range := fun entry member => ⟨(matched.range entry member).1, high entry member⟩
      distinct := matched.increasing.imp fun less => Nat.ne_of_lt less
      serves := fun entry member => matched.serves member (high entry member) }

/-! ## Steps -/

theorem findEntry_eq_none {addr : SocketAddress} (none : port.findEntry addr = none) :
    addr.key ∉ port.entries.map fun entry => entry.extAddr.key := by
  intro inside
  rcases List.mem_map.mp inside with ⟨entry, member, same⟩
  exact List.find?_eq_none.mp none entry member ((SocketAddress.equal_iff_key _ _).mpr same)

theorem Matched.createConnection (matched : port.Matched) {newId : Bytes} {next : TurnPort}
    (created : port.createConnection newId conn = some next) :
    next.Matched ∧ next.nextChannelNumber = port.nextChannelNumber + 1 ∧
      next.entries = port.entries ++ [{
        channelId := port.nextChannelNumber, extAddr := conn.remoteAddress, state := .unbound }] := by
  rw [TurnPort.createConnection, createEntry] at created
  cases found : port.findEntry conn.remoteAddress with
  | some entry =>
    rw [found] at created
    cases created
  | none =>
    rw [found] at created
    have newKey := findEntry_eq_none found
    have newConnKey : conn.remoteAddress.key ∉
        port.connections.map fun conn => conn.remoteAddress.key :=
      fun inside => newKey ((matched.sameKeys _).mpr inside)
    have kept : (port.connections.filter fun other =>
        !sameKey other.remoteAddress conn.remoteAddress) = port.connections := by
      rw [filter_eq_self]
      intro other member
      rw [Bool.not_eq_true']
      by_contra same
      rw [Bool.not_eq_false, sameKey_iff] at same
      exact newConnKey (same ▸ List.mem_map_of_mem member)
    have connections : next.connections = conn :: port.connections := by
      cases created
      change conn :: port.connections.filter _ = _
      rw [kept]
    have entries : next.entries = port.entries ++ [{
        channelId := port.nextChannelNumber, extAddr := conn.remoteAddress,
        state := .unbound }] := by
      cases created
      rfl
    have number : next.nextChannelNumber = port.nextChannelNumber + 1 := by
      cases created
      rfl
    refine ⟨?_, number, entries⟩
    exact {
      increasing := by
        rw [entries, map_append, pairwise_append]
        refine ⟨matched.increasing, pairwise_singleton _ _, ?_⟩
        intro earlier earlierMember later laterMember
        rcases List.mem_map.mp earlierMember with ⟨entry, member, same⟩
        rw [mem_singleton.mp laterMember, ← same]
        exact (matched.range entry member).2
      range := by
        intro entry member
        rw [number]
        rw [entries] at member
        rcases mem_append.mp member with earlier | last
        · have range := matched.range entry earlier
          exact ⟨range.1, Nat.lt_succ_of_lt range.2⟩
        · rw [mem_singleton.mp last]
          exact ⟨matched.start, Nat.lt_succ_self _⟩
      start := number ▸ Nat.le_succ_of_le matched.start
      entryKeys := by
        rw [entries, map_append]
        apply List.Nodup.append matched.entryKeys (nodup_singleton _)
        intro key earlier last
        rw [mem_singleton.mp last] at earlier
        exact newKey earlier
      connKeys := by
        rw [connections, map_cons, nodup_cons]
        exact ⟨newConnKey, matched.connKeys⟩
      sameKeys := by
        intro key
        rw [entries, connections, map_append, mem_append, map_cons, mem_cons,
          matched.sameKeys key, or_comm]
        simp }

/-- The end of a connection takes its entry away. -/
theorem Matched.onConnectionDestroyed (matched : port.Matched)
    (member : conn ∈ port.connections) {next : TurnPort}
    (destroyed : port.onConnectionDestroyed conn = some next) :
    next.Matched ∧ next.nextChannelNumber = port.nextChannelNumber ∧
      ∃ entry ∈ port.entries, next.entries = port.entries.erase entry := by
  have keyThere := (matched.sameKeys conn.remoteAddress.key).mpr (List.mem_map_of_mem member)
  rw [TurnPort.onConnectionDestroyed, destroyEntry] at destroyed
  cases found : port.findEntry conn.remoteAddress with
  | none => exact absurd keyThere (findEntry_eq_none found)
  | some entry =>
    have entryMember := List.mem_of_find?_eq_some found
    have entryKey : entry.extAddr.key = conn.remoteAddress.key :=
      (SocketAddress.equal_iff_key _ _).mp
        (List.find?_some (p := fun entry : TurnEntry =>
          entry.extAddr.equal conn.remoteAddress) found)
    have gone : port.getConnection conn.remoteAddress = some conn := by
      cases foundConn : port.getConnection conn.remoteAddress with
      | none =>
        have missed := List.find?_eq_none.mp foundConn conn member
        exact absurd ((sameKey_iff _ _).mpr rfl) missed
      | some other =>
        have chosen := List.find?_some (p := fun other : ProxyConnection =>
          sameKey other.remoteAddress conn.remoteAddress) foundConn
        rw [inj_on_of_nodup_map matched.connKeys (List.mem_of_find?_eq_some foundConn) member
          ((sameKey_iff _ _).mp chosen)]
    rw [found] at destroyed
    simp only [bind_eq_bind, bind_some, Option.pure_def] at destroyed
    have goneHere : TurnPort.getConnection conn.remoteAddress { port with
        requests := port.requests.map fun pending =>
          (pending.1, pending.2.onEntryDestroyed entry.channelId)
        entries := port.entries.erase entry } = some conn := gone
    rw [goneHere, bind_some] at destroyed
    cases destroyed
    refine ⟨?_, rfl, entry, entryMember, rfl⟩
    have sub : (port.entries.erase entry).Sublist port.entries := erase_sublist
    exact {
      increasing := matched.increasing.sublist (sub.map _)
      range := fun other otherMember => matched.range other (sub.subset otherMember)
      start := matched.start
      entryKeys := matched.entryKeys.sublist (sub.map _)
      connKeys := matched.connKeys.sublist (erase_sublist.map _)
      sameKeys := by
        intro key
        rw [mem_map_erase matched.entryKeys entryMember, mem_map_erase matched.connKeys member,
          matched.sameKeys key, entryKey] }

def NumberLeft (port : TurnPort) : ConnectionEvent → Prop
  | .create _ _ => port.nextChannelNumber ≤ 0x7FFF
  | .destroy _ => True

theorem step_matched {event : ConnectionEvent} {next : TurnPort} (matched : port.Matched)
    (stepped : port.step event = some next) :
    next.Matched ∧ (port.ChannelsAssigned → (next.ChannelsAssigned ↔ port.NumberLeft event)) := by
  cases event with
  | create newId conn =>
    rcases matched.createConnection stepped with ⟨matchedNext, -, entries⟩
    refine ⟨matchedNext, fun assigned => ?_⟩
    rw [matchedNext.channelsAssigned_iff, entries, NumberLeft]
    rw [matched.channelsAssigned_iff] at assigned
    constructor
    · intro high
      exact high _ (mem_append_right _ (mem_singleton.mpr rfl))
    · intro left entry member
      rcases mem_append.mp member with earlier | last
      · exact assigned entry earlier
      · rw [mem_singleton.mp last]
        exact left
  | destroy conn =>
    rw [step] at stepped
    split at stepped
    · next live =>
        rcases matched.onConnectionDestroyed live stepped with
          ⟨matchedNext, -, entry, member, entries⟩
        refine ⟨matchedNext, fun assigned => iff_of_true ?_ trivial⟩
        rw [matchedNext.channelsAssigned_iff, entries]
        rw [matched.channelsAssigned_iff] at assigned
        exact fun other otherMember => assigned other (mem_of_mem_erase otherMember)
    · cases stepped

/-! ## Runs -/

theorem permitted_iff_creates {events : List ConnectionEvent} {last : TurnPort}
    (matched : port.Matched) (possible : Run.reached step port events = some last) :
    Run.Permitted step NumberLeft port events ↔ events.countP ConnectionEvent.isCreate = 0 ∨
        port.nextChannelNumber + events.countP ConnectionEvent.isCreate ≤ 0x8000 := by
  induction events generalizing port with
  | nil => exact iff_of_true trivial (.inl rfl)
  | cons event rest induction =>
    simp only [Run.reached, bind_eq_bind, bind_eq_some_iff] at possible
    rcases possible with ⟨next, stepped, onwards⟩
    have later := induction (step_matched matched stepped).1 onwards
    have permitted : Run.Permitted step NumberLeft port (event :: rest) ↔
        port.NumberLeft event ∧ Run.Permitted step NumberLeft next rest := by
      rw [Run.Permitted, stepped]
      simp
    rw [permitted, later]
    cases event with
    | create newId conn =>
      have number := (matched.createConnection stepped).2.1
      rw [NumberLeft, number, countP_cons_of_pos rfl]
      omega
    | destroy conn =>
      have number : next.nextChannelNumber = port.nextChannelNumber := by
        rw [step] at stepped
        split at stepped
        · next live => exact (matched.onConnectionDestroyed live stepped).2.1
        · cases stepped
      rw [NumberLeft, number, countP_cons_of_neg (by exact Bool.false_ne_true), true_and]

theorem channelsAssigned_new : ChannelsAssigned new :=
  matched_new.channelsAssigned_iff.mpr nofun

/-- In all states of a run every live entry has a channel number of its own from the range, under
which its connection gets its data, exactly if no more connections were created than there are
numbers. -/
theorem channelsAssigned_iff_creates {events : List ConnectionEvent} {last : TurnPort}
    (possible : Run.reached step new events = some last) :
    (∀ count middle, Run.reached step new (events.take count) = some middle →
      middle.ChannelsAssigned) ↔ events.countP ConnectionEvent.isCreate ≤ 0x4000 := by
  have runs := Run.good_iff_permitted_of_reached step
    (fun _ _ _ matched stepped => step_matched matched stepped) matched_new channelsAssigned_new
    possible
  rw [runs, permitted_iff_creates matched_new possible]
  change _ ∨ 0x4000 + _ ≤ 0x8000 ↔ _
  omega

def firstPeer : ProxyConnection := ⟨1, [], .ipv4 0xC6336401, 7000⟩

def secondPeer : ProxyConnection := ⟨2, [], .ipv4 0xC6336402, 7000⟩

def twoPeers : List ConnectionEvent :=
  [.create [1] firstPeer, .create [2] secondPeer, .destroy firstPeer, .create [3] firstPeer]

theorem channelsAssigned_twoPeers :
    (Run.reached step new twoPeers).isSome ∧
      ∀ count middle, Run.reached step new (twoPeers.take count) = some middle →
        middle.ChannelsAssigned := by
  have possible : (Run.reached step new twoPeers).isSome := by decide +kernel
  rcases isSome_iff_exists.mp possible with ⟨last, reached⟩
  exact ⟨possible, (channelsAssigned_iff_creates reached).mpr (by decide)⟩

/-- A connection to one peer is created and destroyed again and again. -/
def churn : Nat → List ConnectionEvent
  | 0 => []
  | rounds + 1 => .create [] firstPeer :: .destroy firstPeer :: churn rounds

theorem reached_churn (rounds : Nat) {start : TurnPort} (noEntries : start.entries = [])
    (noConnections : start.connections = []) :
    ∃ last, Run.reached step start (churn rounds) = some last ∧ last.entries = [] ∧
      last.connections = [] ∧ last.nextChannelNumber = start.nextChannelNumber + rounds := by
  induction rounds generalizing start with
  | zero => exact ⟨start, rfl, noEntries, noConnections, rfl⟩
  | succ rounds induction =>
    have itself : firstPeer.remoteAddress.equal firstPeer.remoteAddress = true := by decide
    have sameKeys : sameKey firstPeer.remoteAddress firstPeer.remoteAddress = true := by decide
    have created : step start (ConnectionEvent.create [] firstPeer) =
        some ((start.addEntry [] firstPeer.remoteAddress).addConnection firstPeer) := by
      simp [step, createConnection, createEntry, findEntry, noEntries]
    let middle := (start.addEntry [] firstPeer.remoteAddress).addConnection firstPeer
    have entries : middle.entries =
        [⟨start.nextChannelNumber, firstPeer.remoteAddress, .unbound⟩] := by
      change start.entries ++ _ = _
      rw [noEntries]
      rfl
    have connections : middle.connections = [firstPeer] := by
      change firstPeer :: start.connections.filter _ = _
      rw [noConnections]
      rfl
    have destroyed : ∃ next, step middle (ConnectionEvent.destroy firstPeer) = some next ∧
        next.entries = [] ∧ next.connections = [] ∧
        next.nextChannelNumber = start.nextChannelNumber + 1 := by
      simp [step, onConnectionDestroyed, destroyEntry, findEntry, getConnection, entries,
        connections, itself, sameKeys]
      rfl
    rcases destroyed with ⟨next, stepped, nextEntries, nextConnections, number⟩
    rcases induction nextEntries nextConnections with ⟨last, onwards, ends⟩
    refine ⟨last, ?_, ends.1, ends.2.1, by rw [ends.2.2, number]; omega⟩
    rw [churn, Run.reached, created]
    change (do
      let next ← step middle (ConnectionEvent.destroy firstPeer)
      Run.reached step next (churn rounds)) = some last
    rw [stepped]
    exact onwards

theorem not_channelsAssigned_churn :
    ¬ (∀ count middle, Run.reached step new
      ((churn 0x4000 ++ [ConnectionEvent.create [] firstPeer]).take count) = some middle →
        middle.ChannelsAssigned) := by
  intro always
  have fromNew := @reached_churn 0x4000 new rfl rfl
  rcases fromNew with ⟨last, run, noEntries, noConnections, number⟩
  have created : step last (ConnectionEvent.create [] firstPeer) =
      some ((last.addEntry [] firstPeer.remoteAddress).addConnection firstPeer) := by
    simp [step, createConnection, createEntry, findEntry, noEntries]
  have assigned := always (churn 0x4000 ++ [ConnectionEvent.create [] firstPeer]).length
    ((last.addEntry [] firstPeer.remoteAddress).addConnection firstPeer) (by
      rw [take_length, Run.reached_append, run]
      change (do
        let next ← step last (ConnectionEvent.create [] firstPeer)
        Run.reached step next []) = _
      rw [created]
      rfl)
  have range := assigned.range ⟨last.nextChannelNumber, firstPeer.remoteAddress, .unbound⟩
    (mem_append_right _ (mem_singleton.mpr rfl))
  have high := range.2
  rw [number] at high
  exact absurd high (by decide)

end TurnPort

end ZyWebRtc.Turn
