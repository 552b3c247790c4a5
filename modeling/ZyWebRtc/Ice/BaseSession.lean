import ZyWebRtc.Ice.Port

namespace ZyWebRtc.Ice

/-! A session with its transports, their channels and the ports: how the ICE role gets to each of
them. Ports are known by numbers. -/

open Stun

structure IceCredentials where
  iceUfrag : Bytes
  icePwd : Bytes
  deriving DecidableEq, Repr

/-- A `P2PTransportChannel`, with the ports of its newest allocator session and with the port of
each of its connections. -/
structure SessionChannel where
  component : Nat
  iceUfrag : Bytes
  icePwd : Bytes
  waitingForSignaling : Bool
  allocatorSessions : Nat
  iceRole : IceRole
  tiebreaker : UInt64
  ports : List Nat
  connections : List Nat
  deriving DecidableEq, Repr

namespace SessionChannel

def new (component : Nat) : SessionChannel where
  component := component
  iceUfrag := []
  icePwd := []
  waitingForSignaling := false
  allocatorSessions := 0
  iceRole := .unknown
  tiebreaker := 0
  ports := []
  connections := []

variable (channel : SessionChannel)

def allocate : SessionChannel :=
  { channel with waitingForSignaling := true }

def connect : SessionChannel :=
  if channel.iceUfrag = [] ∨ channel.icePwd = [] then channel else channel.allocate

/-- New credentials restart the gathering of candidates. -/
def setIceCredentials (credentials : IceCredentials) :
    SessionChannel :=
  let iceRestart := channel.iceUfrag ≠ [] ∧ channel.icePwd ≠ [] ∧
    (channel.iceUfrag ≠ credentials.iceUfrag ∨ channel.icePwd ≠ credentials.icePwd)
  let changed := { channel with
    iceUfrag := credentials.iceUfrag
    icePwd := credentials.icePwd }
  if iceRestart then changed.allocate else changed

def setIceTiebreaker (tiebreaker : UInt64) : SessionChannel :=
  if channel.ports = [] then { channel with tiebreaker } else channel

/-- The ports of the sessions before the new one are forgotten. -/
def addAllocatorSession : SessionChannel :=
  { channel with allocatorSessions := channel.allocatorSessions + 1, ports := [] }

def onSignalingReady : SessionChannel :=
  if channel.waitingForSignaling then
    { channel with waitingForSignaling := false }.addAllocatorSession
  else channel

def setIceRole (role : IceRole) : SessionChannel :=
  if channel.iceRole ≠ role then { channel with iceRole := role } else channel

def told (role : IceRole) : List Nat :=
  if channel.iceRole ≠ role then channel.ports else []

end SessionChannel

structure Transport where
  iceRole : IceRole
  tiebreaker : UInt64
  connectRequested : Bool
  localDescription : Option IceCredentials
  channels : List SessionChannel
  deriving DecidableEq, Repr

namespace Transport

/-- `Transport::Transport`. -/
def new : Transport where
  iceRole := .unknown
  tiebreaker := 0
  connectRequested := false
  localDescription := none
  channels := []

section

variable (transport : Transport)

def mapChannels (change : SessionChannel → SessionChannel) : Transport :=
  { transport with channels := transport.channels.map change }

def setIceRole (transport : Transport) (role : IceRole) : Transport :=
  { transport with iceRole := role }.mapChannels (·.setIceRole role)

def told (transport : Transport) (role : IceRole) : List Nat :=
  transport.channels.flatMap (·.told role)

def setIceTiebreaker (transport : Transport) (tiebreaker : UInt64) : Transport :=
  { transport with tiebreaker }.mapChannels (·.setIceTiebreaker tiebreaker)

def newChannel (component : Nat) : SessionChannel :=
  let fresh := ((SessionChannel.new component).setIceRole transport.iceRole).setIceTiebreaker
    transport.tiebreaker
  let described :=
    match transport.localDescription with
    | some credentials => fresh.setIceCredentials credentials
    | none => fresh
  if transport.connectRequested then described.connect else described

/-- `CreateChannel`, which does not create one that exists. -/
def createChannel (component : Nat) : Transport :=
  if transport.channels.any (·.component = component) then transport
  else { transport with channels := transport.channels ++ [transport.newChannel component] }

def setLocalTransportDescription (credentials : IceCredentials) :
    Transport :=
  { transport with localDescription := some credentials }.mapChannels
    (·.setIceCredentials credentials)

/-- `ConnectChannels`, with the description that it makes where there is none. -/
def connectChannels (generated : IceCredentials) : Transport :=
  if transport.connectRequested ∨ transport.channels = [] then transport
  else
    let requested := { transport with connectRequested := true }
    let described :=
      if transport.localDescription = none then requested.setLocalTransportDescription generated
      else requested
    described.mapChannels SessionChannel.connect

end

def onSignalingReady (transport : Transport) : Transport :=
  transport.mapChannels SessionChannel.onSignalingReady

end Transport

/-- A transport, with the components that have been asked for. -/
structure TransportProxy where
  contentName : Bytes
  transport : Transport
  connecting : Bool
  negotiated : Bool
  channels : List Nat
  deriving DecidableEq, Repr

namespace TransportProxy

def createImpls (proxy : TransportProxy) : TransportProxy :=
  { proxy with transport := proxy.channels.foldl Transport.createChannel proxy.transport }

def createChannel (proxy : TransportProxy) (component : Nat) : TransportProxy :=
  let proxied := { proxy with channels := proxy.channels ++ [component] }
  if proxy.negotiated ∨ proxy.connecting then
    { proxied with transport := proxy.transport.createChannel component }
  else proxied

def connectChannels (proxy : TransportProxy) (generated : IceCredentials) : TransportProxy :=
  let connecting :=
    if proxy.connecting then proxy
    else { (if proxy.negotiated then proxy else proxy.createImpls) with connecting := true }
  { connecting with transport := connecting.transport.connectChannels generated }

def completeNegotiation (proxy : TransportProxy) : TransportProxy :=
  if proxy.negotiated then proxy else { proxy.createImpls with negotiated := true }

def setLocalTransportDescription (proxy : TransportProxy) (credentials : IceCredentials)
    (isAnswer : Bool) : TransportProxy :=
  let completed := if isAnswer then proxy.completeNegotiation else proxy
  { completed with transport := completed.transport.setLocalTransportDescription credentials }

def onSignalingReady (proxy : TransportProxy) : TransportProxy :=
  { proxy with transport := proxy.transport.onSignalingReady }

end TransportProxy

/-- A session, with all ports that exist. The ports that the switch of roles has left behind are
history. -/
structure BaseSession where
  initiator : Bool
  iceTiebreaker : UInt64
  roleSwitch : Bool
  transports : List TransportProxy
  ports : List Port
  leftBehind : List Nat
  deriving DecidableEq, Repr

namespace BaseSession

def create (initiator : Bool) (iceTiebreaker : UInt64) : BaseSession where
  initiator := initiator
  iceTiebreaker := iceTiebreaker
  roleSwitch := false
  transports := []
  ports := []
  leftBehind := []

/-- The role of the initiator, or of the other end. -/
def initialRole (session : BaseSession) : IceRole :=
  if session.initiator then .controlling else .controlled

def switchedRole (session : BaseSession) : IceRole :=
  if session.initiator then .controlled else .controlling

section

variable (session : BaseSession) (contentName : Bytes)

def getTransportProxy : Option TransportProxy :=
  session.transports.find? (·.contentName = contentName)

def newTransport (session : BaseSession) : Transport :=
  (Transport.new.setIceRole session.initialRole).setIceTiebreaker session.iceTiebreaker

def getOrCreateTransportProxy : BaseSession :=
  match session.getTransportProxy contentName with
  | some _ => session
  | none =>
    { session with
      transports := session.transports ++ [⟨contentName, session.newTransport, false, false, []⟩] }

def modifyProxy (change : TransportProxy → TransportProxy) : BaseSession :=
  { session with
    transports := session.transports.map fun proxy =>
      if proxy.contentName = contentName then change proxy else proxy }

def createChannel (session : BaseSession) (contentName : Bytes) (component : Nat) : BaseSession :=
  (session.getOrCreateTransportProxy contentName).modifyProxy contentName
    (·.createChannel component)

def channel? (component : Nat) :
    Option SessionChannel := do
  let proxy ← session.getTransportProxy contentName
  proxy.transport.channels.find? (·.component = component)

def modifyChannel (component : Nat)
    (change : SessionChannel → SessionChannel) : BaseSession :=
  session.modifyProxy contentName fun proxy => { proxy with
      transport := proxy.transport.mapChannels fun channel =>
        if channel.component = component then change channel else channel }

/-- A new port, or one that another channel has as well, gets the role of the channel. -/
def onPortReady (channel : SessionChannel)
    (port : Port) : BaseSession :=
  let ready := { port with iceRole := channel.iceRole, tiebreaker := channel.tiebreaker }
  { session.modifyChannel contentName channel.component
      (fun channel => { channel with ports := channel.ports ++ [port.id] }) with
    ports := session.ports.filter (·.id ≠ port.id) ++ [ready]
    leftBehind := session.leftBehind.filter (· ≠ port.id) }

def addConnection (component port : Nat) :
    BaseSession :=
  session.modifyChannel contentName component fun channel =>
    { channel with connections := channel.connections ++ [port] }

def onConnectionDestroyed (component port : Nat) :
    BaseSession :=
  session.modifyChannel contentName component fun channel =>
    { channel with connections := channel.connections.erase port }

end

variable (session : BaseSession)

def isConnected (port : Nat) : Bool :=
  session.transports.any fun proxy => proxy.transport.channels.any (port ∈ ·.connections)

/-- The port is one of the newest allocator session of a channel. -/
def isListed (port : Nat) : Bool :=
  session.transports.any fun proxy => proxy.transport.channels.any (port ∈ ·.ports)

def onPortDestroyed (port : Nat) : BaseSession :=
  { session with
    transports := session.transports.map fun proxy => { proxy with
        transport := proxy.transport.mapChannels fun channel =>
          { channel with ports := channel.ports.erase port } }
    ports := session.ports.filter (·.id ≠ port) }

def setIceRoles (role : IceRole) : BaseSession :=
  let told := session.transports.flatMap (·.transport.told role)
  { session with
    transports := session.transports.map fun proxy =>
      { proxy with transport := proxy.transport.setIceRole role }
    ports := session.ports.map fun port =>
      if port.id ∈ told then { port with iceRole := role } else port }

def onRoleConflict : BaseSession :=
  if session.roleSwitch then session
  else
    let switched := session.setIceRoles session.switchedRole
    { switched with
      roleSwitch := true
      leftBehind := (session.ports.map Port.id).filter fun id => !session.isListed id }

end BaseSession

inductive SessionEvent where
  | createChannel (contentName : Bytes) (component : Nat)
  | connectChannels (contentName : Bytes) (generated : IceCredentials)
  | completeNegotiation (contentName : Bytes)
  | setLocalTransportDescription (contentName : Bytes) (credentials : IceCredentials)
      (isAnswer : Bool)
  | signalingReady (contentName : Bytes)
  | portReady (contentName : Bytes) (component : Nat) (port : Port)
  | addConnection (contentName : Bytes) (component port : Nat)
  | connectionDestroyed (contentName : Bytes) (component port : Nat)
  | portDestroyed (port : Nat)
  | roleConflict (contentName : Bytes)
  deriving DecidableEq, Repr

namespace BaseSession

/-- An event that cannot happen has no next state. A transport reports a conflict of roles. A
port that has connections is not destroyed. -/
def step (session : BaseSession) : SessionEvent → Option BaseSession
  | .createChannel contentName component => some (session.createChannel contentName component)
  | .connectChannels contentName generated =>
    some (session.modifyProxy contentName (·.connectChannels generated))
  | .completeNegotiation contentName =>
    some (session.modifyProxy contentName TransportProxy.completeNegotiation)
  | .setLocalTransportDescription contentName credentials isAnswer =>
    some (session.modifyProxy contentName
      (·.setLocalTransportDescription credentials isAnswer))
  | .signalingReady contentName =>
    some (session.modifyProxy contentName TransportProxy.onSignalingReady)
  | .portReady contentName component port => do
    let channel ← session.channel? contentName component
    pure (session.onPortReady contentName channel port)
  | .addConnection contentName component port =>
    if (session.channel? contentName component).isSome ∧ session.ports.any (·.id = port) then
      some (session.addConnection contentName component port)
    else none
  | .connectionDestroyed contentName component port =>
    some (session.onConnectionDestroyed contentName component port)
  | .portDestroyed port =>
    if session.isConnected port then none else some (session.onPortDestroyed port)
  | .roleConflict contentName =>
    if (session.getTransportProxy contentName).isSome then some session.onRoleConflict else none

/-- All transports, and all ports on which a channel has a connection, have one role. -/
def OneRole (session : BaseSession) : Prop :=
  ∃ role, (∀ proxy ∈ session.transports, proxy.transport.iceRole = role) ∧
    ∀ port ∈ session.ports, session.isConnected port.id → port.iceRole = role

/-- The role reaches everything: no transport is created after the switch of roles, no connection
is on a port that the switch leaves behind, and none is made on one later. -/
def Reaches (session : BaseSession) : SessionEvent → Prop
  | .createChannel contentName _ =>
    session.roleSwitch = false ∨ (session.getTransportProxy contentName).isSome
  | .addConnection _ _ port => port ∉ session.leftBehind
  | .roleConflict _ =>
    session.roleSwitch = false → ∀ port ∈ session.ports, session.isConnected port.id →
      session.isListed port.id
  | _ => True

end BaseSession

end ZyWebRtc.Ice
