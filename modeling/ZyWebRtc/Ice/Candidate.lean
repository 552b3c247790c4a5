import ZyWebRtc.Ice.RoleConflict

namespace ZyWebRtc.Ice

/-! Candidates: the addresses that connections are made between. -/

open Stun

inductive IceProtocolType where
  | google
  | hybrid
  | rfc5245
  deriving DecidableEq, Repr

inductive IceMode where
  | full
  | lite
  deriving DecidableEq, Repr

inductive ProtocolType where
  | udp
  | tcp
  | sslTcp
  deriving DecidableEq, Repr

def ProtocolType.name : ProtocolType → Bytes
  | udp => ascii "udp"
  | tcp => ascii "tcp"
  | sslTcp => ascii "ssltcp"

def STUN_PORT_TYPE : Bytes := ascii "stun"
def PRFLX_PORT_TYPE : Bytes := ascii "prflx"
def RELAY_PORT_TYPE : Bytes := ascii "relay"

def ICE_CANDIDATE_COMPONENT_RTCP : Nat := 2

def ICE_TYPE_PREFERENCE_SRFLX : UInt32 := 100
def ICE_TYPE_PREFERENCE_PRFLX : UInt32 := 110

/-- `IPAddressPrecedence`. The prefixes are those of the first words of an address. -/
def ipAddressPrecedence : IPAddress → UInt32
  | .unspec => 0
  | .ipv4 _ => 30
  | .ipv6 address =>
    if address = ⟨0, 0, 0, 1⟩ then 60
    else if (address.first >>> 24) &&& 0xFE = 0xFC then 50
    else if address.first = 0 ∧ address.second = 0 ∧ address.third = 0xFFFF then 30
    else if address.first >>> 16 = 0x2002 then 20
    else if address.first = 0x20010000 then 10
    else if (address.first = 0 ∧ address.second = 0 ∧ address.third = 0) ∨
        (address.first >>> 24 = 0xFE ∧ (address.first >>> 16) &&& 0xC0 = 0xC0) ∨
        address.first >>> 16 = 0x3FFE then 1
    else 40

example : ipAddressPrecedence (.ipv6 ⟨0x20010000, 0, 0, 7⟩) = 10 := by decide

/-- A remote candidate, without the name of its network. -/
structure Candidate where
  id : Bytes
  component : Nat
  protocol : Bytes
  address : SocketAddress
  priority : UInt32
  username : Bytes
  password : Bytes
  type : Bytes
  generation : UInt32
  foundation : Bytes
  relatedAddress : SocketAddress
  deriving DecidableEq, Repr

namespace Candidate

/-- The priority does not count. -/
def isEquivalent (candidate other : Candidate) : Bool :=
  candidate.id = other.id ∧ candidate.component = other.component ∧
    candidate.protocol = other.protocol ∧ candidate.address.equal other.address ∧
    candidate.username = other.username ∧ candidate.password = other.password ∧
    candidate.type = other.type ∧ candidate.generation = other.generation ∧
    candidate.foundation = other.foundation ∧
    candidate.relatedAddress.equal other.relatedAddress

def getPriority (candidate : Candidate) (typePreference : UInt32) : UInt32 :=
  (typePreference <<< 24) ||| (ipAddressPrecedence candidate.address.ip <<< 8) |||
    (256 - UInt32.ofNat candidate.component)

end Candidate

/-- A remote candidate and the port that it came to first, if it came to a port. -/
structure RemoteCandidate where
  candidate : Candidate
  originPort : Option Nat
  deriving DecidableEq, Repr

/-- What is used of a candidate of a port. -/
structure LocalCandidate where
  address : SocketAddress
  priority : UInt32
  deriving DecidableEq, Repr

end ZyWebRtc.Ice
