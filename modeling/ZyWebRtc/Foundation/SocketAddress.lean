import ZyWebRtc.Foundation.ByteString

namespace ZyWebRtc

/-! Internet addresses, socket addresses and how they are compared. An IPv6 address is kept as
its four words in network order, which is how it is written, compared and masked. -/

@[ext] structure In6Addr where
  first : UInt32
  second : UInt32
  third : UInt32
  fourth : UInt32
  deriving DecidableEq, Repr, Inhabited

def In6Addr.words (address : In6Addr) : List UInt32 :=
  [address.first, address.second, address.third, address.fourth]

inductive IPAddress where
  | unspec
  | ipv4 (address : UInt32)
  | ipv6 (address : In6Addr)
  deriving DecidableEq, Repr, Inhabited

namespace IPAddress

/-- `operator<`: unspecified addresses before IPv4 before IPv6. -/
def less : IPAddress → IPAddress → Bool
  | unspec, unspec => false
  | unspec, _ => true
  | ipv4 _, unspec => false
  | ipv4 first, ipv4 second => first < second
  | ipv4 _, ipv6 _ => true
  | ipv6 first, ipv6 second => first.words < second.words
  | ipv6 _, _ => false

def isAny : IPAddress → Bool
  | unspec => false
  | ipv4 address => address = 0
  | ipv6 address => address = ⟨0, 0, 0, 0⟩

/-- The family and the words of an address: the order of addresses is the order of these. -/
def key : IPAddress → ℕ ×ₗ List ℕ
  | unspec => toLex (0, [])
  | ipv4 address => toLex (1, [address.toNat])
  | ipv6 address => toLex (2, address.words.map UInt32.toNat)

theorem key_injective : Function.Injective key := by
  intro first second same
  cases first <;> cases second <;>
    simp_all [key, In6Addr.words, UInt32.toNat_inj, In6Addr.ext_iff]

theorem less_iff_key (first second : IPAddress) : first.less second ↔ first.key < second.key := by
  cases first <;> cases second <;>
    simp [key, less, In6Addr.words, Prod.Lex.toLex_lt_toLex, List.cons_lt_cons_iff,
      UInt32.lt_iff_toNat_lt, UInt32.toNat_inj]

end IPAddress

structure SocketAddress where
  hostname : Bytes
  ip : IPAddress
  port : UInt16
  deriving DecidableEq, Repr, Inhabited

namespace SocketAddress

/-- An address without a host and without a port. -/
def nil : SocketAddress := ⟨[], .unspec, 0⟩

def isAnyIP (address : SocketAddress) : Bool := address.ip.isAny

/-- `operator<`. The hostnames are only looked at when both addresses are zero. -/
def less (first second : SocketAddress) : Bool :=
  if first.ip.less second.ip then true
  else if second.ip.less first.ip then false
  else if second.isAnyIP ∧ first.hostname < second.hostname then true
  else if second.isAnyIP ∧ second.hostname < first.hostname then false
  else first.port < second.port

section

variable (first second : SocketAddress)

def equalIPs : Bool :=
  first.ip = second.ip ∧ (¬ first.isAnyIP ∨ first.hostname = second.hostname)

/-- `operator==`. -/
def equal : Bool :=
  first.equalIPs second ∧ first.port = second.port

/-- What an address is compared by. -/
def key (address : SocketAddress) : (ℕ ×ₗ List ℕ) ×ₗ (List ℕ ×ₗ ℕ) :=
  toLex (address.ip.key, toLex
    (if address.isAnyIP then address.hostname.map UInt8.toNat else [], address.port.toNat))

theorem hostname_lt_iff (first second : Bytes) :
    first < second ↔ first.map UInt8.toNat < second.map UInt8.toNat := by
  induction first generalizing second with
  | nil => cases second <;> simp
  | cons byte rest induction =>
    cases second with
    | nil => simp
    | cons other others =>
      simp only [List.map_cons, List.cons_lt_cons_iff, UInt8.lt_iff_toNat_lt,
        UInt8.toNat_inj, induction others]

theorem equal_iff : first.equal second ↔ first.ip = second.ip ∧
      (first.isAnyIP = false ∨ first.hostname = second.hostname) ∧ first.port = second.port := by
  simp [equal, equalIPs, and_assoc]

theorem equal_iff_key : first.equal second ↔ first.key = second.key := by
  rcases first with ⟨hostname, ip, port⟩
  rcases second with ⟨otherHostname, otherIp, otherPort⟩
  simp only [equal_iff, key, isAnyIP, toLex_inj, Prod.mk.injEq, UInt16.toNat_inj,
    IPAddress.key_injective.eq_iff]
  apply and_congr_right
  rintro rfl
  apply and_congr_left
  intro _
  by_cases any : ip.isAny
  · simp [any, (List.map_injective_iff.mpr fun _ _ => UInt8.toNat_inj.mp).eq_iff]
  · simp [any]

theorem less_iff_key : first.less second ↔ first.key < second.key := by
  rcases first with ⟨hostname, ip, port⟩
  rcases second with ⟨otherHostname, otherIp, otherPort⟩
  simp only [less, key, isAnyIP, Prod.Lex.toLex_lt_toLex, ← IPAddress.less_iff_key]
  by_cases smaller : ip.less otherIp
  · simp [smaller]
  by_cases larger : otherIp.less ip
  · have different : ip.key ≠ otherIp.key := ((IPAddress.less_iff_key _ _).mp larger).ne'
    simp [smaller, larger, different]
  have same : ip = otherIp := by
    apply IPAddress.key_injective
    apply le_antisymm
    · exact not_lt.mp (mt (IPAddress.less_iff_key _ _).mpr larger)
    · exact not_lt.mp (mt (IPAddress.less_iff_key _ _).mpr smaller)
  subst same
  simp only [smaller, hostname_lt_iff, UInt16.lt_iff_toNat_lt]
  by_cases any : ip.isAny
  · rcases lt_trichotomy (hostname.map UInt8.toNat) (otherHostname.map UInt8.toNat) with
      before | equal | after
    · simp [any, before]
    · simp [any, equal]
    · simp [any, after, after.not_gt, after.ne']
  · simp [any]

end

example : less ⟨[], .ipv4 1, 9⟩ ⟨[], .ipv4 2, 1⟩ = true := by decide

end SocketAddress

end ZyWebRtc
