import ZyWebRtc.Foundation.OrderedMap
import ZyWebRtc.Foundation.Run
import ZyWebRtc.Foundation.SocketAddress

namespace ZyWebRtc.Turn

/-! The connections of clients to a TURN server, their comparison, and the table of
allocations that is kept under it.

A connection is less than another one when any of its three fields is. So two connections can
each be less than the other one, and the table loses entries. -/

inductive ProtocolType where
  | udp
  | tcp
  | ssltcp
  deriving DecidableEq, Repr

def ProtocolType.toNat : ProtocolType → Nat
  | udp => 0
  | tcp => 1
  | ssltcp => 2

theorem ProtocolType.toNat_inj {first second : ProtocolType} :
    first.toNat = second.toNat ↔ first = second := by
  cases first <;> cases second <;> decide

structure Connection where
  src : SocketAddress
  dst : SocketAddress
  proto : ProtocolType
  socket : Nat
  deriving DecidableEq, Repr

namespace Connection

/-- `operator==`. -/
def equal (first second : Connection) : Bool :=
  first.src.equal second.src ∧ first.dst.equal second.dst ∧ first.proto = second.proto

/-- `operator<`. -/
def less (first second : Connection) : Bool :=
  first.src.less second.src ∨ first.dst.less second.dst ∨ first.proto.toNat < second.proto.toNat

/-! ## When the comparison is an order -/

/-- Two fields order the two connections in opposite ways. -/
def Crossing (first second : Connection) : Prop :=
  (first.src.less second.src ∧ second.dst.less first.dst) ∨
    (first.src.less second.src ∧ second.proto.toNat < first.proto.toNat) ∨
    (first.dst.less second.dst ∧ second.proto.toNat < first.proto.toNat)

theorem less_iff_key (first second : Connection) :
    first.less second ↔ first.src.key < second.src.key ∨ first.dst.key < second.dst.key ∨
      first.proto.toNat < second.proto.toNat := by
  simp [less, SocketAddress.less_iff_key]

theorem equal_iff_key (first second : Connection) :
    first.equal second ↔ first.src.key = second.src.key ∧ first.dst.key = second.dst.key ∧
      first.proto.toNat = second.proto.toNat := by
  simp [equal, SocketAddress.equal_iff_key, ProtocolType.toNat_inj]

theorem not_less_iff_equal (first second : Connection) :
    (¬ first.less second ∧ ¬ second.less first) ↔ first.equal second := by
  simp only [less_iff_key, equal_iff_key, not_or, not_lt]
  constructor
  · rintro ⟨⟨src, dst, proto⟩, otherSrc, otherDst, otherProto⟩
    exact ⟨le_antisymm otherSrc src, le_antisymm otherDst dst, le_antisymm otherProto proto⟩
  · rintro ⟨src, dst, proto⟩
    exact ⟨⟨src.ge, dst.ge, proto.ge⟩, src.le, dst.le, proto.le⟩

@[simp] theorem equal_refl (conn : Connection) : conn.equal conn := by
  rw [equal_iff_key]
  exact ⟨rfl, rfl, rfl⟩

theorem Crossing.less_both {first second : Connection} (crossing : Crossing first second) :
    first.less second ∧ second.less first := by
  simp only [less, Crossing, decide_eq_true_eq] at *
  tauto

theorem crossing_of_less_both {first second : Connection} (before : first.less second)
    (after : second.less first) : Crossing first second ∨ Crossing second first := by
  have src : ¬ (first.src.less second.src ∧ second.src.less first.src) := by
    simp only [SocketAddress.less_iff_key]
    exact fun both => lt_asymm both.1 both.2
  have dst : ¬ (first.dst.less second.dst ∧ second.dst.less first.dst) := by
    simp only [SocketAddress.less_iff_key]
    exact fun both => lt_asymm both.1 both.2
  have proto : ¬ (first.proto.toNat < second.proto.toNat ∧
      second.proto.toNat < first.proto.toNat) := fun both => lt_asymm both.1 both.2
  simp only [less, Crossing, decide_eq_true_eq] at *
  tauto

/-- No two of the connections are ordered in opposite ways by two fields. -/
def Aligned (clients : Set Connection) : Prop :=
  ∀ first ∈ clients, ∀ second ∈ clients, ¬ Crossing first second

theorem Aligned.asymm {clients : Set Connection} (aligned : Aligned clients)
    {first second : Connection} (firstIn : first ∈ clients) (secondIn : second ∈ clients)
    (before : first.less second) : ¬ second.less first := by
  intro after
  rcases crossing_of_less_both before after with crossing | crossing
  · exact aligned first firstIn second secondIn crossing
  · exact aligned second secondIn first firstIn crossing

theorem Aligned.strictWeak {clients : Set Connection} (aligned : Aligned clients) :
    IsStrictWeakOrder clients fun first second => first.val.less second.val where
  irrefl := fun first reflexive => aligned.asymm first.2 first.2 reflexive reflexive
  trans := by
    intro first second third before after
    have notBack := aligned.asymm first.2 second.2 before
    have notBackAfter := aligned.asymm second.2 third.2 after
    simp only [less_iff_key, not_or, not_lt] at *
    rcases before with src | dst | proto
    · exact .inl (src.trans_le notBackAfter.1)
    · exact .inr (.inl (dst.trans_le notBackAfter.2.1))
    · exact .inr (.inr (proto.trans_le notBackAfter.2.2))
  incomp_trans := by
    intro first second third firstSecond secondThird
    rw [not_less_iff_equal, equal_iff_key] at *
    exact ⟨firstSecond.1.trans secondThird.1, firstSecond.2.1.trans secondThird.2.1,
      firstSecond.2.2.trans secondThird.2.2⟩

end Connection

/-- What happens to the table. How the tree is balanced after the change is not said by the
comparison, so the tree is a part of the event. -/
inductive TableEvent where
  | create (conn : Connection) (allocation : Nat) (balanced : BinaryTree (Connection × Nat))
  | destroy (allocation : Nat) (balanced : BinaryTree (Connection × Nat))

def TableEvent.About (clients : Set Connection) : TableEvent → Prop
  | create conn _ _ => conn ∈ clients
  | destroy _ _ => True

/-- The table, and the allocations that are alive with the connections they were created
for. -/
structure AllocationTable where
  allocations : BinaryTree (Connection × Nat)
  alive : List (Connection × Nat)
  deriving DecidableEq, Repr

namespace AllocationTable

open OrderedMap

def empty : AllocationTable := ⟨.nil, []⟩

def lookup (conn : Connection) (allocations : BinaryTree (Connection × Nat)) :
    Option (Connection × Nat) :=
  find (fun first second => first.less second) conn allocations

def findAllocation (table : AllocationTable) (conn : Connection) : Option Nat :=
  (lookup conn table.allocations).map Prod.snd

/-- `CreateAllocation`, which is called where no allocation is found, and
`OnAllocationDestroyed`. A step has no value where the event cannot happen. -/
def step (table : AllocationTable) : TableEvent → Option AllocationTable
  | .create conn allocation balanced =>
    if table.findAllocation conn ≠ none ∨ table.alive.any (·.2 = allocation) ∨
        entries balanced ≠ entries (insert (fun first second => first.less second) conn
          allocation table.allocations) then none
    else some ⟨balanced, (conn, allocation) :: table.alive⟩
  | .destroy allocation balanced => do
    let destroyed ← table.alive.find? (·.2 = allocation)
    let remaining :=
      match lookup destroyed.1 table.allocations with
      | some entry => (entries table.allocations).erase entry
      | none => entries table.allocations
    if entries balanced ≠ remaining then none
    else some ⟨balanced, table.alive.erase destroyed⟩

/-! ## Runs of the table -/

/-- What the server relies on: the comparison is a strict weak order with `operator==` as its
equivalence, and after every run of creations and destructions a lookup finds the allocation
that was created for exactly that connection and is alive, or none. -/
structure LookupContract (clients : Set Connection) : Prop where
  strictWeak : IsStrictWeakOrder clients fun first second => first.val.less second.val
  equivalence : ∀ first ∈ clients, ∀ second ∈ clients,
    (¬ first.less second ∧ ¬ second.less first) ↔ first.equal second
  exact : ∀ events, (∀ event ∈ events, event.About clients) →
    ∀ table, Run.reached step empty events = some table →
      ∀ conn ∈ clients, ∀ allocation, table.findAllocation conn = some allocation ↔
        ∃ created, (created, allocation) ∈ table.alive ∧ created.equal conn

/-- The entries are the live allocations in the order of their connections. -/
structure Exact (clients : Set Connection) (table : AllocationTable) : Prop where
  sorted : Sorted (fun first second => first.less second) table.allocations
  entries : (entries table.allocations).Perm table.alive
  inside : ∀ entry ∈ table.alive, entry.1 ∈ clients

theorem Exact.destroy {clients : Set Connection} {table : AllocationTable} (exact : Exact clients table)
    {destroyed : Connection × Nat} {balanced : BinaryTree (Connection × Nat)}
    (shape : OrderedMap.entries balanced = (OrderedMap.entries table.allocations).erase destroyed) :
    Exact clients ⟨balanced, table.alive.erase destroyed⟩ where
  sorted := by
    rw [Sorted, shape]
    exact exact.sorted.sublist List.erase_sublist
  entries := by
    rw [shape]
    exact exact.entries.erase destroyed
  inside := fun entry member => exact.inside entry (List.mem_of_mem_erase member)

section Ordered

variable {clients : Set Connection}
  [order : IsStrictWeakOrder clients fun first second => first.val.less second.val]

section

variable {table : AllocationTable} (exact : Exact clients table) {conn : Connection}
  (client : conn ∈ clients)

include exact client

theorem Exact.lookup_eq_some_iff (entry : Connection × Nat) :
    lookup conn table.allocations = some entry ↔ entry ∈ table.alive ∧ entry.1.equal conn := by
  have inside : ∀ entry ∈ OrderedMap.entries table.allocations, entry.1 ∈ clients :=
    fun entry member => exact.inside entry (exact.entries.mem_iff.mp member)
  rw [lookup, find_eq_some_iff exact.sorted inside client, exact.entries.mem_iff,
    Connection.not_less_iff_equal]

theorem Exact.findAllocation_eq_some_iff (allocation : Nat) :
    table.findAllocation conn = some allocation ↔
      ∃ created, (created, allocation) ∈ table.alive ∧ created.equal conn := by
  rw [findAllocation, Option.map_eq_some_iff]
  constructor
  · rintro ⟨⟨created, found⟩, answer, rfl⟩
    exact ⟨created, (exact.lookup_eq_some_iff client _).mp answer⟩
  · rintro ⟨created, alive⟩
    exact ⟨(created, allocation), (exact.lookup_eq_some_iff client _).mpr alive, rfl⟩

theorem Exact.create (absent : table.findAllocation conn = none) {allocation : Nat}
    {balanced : BinaryTree (Connection × Nat)}
    (shape : OrderedMap.entries balanced = OrderedMap.entries
      (insert (fun first second => first.less second) conn allocation table.allocations)) :
    Exact clients ⟨balanced, (conn, allocation) :: table.alive⟩ where
  sorted := by
    have inside : ∀ entry ∈ OrderedMap.entries table.allocations, entry.1 ∈ clients :=
      fun entry member => exact.inside entry (exact.entries.mem_iff.mp member)
    rw [Sorted, shape]
    apply exact.sorted.insert inside client
    intro entry member
    by_contra unrelated
    have found : lookup conn table.allocations = some entry := by
      rw [exact.lookup_eq_some_iff client, ← Connection.not_less_iff_equal]
      exact ⟨exact.entries.mem_iff.mp member, not_or.mp unrelated⟩
    simp [findAllocation, found] at absent
  entries := by
    rw [shape]
    exact (entries_insert_perm _ conn allocation table.allocations).trans
      (exact.entries.cons (conn, allocation))
  inside := by
    intro entry member
    rcases List.mem_cons.mp member with rfl | member
    · exact client
    · exact exact.inside entry member

end

theorem Exact.step {table next : AllocationTable} {event : TableEvent}
    (exact : Exact clients table) (client : event.About clients)
    (stepped : table.step event = some next) : Exact clients next := by
  cases event with
  | create conn allocation balanced =>
    simp only [AllocationTable.step] at stepped
    split at stepped
    · cases stepped
    · rename_i possible
      simp only [not_or, not_not] at possible
      cases stepped
      exact exact.create client possible.1 possible.2.2
  | destroy allocation balanced =>
    simp only [AllocationTable.step, Option.bind_eq_bind, Option.bind_eq_some_iff] at stepped
    rcases stepped with ⟨destroyed, isAlive, stepped⟩
    have alive := List.mem_of_find?_eq_some isAlive
    have found : lookup destroyed.1 table.allocations = some destroyed :=
      (exact.lookup_eq_some_iff (exact.inside destroyed alive) destroyed).mpr
        ⟨alive, Connection.equal_refl destroyed.1⟩
    simp only [found] at stepped
    split at stepped
    · cases stepped
    · rename_i shape
      cases stepped
      exact exact.destroy (not_not.mp shape)

end Ordered

theorem exact_empty (clients : Set Connection) : Exact clients empty where
  sorted := List.Pairwise.nil
  entries := List.Perm.refl _
  inside := fun _ member => absurd member List.not_mem_nil

/-- The lookups are exact exactly for the sets of connections in which no two fields order two
connections in opposite ways. -/
theorem lookupContract_iff_aligned (clients : Set Connection) :
    LookupContract clients ↔ Connection.Aligned clients := by
  constructor
  · intro contract first firstIn second secondIn crossing
    have order := contract.strictWeak
    rcases crossing.less_both with ⟨before, after⟩
    exact order.irrefl ⟨first, firstIn⟩
      (order.trans ⟨first, firstIn⟩ ⟨second, secondIn⟩ ⟨first, firstIn⟩ before after)
  · intro aligned
    have order := aligned.strictWeak
    refine ⟨order, fun first _ second _ => Connection.not_less_iff_equal first second, ?_⟩
    intro events about table run conn client allocation
    have permitted : Run.Permitted step (fun _ event => event.About clients) empty events :=
      Run.permitted_of_forall step (fun event member _ => about event member) empty
    have exact : Exact clients table :=
      Run.invariant_of_reached step
        (fun _ _ _ exact client stepped => Exact.step exact client stepped)
        (exact_empty clients) permitted run
    exact exact.findAllocation_eq_some_iff client allocation

/-- A client on UDP, whose server socket has no remote address, and two clients on TCP with
smaller addresses. -/
def phone : Connection := ⟨⟨[], .ipv4 0x0A000005, 5000⟩, .nil, .udp, 1⟩
def desk : Connection := ⟨⟨[], .ipv4 0x0A000003, 5000⟩, ⟨[], .ipv4 0x0A000003, 5000⟩, .tcp, 2⟩
def kiosk : Connection := ⟨⟨[], .ipv4 0x0A000004, 5000⟩, ⟨[], .ipv4 0x0A000004, 5000⟩, .tcp, 3⟩

/-- The tree after the third creation, rotated to its balanced shape. -/
def threeClients : AllocationTable :=
  ⟨.node (desk, 2) (.node (phone, 1) .nil .nil) (.node (kiosk, 3) .nil .nil),
    [(kiosk, 3), (desk, 2), (phone, 1)]⟩

/-- The allocation of the client on UDP is alive and is not found. -/
theorem not_lookupContract_mixedClients : ¬ LookupContract {phone, desk, kiosk} := by
  intro contract
  let phoneOnly : BinaryTree (Connection × Nat) := .node (phone, 1) .nil .nil
  let phoneAndDesk : BinaryTree (Connection × Nat) :=
    .node (phone, 1) .nil (.node (desk, 2) .nil .nil)
  have run : Run.reached step empty [.create phone 1 phoneOnly, .create desk 2 phoneAndDesk,
      .create kiosk 3 threeClients.allocations] = some threeClients := by decide +kernel
  have lost : threeClients.findAllocation phone = none := by decide +kernel
  have client : phone ∈ ({phone, desk, kiosk} : Set Connection) := by simp
  have exact := contract.exact _ (by simp [TableEvent.About]) threeClients run phone client 1
  rw [lost] at exact
  exact absurd (exact.mpr ⟨phone, by simp [threeClients], Connection.equal_refl phone⟩) (by simp)

end AllocationTable

end ZyWebRtc.Turn
