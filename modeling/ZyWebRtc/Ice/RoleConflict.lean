import ZyWebRtc.Stun.Integrity

namespace ZyWebRtc.Ice

/-! The role of an ICE port: the requests that carry it, and the check of a received request
for a conflict. -/

open Stun StunMessage

inductive IceRole where
  | unknown
  | controlling
  | controlled
  deriving DecidableEq, Repr

def IceRole.reverse : IceRole → IceRole
  | unknown => unknown
  | controlling => controlled
  | controlled => controlling

/-- What a port uses for its role. -/
structure RolePort where
  iceRole : IceRole
  tiebreaker : UInt64
  usernameFragment : Bytes
  deriving DecidableEq, Repr

/-- What a connection puts into a request besides the role of its port. -/
structure Ping where
  transactionId : Bytes
  username : Bytes
  retransmitCount : Option UInt32
  useCandidate : Bool
  priority : UInt32
  deriving DecidableEq, Repr

def RolePort.addRole (port : RolePort) (useCandidate : Bool) (request : StunMessage) :
    StunMessage :=
  match port.iceRole with
  | .controlling =>
    let request := request.add STUN_ATTR_ICE_CONTROLLING (.uint64 port.tiebreaker)
    if useCandidate then request.add STUN_ATTR_USE_CANDIDATE (.byteString []) else request
  | .controlled => request.add STUN_ATTR_ICE_CONTROLLED (.uint64 port.tiebreaker)
  | .unknown => request

/-- `ConnectionRequest::Prepare` in standard ICE, up to the attributes that protect the
message. -/
def RolePort.prepare (port : RolePort) (ping : Ping) : StunMessage :=
  let request := (StunMessage.new .iceMessage STUN_BINDING_REQUEST ping.transactionId).add
    STUN_ATTR_USERNAME (.byteString ping.username)
  let request := match ping.retransmitCount with
    | some count => request.add STUN_ATTR_RETRANSMIT_COUNT (.uint32 count)
    | none => request
  (port.addRole ping.useCandidate request).add STUN_ATTR_PRIORITY (.uint32 ping.priority)

/-- What `MaybeIceRoleConflict` does: it returns true, it signals a conflict and returns true,
or it answers with a role conflict and returns false. -/
inductive RoleVerdict where
  | proceed
  | signal
  | reject
  deriving DecidableEq, Repr

/-- The role and the tiebreaker of the sender. The second attribute overwrites the first. -/
def remoteRole (stunMsg : StunMessage) : IceRole × UInt64 :=
  match stunMsg.getUInt64 STUN_ATTR_ICE_CONTROLLED, stunMsg.getUInt64 STUN_ATTR_ICE_CONTROLLING with
  | some tiebreaker, _ => (.controlled, tiebreaker)
  | none, some tiebreaker => (.controlling, tiebreaker)
  | none, none => (.unknown, 0)

def compareRoles (role : IceRole) (tiebreaker : UInt64) (remote : IceRole × UInt64) :
    RoleVerdict :=
  match role with
  | .controlling =>
    if remote.1 = .controlling then
      if tiebreaker ≤ remote.2 then .signal else .reject
    else .proceed
  | .controlled =>
    if remote.1 = .controlled then
      if remote.2 < tiebreaker then .signal else .reject
    else .proceed
  | .unknown => .proceed

/-- A request that carries the port's own name and tiebreaker is a loopback call. -/
def RolePort.maybeIceRoleConflict (port : RolePort) (stunMsg : StunMessage)
    (remoteUfrag : Bytes) : RoleVerdict :=
  if stunMsg.getUInt64 STUN_ATTR_ICE_CONTROLLING = some port.tiebreaker ∧
      port.usernameFragment = remoteUfrag then .proceed
  else compareRoles port.iceRole port.tiebreaker (remoteRole stunMsg)

def conflictResponse (request : StunMessage) : StunMessage :=
  (StunMessage.new .iceMessage STUN_BINDING_ERROR_RESPONSE request.transactionId).add
    STUN_ATTR_ERROR_CODE StunError.roleConflict.value

def isConflictResponse (response : StunMessage) : Bool :=
  response.type = STUN_BINDING_ERROR_RESPONSE ∧
    response.getErrorCode = some StunError.roleConflict.code

/-! ## The role in a request -/

theorem getAttribute_new (messageClass : MessageClass) (type : UInt16) (transactionId : Bytes)
    (other : UInt16) :
    (StunMessage.new messageClass type transactionId).getAttribute other = none := rfl

def RolePort.unroled (ping : Ping) : StunMessage :=
  let request := (StunMessage.new .iceMessage STUN_BINDING_REQUEST ping.transactionId).add
    STUN_ATTR_USERNAME (.byteString ping.username)
  match ping.retransmitCount with
    | some count => request.add STUN_ATTR_RETRANSMIT_COUNT (.uint32 count)
    | none => request

theorem RolePort.unroled_getAttribute (ping : Ping) {type : UInt16}
    (notUsername : STUN_ATTR_USERNAME ≠ type) (notCount : STUN_ATTR_RETRANSMIT_COUNT ≠ type) :
    (unroled ping).getAttribute type = none := by
  unfold unroled
  split
  · rw [getAttribute_add_of_ne _ _ notCount, getAttribute_add_of_ne _ _ notUsername,
      getAttribute_new]
  · rw [getAttribute_add_of_ne _ _ notUsername, getAttribute_new]

theorem RolePort.unroled_messageClass (ping : Ping) :
    (unroled ping).messageClass = .iceMessage := by
  unfold unroled
  split <;> simp [StunMessage.new]

theorem getUInt64_congr {first second : StunMessage} {type : UInt16}
    (same : first.getAttribute type = second.getAttribute type) :
    first.getUInt64 type = second.getUInt64 type := by
  rw [getUInt64, getUInt64, same]

/-- A request carries the tiebreaker of its port under the attribute of its role, and not under
the other one. -/
theorem RolePort.prepare_getUInt64 (port : RolePort) (ping : Ping) :
    (port.prepare ping).getUInt64 STUN_ATTR_ICE_CONTROLLING =
        (if port.iceRole = .controlling then some port.tiebreaker else none) ∧
      (port.prepare ping).getUInt64 STUN_ATTR_ICE_CONTROLLED =
        (if port.iceRole = .controlled then some port.tiebreaker else none) := by
  have noControlling : (unroled ping).getAttribute STUN_ATTR_ICE_CONTROLLING = none :=
    unroled_getAttribute ping (by decide) (by decide)
  have noControlled : (unroled ping).getAttribute STUN_ATTR_ICE_CONTROLLED = none :=
    unroled_getAttribute ping (by decide) (by decide)
  have isIce := unroled_messageClass ping
  have withPriority {type : UInt16} (different : STUN_ATTR_PRIORITY ≠ type) :
      (port.prepare ping).getUInt64 type =
        (port.addRole ping.useCandidate (unroled ping)).getUInt64 type :=
    getUInt64_congr (getAttribute_add_of_ne _ _ different)
  rw [withPriority (by decide), withPriority (by decide)]
  cases role : port.iceRole with
  | unknown => simp [addRole, role, getUInt64, noControlling, noControlled]
  | controlled =>
    have known : (StunValue.uint64 port.tiebreaker).valueType =
        (unroled ping).messageClass.getAttributeValueType STUN_ATTR_ICE_CONTROLLED := by
      rw [isIce]
      rfl
    have other := getAttribute_add_of_ne (unroled ping) (.uint64 port.tiebreaker)
      (by decide : STUN_ATTR_ICE_CONTROLLED ≠ STUN_ATTR_ICE_CONTROLLING)
    simp [addRole, role, getUInt64, other, noControlling, getAttribute_add_self noControlled known]
  | controlling =>
    have known : (StunValue.uint64 port.tiebreaker).valueType =
        (unroled ping).messageClass.getAttributeValueType STUN_ATTR_ICE_CONTROLLING := by
      rw [isIce]
      rfl
    have own := getAttribute_add_self noControlling known
    have other := getAttribute_add_of_ne (unroled ping) (.uint64 port.tiebreaker)
      (by decide : STUN_ATTR_ICE_CONTROLLING ≠ STUN_ATTR_ICE_CONTROLLED)
    have nominated (request : StunMessage) {type : UInt16}
        (different : STUN_ATTR_USE_CANDIDATE ≠ type) :=
      getAttribute_add_of_ne request (.byteString []) different
    cases ping.useCandidate with
    | false => simp [addRole, role, getUInt64, own, other, noControlled]
    | true =>
      simp [addRole, role, getUInt64, own, other, noControlled,
        nominated _ (by decide : STUN_ATTR_USE_CANDIDATE ≠ STUN_ATTR_ICE_CONTROLLING),
        nominated _ (by decide : STUN_ATTR_USE_CANDIDATE ≠ STUN_ATTR_ICE_CONTROLLED)]

/-- A message of a peer with a role and a tiebreaker. -/
def Speaks (stunMsg : StunMessage) (role : IceRole) (tiebreaker : UInt64) : Prop :=
  remoteRole stunMsg = (role, tiebreaker) ∧
    ∀ bits, stunMsg.getUInt64 STUN_ATTR_ICE_CONTROLLING = some bits → bits = tiebreaker

theorem RolePort.speaks_prepare (port : RolePort) (ping : Ping) (known : port.iceRole ≠ .unknown) :
    Speaks (port.prepare ping) port.iceRole port.tiebreaker := by
  rcases port.prepare_getUInt64 ping with ⟨controlling, controlled⟩
  unfold Speaks remoteRole
  rw [controlling, controlled]
  cases role : port.iceRole with
  | unknown => exact absurd role known
  | controlling => simp
  | controlled => simp

theorem RolePort.verdict_of_speaks {port : RolePort} {stunMsg : StunMessage} {role : IceRole}
    {tiebreaker : UInt64} (speaks : Speaks stunMsg role tiebreaker)
    (different : tiebreaker ≠ port.tiebreaker) (remoteUfrag : Bytes) :
    port.maybeIceRoleConflict stunMsg remoteUfrag =
      compareRoles port.iceRole port.tiebreaker (role, tiebreaker) := by
  have notOwn : stunMsg.getUInt64 STUN_ATTR_ICE_CONTROLLING ≠ some port.tiebreaker :=
    fun own => different (speaks.2 _ own).symm
  rw [maybeIceRoleConflict, if_neg (fun both => notOwn both.1), speaks.1]

end ZyWebRtc.Ice
