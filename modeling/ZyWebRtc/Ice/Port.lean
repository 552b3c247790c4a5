import ZyWebRtc.Ice.Candidate

namespace ZyWebRtc.Ice

/-! The part of a port that checks STUN packets. A channel may know a port through a proxy; then
other channels may have connections on it too. -/

open Stun StunMessage

/-- A received byte string and what stands behind it in memory. -/
structure Packet where
  data : Bytes
  beyond : Bytes
  deriving DecidableEq, Repr

structure Port where
  id : Nat
  type : Bytes
  network : Nat
  component : Nat
  generation : UInt32
  iceUsernameFragment : Bytes
  password : Bytes
  iceProtocol : IceProtocolType
  iceRole : IceRole
  tiebreaker : UInt64
  sharedSocket : Bool
  sendRetransmitCountAttribute : Bool
  candidates : List LocalCandidate
  /-- The channel knows the port through a proxy. -/
  muxed : Bool
  /-- The port, or its proxy, is connected to the channel. -/
  signals : Bool
  /-- The remote candidates of the connections that other channels have on the port. -/
  others : List Candidate
  deriving DecidableEq, Repr

inductive CandidateOrigin where
  | thisPort
  | otherPort
  | message
  deriving DecidableEq, Repr

/-- The digest, the checksum, and the kind of port: where it makes a connection to a candidate,
the number of the local candidate and whether the connection is connected. -/
structure IceEnv where
  hmac : Hmac
  crc : Crc32
  createConnection : Port → Candidate → CandidateOrigin → Option (Nat × Bool)

def base64Table : Bytes :=
  ascii "ABCDEFGHIJKLMNOPQRSTUVWXYZabcdefghijklmnopqrstuvwxyz0123456789+/"

def nextBase64Char (character : UInt8) : Option UInt8 := do
  let position ← base64Table.idxOf? character
  base64Table[(position + 1) % base64Table.length]?

def getRtcpUfragFromRtpUfrag (rtpUfrag : Bytes) : Bytes :=
  match rtpUfrag.getLast?.bind nextBase64Char with
  | some character => rtpUfrag.dropLast ++ [character]
  | none => rtpUfrag

example : getRtcpUfragFromRtpUfrag (ascii "aZ/") = ascii "aZA" := by decide

/-- What `GetStunMessage` finds: the packet is not STUN, it is STUN and needs no more work than
an error response, or it holds a message and the fragment of its sender. -/
inductive StunPacket where
  | notStun
  | handled (error : Option StunError)
  | message (msg : StunMessage) (remoteUfrag : Bytes)
  deriving DecidableEq, Repr

namespace Port

section

variable (port : Port)

def isStandardIce : Bool := port.iceProtocol = .rfc5245
def isGoogleIce (port : Port) : Bool := port.iceProtocol = .google

def usernameFragment : Bytes :=
  if port.isGoogleIce ∧ port.component = ICE_CANDIDATE_COMPONENT_RTCP then
    getRtcpUfragFromRtpUfrag port.iceUsernameFragment
  else port.iceUsernameFragment

def rolePort : RolePort := ⟨port.iceRole, port.tiebreaker, port.usernameFragment⟩

/-- The local and the remote fragment of a username. -/
def splitUsername (username : Bytes) : Option (Bytes × Bytes) :=
  match port.iceProtocol with
  | .rfc5245 => do
    let colonPos ← username.idxOf? 58
    pure (username.take colonPos, username.drop (colonPos + 1))
  | .google =>
    if username.length < port.usernameFragment.length then none
    else some (username.take port.usernameFragment.length,
      username.drop port.usernameFragment.length)
  | .hybrid => some ([], [])

def parseStunUsername (stunMsg : StunMessage) : Option (Bytes × Bytes) := do
  let username ← stunMsg.getByteString STUN_ATTR_USERNAME
  port.splitUsername username

def checkRequest (env : IceEnv) (packet : Packet) (stunMsg : StunMessage) :
    StunPacket :=
  if stunMsg.getByteString STUN_ATTR_USERNAME = none ∨
      (port.isStandardIce ∧ stunMsg.getByteString STUN_ATTR_MESSAGE_INTEGRITY = none) then
    .handled (some .badRequest)
  else
    match port.parseStunUsername stunMsg with
    | none => .handled (some .unauthorized)
    | some (localUfrag, remoteUfrag) =>
      if localUfrag ≠ port.usernameFragment then .handled (some .unauthorized)
      else if port.isStandardIce ∧
          validateMessageIntegrity env.hmac packet.data packet.beyond port.password ≠
            some true then
        .handled (some .unauthorized)
      else .message stunMsg remoteUfrag

def getStunMessage (env : IceEnv) (packet : Packet) : StunPacket :=
  if port.isStandardIce ∧ validateFingerprint env.crc packet.data ≠ some true then .notStun
  else
    match StunMessage.read .iceMessage packet.data with
    | some (stunMsg, []) =>
      if stunMsg.type = STUN_BINDING_REQUEST then port.checkRequest env packet stunMsg
      else if stunMsg.type = STUN_BINDING_RESPONSE then .message stunMsg []
      else if stunMsg.type = STUN_BINDING_ERROR_RESPONSE then
        if stunMsg.getErrorCode = none then .handled none else .message stunMsg []
      else if stunMsg.type = STUN_BINDING_INDICATION then .message stunMsg []
      else .handled none
    | _ => .notStun

def createStunUsername (remoteUsername : Bytes) : Bytes :=
  remoteUsername ++ (if port.isStandardIce then [58] else []) ++ port.usernameFragment

def addPrflxCandidate (candidate : LocalCandidate) : Port :=
  { port with candidates := port.candidates ++ [candidate] }

end

/-! ## Authenticated messages -/

/-- A binding request with a valid fingerprint, a username of the port's fragment and the
sender's, and a MESSAGE-INTEGRITY under the port's password. -/
structure AuthenticRequest (port : Port) (env : IceEnv) (packet : Packet) (remoteUfrag : Bytes) :
    Prop where
  fingerprint : validateFingerprint env.crc packet.data = some true
  request : ∃ stunMsg : StunMessage, StunMessage.read .iceMessage packet.data = some (stunMsg, []) ∧
      stunMsg.type = STUN_BINDING_REQUEST ∧
      stunMsg.getByteString STUN_ATTR_USERNAME =
        some (port.iceUsernameFragment ++ 58 :: remoteUfrag) ∧
      stunMsg.getByteString STUN_ATTR_MESSAGE_INTEGRITY ≠ none
  integrity : validateMessageIntegrity env.hmac packet.data packet.beyond port.password = some true

theorem splitUsername_eq_some {port : Port} (standard : port.iceProtocol = .rfc5245)
    {username localUfrag remoteUfrag : Bytes}
    (split : port.splitUsername username = some (localUfrag, remoteUfrag)) :
    username = localUfrag ++ 58 :: remoteUfrag := by
  simp only [splitUsername, standard, Option.bind_eq_bind, Option.bind_eq_some_iff,
    Option.pure_def, Option.some.injEq, Prod.mk.injEq] at split
  rcases split with ⟨colonPos, found, rfl, rfl⟩
  rcases List.idxOf?_eq_some_iff.mp found with ⟨inside, isColon, _⟩
  have colon : username[colonPos] = 58 := by simpa using isColon
  rw [← colon, ← List.drop_eq_getElem_cons inside, List.take_append_drop]

variable {env : IceEnv} {port : Port} {packet : Packet} {stunMsg : StunMessage}
  {remoteUfrag : Bytes}

variable (standard : port.iceProtocol = .rfc5245)

include standard

theorem usernameFragment_of_standard : port.usernameFragment = port.iceUsernameFragment := by
  simp [usernameFragment, isGoogleIce, standard]

theorem isStandardIce_of_standard : port.isStandardIce = true := by
  simp [isStandardIce, standard]

theorem checkRequest_eq_message {found : StunMessage}
    (isFound : port.checkRequest env packet stunMsg = .message found remoteUfrag) :
    found = stunMsg ∧ stunMsg.getByteString STUN_ATTR_USERNAME =
        some (port.iceUsernameFragment ++ 58 :: remoteUfrag) ∧
      stunMsg.getByteString STUN_ATTR_MESSAGE_INTEGRITY ≠ none ∧
      validateMessageIntegrity env.hmac packet.data packet.beyond port.password = some true := by
  simp only [checkRequest, isStandardIce_of_standard standard, true_and] at isFound
  split at isFound
  · cases isFound
  · rename_i present
    rw [not_or] at present
    split at isFound
    · cases isFound
    · rename_i localUfrag sender parsed
      split at isFound
      · cases isFound
      · rename_i own
        split at isFound
        · cases isFound
        · rename_i valid
          cases isFound
          simp only [parseStunUsername, Option.bind_eq_bind, Option.bind_eq_some_iff] at parsed
          rcases parsed with ⟨username, isUsername, split⟩
          rw [usernameFragment_of_standard standard, not_not] at own
          rw [splitUsername_eq_some standard split, own] at isUsername
          exact ⟨rfl, isUsername, present.2, not_not.mp valid⟩

theorem getStunMessage_eq_message {found : StunMessage}
    (isFound : port.getStunMessage env packet = .message found remoteUfrag) :
    validateFingerprint env.crc packet.data = some true ∧
      StunMessage.read .iceMessage packet.data = some (found, []) ∧
      (found.type = STUN_BINDING_REQUEST →
        port.checkRequest env packet found = .message found remoteUfrag) := by
  simp only [getStunMessage, isStandardIce_of_standard standard, true_and] at isFound
  split at isFound
  · cases isFound
  · rename_i valid
    refine ⟨not_not.mp valid, ?_⟩
    split at isFound
    · rename_i stunMsg read
      split at isFound
      · have same := (checkRequest_eq_message standard isFound).1
        subst same
        exact ⟨read, fun _ => isFound⟩
      · rename_i notRequest
        have same : found = stunMsg := by
          split at isFound
          · cases isFound
            rfl
          · split at isFound
            · split at isFound
              · cases isFound
              · cases isFound
                rfl
            · split at isFound
              · cases isFound
                rfl
              · cases isFound
        subst same
        exact ⟨read, fun isRequest => absurd isRequest notRequest⟩
    · cases isFound

theorem authentic_of_request (isFound : port.getStunMessage env packet = .message stunMsg remoteUfrag)
    (isRequest : stunMsg.type = STUN_BINDING_REQUEST) :
    port.AuthenticRequest env packet remoteUfrag := by
  rcases getStunMessage_eq_message standard isFound with ⟨fingerprint, read, checked⟩
  rcases checkRequest_eq_message standard (checked isRequest) with ⟨_, username, present, integrity⟩
  exact ⟨fingerprint, ⟨stunMsg, read, isRequest, username, present⟩, integrity⟩

end Port

end ZyWebRtc.Ice
