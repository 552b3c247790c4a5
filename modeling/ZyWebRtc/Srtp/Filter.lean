import ZyWebRtc.Srtp.KeyParams

namespace ZyWebRtc.Srtp

/-! The SRTP filter: the negotiation of the crypto parameters of a stream, and the sessions that
protect and unprotect its packets. -/

def CS_AES_CM_128_HMAC_SHA1_80 : Bytes :=
  [65, 69, 83, 95, 67, 77, 95, 49, 50, 56, 95, 72, 77, 65, 67, 95, 83, 72, 65, 49, 95, 56, 48]

def CS_AES_CM_128_HMAC_SHA1_32 : Bytes :=
  [65, 69, 83, 95, 67, 77, 95, 49, 50, 56, 95, 72, 77, 65, 67, 95, 83, 72, 65, 49, 95, 51, 50]

inductive SsrcType
  | anyOutbound
  | anyInbound
  deriving DecidableEq

/-- What a session of the library was created from. -/
structure Policy where
  ssrcType : SsrcType
  cipherSuite : Bytes
  key : Bytes
  deriving DecidableEq

/-- A session that has no key yet has no session of the library. -/
structure SrtpSession where
  session : Option Policy
  deriving DecidableEq

namespace SrtpSession

def new : SrtpSession := ⟨none⟩

/-- A session with its key, when the library, which may fail, creates it. -/
def setKey (creates : Policy → Bool) (ssrcType : SsrcType) (cipherSuite : Bytes)
    (key : Option Bytes) (srtpSession : SrtpSession) : Option SrtpSession :=
  match srtpSession.session, key with
  | none, some key =>
    let policy : Policy := ⟨ssrcType, cipherSuite, key⟩
    if (cipherSuite = CS_AES_CM_128_HMAC_SHA1_80 ∨ cipherSuite = CS_AES_CM_128_HMAC_SHA1_32) ∧
        key.length = SRTP_MASTER_KEY_LEN ∧ creates policy = true then
      some ⟨some policy⟩
    else none
  | _, _ => none

section

variable (creates : Policy → Bool) (cipherSuite : Bytes) (key : Option Bytes)
  (srtpSession : SrtpSession)

def setSend : Option SrtpSession :=
  srtpSession.setKey creates .anyOutbound cipherSuite key

def setRecv : Option SrtpSession :=
  srtpSession.setKey creates .anyInbound cipherSuite key

end

theorem setKey_eq_some {creates : Policy → Bool} {ssrcType : SsrcType} {cipherSuite : Bytes}
    {key : Option Bytes} {before after : SrtpSession}
    (keyed : before.setKey creates ssrcType cipherSuite key = some after) :
    ∃ bytes, key = some bytes ∧ after = ⟨some ⟨ssrcType, cipherSuite, bytes⟩⟩ := by
  rw [setKey.eq_def] at keyed
  split at keyed
  · rename_i bytes _
    dsimp only at keyed
    split at keyed
    · exact ⟨bytes, rfl, (Option.some.inj keyed).symm⟩
    · cases keyed
  · cases keyed

end SrtpSession

/-! ## The filter -/

structure CryptoParams where
  tag : Int := 0
  cipherSuite : Bytes := []
  keyParams : Bytes := []
  sessionParams : Bytes := []
  deriving DecidableEq

def CryptoParams.matches (own params : CryptoParams) : Bool :=
  own.tag = params.tag ∧ own.cipherSuite = params.cipherSuite

def CryptoParams.sameKey (own params : CryptoParams) : Bool :=
  own.cipherSuite = params.cipherSuite ∧ own.keyParams = params.keyParams

inductive ContentSource
  | local
  | remote
  deriving DecidableEq

inductive State
  | init
  | sentOffer
  | receivedOffer
  | sentPrAnswerNoCrypto
  | receivedPrAnswerNoCrypto
  | active
  | sentUpdatedOffer
  | receivedUpdatedOffer
  | sentPrAnswer
  | receivedPrAnswer
  deriving DecidableEq

def State.value : State → Nat
  | init => 0
  | sentOffer => 1
  | receivedOffer => 2
  | sentPrAnswerNoCrypto => 3
  | receivedPrAnswerNoCrypto => 4
  | active => 5
  | sentUpdatedOffer => 6
  | receivedUpdatedOffer => 7
  | sentPrAnswer => 8
  | receivedPrAnswer => 9

structure SrtpFilter where
  state : State := .init
  offerParams : List CryptoParams := []
  sendSession : Option SrtpSession := none
  recvSession : Option SrtpSession := none
  sendRtcpSession : Option SrtpSession := none
  recvRtcpSession : Option SrtpSession := none
  appliedSendParams : CryptoParams := {}
  appliedRecvParams : CryptoParams := {}
  deriving DecidableEq

namespace SrtpFilter

def isActive (filter : SrtpFilter) : Bool := State.active.value ≤ filter.state.value

def expectOffer (source : ContentSource) (filter : SrtpFilter) : Bool :=
  match filter.state, source with
  | .init, _ => true
  | .active, _ => true
  | .sentOffer, .local => true
  | .sentUpdatedOffer, .local => true
  | .receivedOffer, .remote => true
  | .receivedUpdatedOffer, .remote => true
  | _, _ => false

def storeParams (params : List CryptoParams) (source : ContentSource) (filter : SrtpFilter) :
    SrtpFilter :=
  { filter with
    offerParams := params
    state :=
      match filter.state, source with
      | .init, .local => .sentOffer
      | .init, .remote => .receivedOffer
      | _, .local => .sentUpdatedOffer
      | _, .remote => .receivedUpdatedOffer }

/-- The result of each operation comes with the filter after it. -/
def setOffer (params : List CryptoParams) (source : ContentSource) (filter : SrtpFilter) :
    Bool × SrtpFilter :=
  if filter.expectOffer source = true then (true, filter.storeParams params source)
  else (false, filter)

def createSrtpSessions (filter : SrtpFilter) : SrtpFilter :=
  { filter with
    sendSession := some .new
    appliedSendParams := {}
    recvSession := some .new
    appliedRecvParams := {} }

section

variable (creates : Policy → Bool) (sendSuite : Bytes) (sendKey : Option Bytes) (recvSuite : Bytes)
  (recvKey : Option Bytes) (filter : SrtpFilter)

/-- Keys for both sessions, which were created just before. When the first gets its key and the
second does not, the first keeps it. -/
def setKeys : Bool × SrtpFilter :=
  match SrtpSession.new.setSend creates sendSuite sendKey with
  | none => (false, filter)
  | some send =>
    match SrtpSession.new.setRecv creates recvSuite recvKey with
    | none => (false, { filter with sendSession := some send })
    | some recv => (true, { filter with sendSession := some send, recvSession := some recv })

def setRtpParams : Bool × SrtpFilter :=
  if filter.state = .active then (false, filter)
  else
    let keyed := filter.createSrtpSessions.setKeys creates sendSuite sendKey recvSuite recvKey
    if keyed.1 = true then (true, { keyed.2 with state := .active }) else keyed

/-- Both sessions get a key for receiving. A session is there before it has its key. -/
def setRtcpParams : Bool × SrtpFilter :=
  if filter.sendRtcpSession.isSome ∨ filter.recvRtcpSession.isSome then (false, filter)
  else
    match SrtpSession.new.setRecv creates sendSuite sendKey with
    | none => (false, { filter with sendRtcpSession := some .new })
    | some send =>
      match SrtpSession.new.setRecv creates recvSuite recvKey with
      | none =>
        (false, { filter with sendRtcpSession := some send, recvRtcpSession := some .new })
      | some recv =>
        (true, { filter with sendRtcpSession := some send, recvRtcpSession := some recv })

end

def expectAnswer (source : ContentSource) (filter : SrtpFilter) : Bool :=
  match filter.state, source with
  | .sentOffer, .remote => true
  | .receivedOffer, .local => true
  | .sentUpdatedOffer, .remote => true
  | .receivedUpdatedOffer, .local => true
  | .sentPrAnswerNoCrypto, .local => true
  | .sentPrAnswer, .local => true
  | .receivedPrAnswerNoCrypto, .remote => true
  | .receivedPrAnswer, .remote => true
  | _, _ => false

def negotiateParams (answerParams : List CryptoParams) (filter : SrtpFilter) :
    Option CryptoParams :=
  match answerParams with
  | [answer] => filter.offerParams.find? answer.matches
  | _ => none

def chosenParams (answerParams : List CryptoParams) (source : ContentSource)
    (filter : SrtpFilter) : Option (CryptoParams × CryptoParams) :=
  match filter.negotiateParams answerParams, answerParams, source with
  | some selected, answer :: _, .remote => some (selected, answer)
  | some selected, answer :: _, .local => some (answer, selected)
  | _, _, _ => none

def alreadyApplied (send recv : CryptoParams) (filter : SrtpFilter) : Bool :=
  filter.appliedSendParams.sameKey send ∧ filter.appliedRecvParams.sameKey recv

def applyParams (creates : Policy → Bool) (send recv : CryptoParams) (filter : SrtpFilter) :
    Bool × SrtpFilter :=
  if filter.alreadyApplied send recv = true then (true, filter)
  else
    match parseKeyParams send.keyParams SRTP_MASTER_KEY_LEN,
      parseKeyParams recv.keyParams SRTP_MASTER_KEY_LEN with
    | some sendKey, some recvKey =>
      let keyed := filter.createSrtpSessions.setKeys creates send.cipherSuite (some sendKey)
        recv.cipherSuite (some recvKey)
      if keyed.1 = true then
        (true, { keyed.2 with appliedSendParams := send, appliedRecvParams := recv })
      else keyed
    | _, _ => (false, filter)

def resetParams (filter : SrtpFilter) : Bool × SrtpFilter :=
  (true, { filter with offerParams := [], state := .init })

section

variable (creates : Policy → Bool) (answerParams : List CryptoParams) (source : ContentSource)

def doSetAnswer (final : Bool) (filter : SrtpFilter) : Bool × SrtpFilter :=
  if filter.expectAnswer source = false then (false, filter)
  else if answerParams = [] then
    if final = true then filter.resetParams
    else
      (true, { filter with
        state :=
          match source with
          | .local => .sentPrAnswerNoCrypto
          | .remote => .receivedPrAnswerNoCrypto })
  else
    match filter.chosenParams answerParams source with
    | none => (false, filter)
    | some chosen =>
      let applied := filter.applyParams creates chosen.1 chosen.2
      if applied.1 = false then applied
      else if final = true then (true, { applied.2 with offerParams := [], state := .active })
      else
        (true, { applied.2 with
          state :=
            match source with
            | .local => .sentPrAnswer
            | .remote => .receivedPrAnswer })

def setAnswer (filter : SrtpFilter) : Bool × SrtpFilter :=
  filter.doSetAnswer creates answerParams source true

def setProvisionalAnswer (filter : SrtpFilter) : Bool × SrtpFilter :=
  filter.doSetAnswer creates answerParams source false

end

/-- The pointers that `ProtectRtp`, `ProtectRtcp`, `UnprotectRtp` and `UnprotectRtcp` of an
active filter follow. -/
structure SessionsInUse where
  protectRtp : Option SrtpSession
  protectRtcp : Option SrtpSession
  unprotectRtp : Option SrtpSession
  unprotectRtcp : Option SrtpSession
  deriving DecidableEq

def sessionsInUse (filter : SrtpFilter) : Option SessionsInUse :=
  if filter.isActive = true then
    some
      { protectRtp := filter.sendSession
        protectRtcp :=
          if filter.sendRtcpSession.isSome then filter.sendRtcpSession else filter.sendSession
        unprotectRtp := filter.recvSession
        unprotectRtcp :=
          if filter.recvRtcpSession.isSome then filter.recvRtcpSession else filter.recvSession }
  else none

end SrtpFilter

end ZyWebRtc.Srtp
