import ZyWebRtc.Stun.IntegrityBounds
import ZyWebRtc.Turn.Port

namespace ZyWebRtc.Turn

/-! The packets from the server that `TurnPort` handles without reading outside of them and
without looking into an attribute that is missing. -/

open Option Stun StunMessage Bytes ByteBuffer

def TurnRequest.NeedsErrorCode : TurnRequest → Prop
  | .allocate | .refresh => True
  | .createPermission entry | .channelBind entry => entry ≠ none

namespace TurnPort

/-- Nothing that is missing is read. -/
def HandlesPacket (settings : ClientSettings) (newId data : Bytes) (port : TurnPort) : Prop :=
  (port.onReadPacket settings newId data).isSome

instance (settings : ClientSettings) (newId data : Bytes) (port : TurnPort) :
    Decidable (port.HandlesPacket settings newId data) :=
  inferInstanceAs (Decidable (_ = true))

/-- A success response that ends four bytes too early for its MESSAGE-INTEGRITY. -/
def CutSuccess (data : Bytes) : Prop :=
  ∃ msgType, data.uint16At 0 = some msgType ∧ isTurnChannelData msgType = false ∧
    isStunSuccessResponseType msgType = true ∧ TruncatedIntegrity data

/-- The message is an error response without ERROR-CODE to a pending request that looks at
it. -/
def LacksErrorCode (message : StunMessage) (port : TurnPort) : Prop :=
  ∃ request, port.requests.lookup message.transactionId = some request ∧
    some message.type = getStunErrorResponseType request.type ∧ request.NeedsErrorCode ∧
    message.getErrorCode = none

/-- The packet is such an error response. -/
def AnswersWithoutCode (data : Bytes) (port : TurnPort) : Prop :=
  ∃ id message rest, data.bytesAt kStunTransactionIdOffset kStunTransactionIdLength = some id ∧
    port.requests.lookup id ≠ none ∧ StunMessage.read .turnMessage data = some (message, rest) ∧
    port.LacksErrorCode message

variable {settings : ClientSettings} {newId data : Bytes} {port : TurnPort}

theorem read_type {messageClass : MessageClass} {message : StunMessage} {rest : Bytes}
    (found : StunMessage.read messageClass data = some (message, rest)) :
    data.uint16At 0 = some message.type := by
  simp only [StunMessage.read, bind_eq_bind, bind_eq_some_iff, Prod.exists,
    readUInt16_eq_some] at found
  rcases found with ⟨type, behind, split, found⟩
  have typeAt : data.uint16At 0 = some type := by
    rw [split]
    exact uint16At_uint16Bytes _ _
  rw [typeAt]
  split at found
  · cases found
  · simp only [bind_eq_some_iff, Prod.exists] at found
    rcases found with ⟨length, _, -, _, _, -, _, _, -, found⟩
    split at found
    · cases found
    · simp only [bind_eq_some_iff, Prod.exists, Option.pure_def, Option.some.injEq,
        Prod.mk.injEq] at found
      rcases found with ⟨attrs, _, -, same, -⟩
      rw [← same]

theorem type_cases (request : TurnRequest) :
    request.type = STUN_ALLOCATE_REQUEST ∨ request.type = TURN_REFRESH_REQUEST ∨
      request.type = TURN_CREATE_PERMISSION_REQUEST ∨
      request.type = TURN_CHANNEL_BIND_REQUEST := by
  cases request with
  | allocate => exact .inl rfl
  | refresh => exact .inr (.inl rfl)
  | createPermission entry => exact .inr (.inr (.inl rfl))
  | channelBind entry => exact .inr (.inr (.inr rfl))

theorem errorType_distinct (request : TurnRequest) {type : UInt16}
    (isError : some type = getStunErrorResponseType request.type) :
    isTurnChannelData type = false ∧ type ≠ TURN_DATA_INDICATION ∧
      isStunSuccessResponseType type = false := by
  rcases type_cases request with same | same | same | same <;> rw [same] at isError <;>
    cases isError <;> decide

theorem responseTypes_distinct (request : TurnRequest) :
    getStunErrorResponseType request.type ≠ getStunSuccessResponseType request.type := by
  rcases type_cases request with same | same | same | same <;> rw [same] <;> decide

theorem AnswersWithoutCode.type (answers : port.AnswersWithoutCode data) :
    ∃ msgType, data.uint16At 0 = some msgType ∧ isTurnChannelData msgType = false ∧
      msgType ≠ TURN_DATA_INDICATION ∧ isStunSuccessResponseType msgType = false := by
  rcases answers with ⟨_, message, _, -, -, found, request, -, isError, -, -⟩
  have distinct := errorType_distinct request isError
  exact ⟨message.type, read_type found, distinct⟩

/-! ## Responses -/

theorem onErrorResponse_isSome_iff (response : StunMessage) (request : TurnRequest) :
    (port.onErrorResponse settings newId response request).isSome ↔
      ¬ (request.NeedsErrorCode ∧ response.getErrorCode = none) := by
  cases request with
  | allocate =>
    cases code : response.getErrorCode with
    | none => simp [onErrorResponse, TurnRequest.NeedsErrorCode, code]
    | some number =>
      simp only [onErrorResponse, code, bind_eq_bind, bind_some]
      split <;> simp
  | refresh =>
    cases code : response.getErrorCode with
    | none => simp [onErrorResponse, TurnRequest.NeedsErrorCode, code]
    | some number =>
      simp only [onErrorResponse, code, bind_eq_bind, bind_some]
      split <;> simp
  | createPermission entry =>
    cases entry with
    | none => simp [onErrorResponse, TurnRequest.NeedsErrorCode]
    | some channelId =>
      cases code : response.getErrorCode with
      | none => simp [onErrorResponse, TurnRequest.NeedsErrorCode, code]
      | some number =>
        simp only [onErrorResponse, code, bind_eq_bind, bind_some]
        split <;> simp
  | channelBind entry =>
    cases entry with
    | none => simp [onErrorResponse, TurnRequest.NeedsErrorCode]
    | some channelId =>
      cases code : response.getErrorCode with
      | none => simp [onErrorResponse, TurnRequest.NeedsErrorCode, code]
      | some number =>
        simp only [onErrorResponse, code, bind_eq_bind, bind_some]
        split <;> simp

theorem checkMessage_isSome_iff (message : StunMessage) :
    (port.checkMessage settings newId message).isSome ↔ ¬ port.LacksErrorCode message := by
  rw [checkMessage, LacksErrorCode]
  cases port.requests.lookup message.transactionId with
  | none => simp
  | some request =>
    simp only [Option.some.injEq, exists_eq_left']
    have distinct := responseTypes_distinct request
    by_cases isError : some message.type = getStunErrorResponseType request.type
    · rw [← isError] at distinct
      rw [if_neg distinct, if_pos isError, and_iff_right isError, ← onErrorResponse_isSome_iff]
      cases port.onErrorResponse settings newId message request <;> simp
    · by_cases isSuccess : some message.type = getStunSuccessResponseType request.type
      · simp [isSuccess, distinct.symm]
      · simp [isSuccess, isError]

theorem checkResponse_isSome_iff :
    (port.checkResponse settings newId data).isSome ↔ ¬ port.AnswersWithoutCode data := by
  rw [checkResponse, AnswersWithoutCode]
  by_cases short : data.length < 20
  · rw [if_pos short]
    apply iff_of_true rfl
    rintro ⟨id, message, rest, idAt, -⟩
    have outside : data.bytesAt kStunTransactionIdOffset kStunTransactionIdLength = none :=
      if_neg (by
        rw [kStunTransactionIdOffset, kStunTransactionIdLength]
        omega)
    rw [outside] at idAt
    cases idAt
  · have inside : kStunTransactionIdOffset + kStunTransactionIdLength ≤ data.length := by
      rw [kStunTransactionIdOffset, kStunTransactionIdLength]
      omega
    have idAt := bytesAt_inside inside
    rw [if_neg short, idAt]
    simp only [bind_eq_bind, bind_some, Option.some.injEq]
    split
    · next request message rest pending found =>
        rw [checkMessage_isSome_iff]
        constructor
        · rintro complete ⟨id, other, _, sameId, -, foundOther, lacks⟩
          rw [found] at foundOther
          cases foundOther
          exact complete lacks
        · intro complete lacks
          refine complete ⟨_, message, rest, rfl, ?_, found, lacks⟩
          rw [pending]
          exact some_ne_none _
    · next missing =>
        apply iff_of_true rfl
        rintro ⟨id, message, rest, sameId, pending, found, -⟩
        rcases ne_none_iff_exists'.mp pending with ⟨request, pendingRequest⟩
        rw [← sameId] at pendingRequest
        exact missing request message rest pendingRequest found

/-! ## Packets -/

theorem onChannelData_isSome (port : TurnPort) (channelId : Nat) (header : 4 ≤ data.length) :
    (port.onChannelData channelId data).isSome := by
  have lengthInside : 2 + 2 ≤ data.length := header
  rcases exists_uint16At lengthInside with ⟨len, lengthAt⟩
  rw [onChannelData, lengthAt]
  simp only [bind_eq_bind, bind_some]
  split
  · rfl
  · next enough =>
      cases port.findEntryOfChannel channelId with
      | none => rfl
      | some entry =>
        rw [TURN_CHANNEL_HEADER_SIZE] at enough
        have inside : TURN_CHANNEL_HEADER_SIZE + len.toNat ≤ data.length := by
          rw [TURN_CHANNEL_HEADER_SIZE]
          omega
        simp [bytesAt_inside inside]

/-- A packet is handled without a read of what is missing, unless it is a success response that
is cut in its MESSAGE-INTEGRITY, or an error response without ERROR-CODE to a request that looks
at it. -/
theorem handlesPacket_iff (settings : ClientSettings) (newId data : Bytes) (port : TurnPort) :
    port.HandlesPacket settings newId data ↔
      ¬ CutSuccess data ∧ ¬ port.AnswersWithoutCode data := by
  rw [HandlesPacket, onReadPacket]
  by_cases short : data.length < TURN_CHANNEL_HEADER_SIZE
  · rw [if_pos short]
    rw [TURN_CHANNEL_HEADER_SIZE] at short
    refine iff_of_true rfl ⟨?_, ?_⟩
    · rintro ⟨msgType, -, -, -, head, records, stub, msgLength, isHeader, -, -, split, -⟩
      have total := congrArg List.length split
      rw [List.length_append] at total
      omega
    · rintro ⟨id, message, rest, idAt, -⟩
      have outside : data.bytesAt kStunTransactionIdOffset kStunTransactionIdLength = none :=
        if_neg (by
          rw [kStunTransactionIdOffset, kStunTransactionIdLength]
          omega)
      rw [outside] at idAt
      cases idAt
  rw [if_neg short]
  rw [TURN_CHANNEL_HEADER_SIZE] at short
  have typeInside : 0 + 2 ≤ data.length := by omega
  rcases exists_uint16At typeInside with ⟨msgType, typeAt⟩
  have notAnswer (other : isTurnChannelData msgType = true ∨ msgType = TURN_DATA_INDICATION ∨
      isStunSuccessResponseType msgType = true) : ¬ port.AnswersWithoutCode data := by
    intro answers
    rcases answers.type with ⟨errorType, errorTypeAt, notChannel, notData, notSuccess⟩
    rw [typeAt] at errorTypeAt
    cases errorTypeAt
    rcases other with channel | indication | success
    · rw [notChannel] at channel
      cases channel
    · exact notData indication
    · rw [notSuccess] at success
      cases success
  have cutSuccess : CutSuccess data ↔ isTurnChannelData msgType = false ∧
      isStunSuccessResponseType msgType = true ∧ TruncatedIntegrity data := by
    rw [CutSuccess, typeAt]
    simp
  rw [typeAt, cutSuccess]
  simp only [bind_eq_bind, bind_some]
  by_cases channel : isTurnChannelData msgType = true
  · rw [if_pos channel]
    refine iff_of_true ?_ ⟨fun cut => ?_, notAnswer (.inl channel)⟩
    · have handled := onChannelData_isSome port msgType.toNat (not_lt.mp short)
      rcases isSome_iff_exists.mp handled with ⟨delivery, result⟩
      rw [result]
      rfl
    · rw [channel] at cut
      cases cut.1
  rw [if_neg channel]
  by_cases indication : msgType = TURN_DATA_INDICATION
  · rw [if_pos indication]
    refine iff_of_true rfl ⟨fun cut => ?_, notAnswer (.inr (.inl indication))⟩
    rw [indication] at cut
    exact absurd cut.2.1 (by decide)
  rw [if_neg indication, acceptsResponse]
  by_cases success : isStunSuccessResponseType msgType = true
  · rw [if_pos success]
    have notEmpty : data ≠ [] := by
      rintro rfl
      exact short (by decide)
    have inside : ReadsInside settings.hmac data port.hash ↔ ¬ TruncatedIntegrity data :=
      readsInside_iff notEmpty
    rw [ReadsInside] at inside
    have notChannel : isTurnChannelData msgType = false := by simpa using channel
    rw [and_iff_left (notAnswer (.inr (.inr success)))]
    simp only [notChannel, success, true_and]
    rw [← inside]
    rcases isSome_iff_exists.mp
      (checkResponse_isSome_iff.mpr (notAnswer (.inr (.inr success)))) with ⟨next, checked⟩
    cases validateMessageIntegrity settings.hmac data [] port.hash with
    | none => simp
    | some accepted =>
      rw [bind_some, checked]
      cases accepted <;> simp
  · rw [if_neg success, bind_some, if_pos rfl]
    have notCut : ¬ (isTurnChannelData msgType = false ∧
        isStunSuccessResponseType msgType = true ∧ TruncatedIntegrity data) :=
      fun cut => success cut.2.1
    rw [and_iff_right notCut, ← checkResponse_isSome_iff]
    cases port.checkResponse settings newId data <;> simp

def allocating : TurnPort := TurnPort.new.sendRequest (List.replicate 12 7) .allocate

/-- An error response to the request, without any attribute. -/
def bareError : Bytes :=
  [0x01, 0x13, 0, 0, 0x21, 0x12, 0xA4, 0x42] ++ List.replicate 12 7

def cutResponse : Bytes :=
  [0x01, 0x03, 0, 20, 0x21, 0x12, 0xA4, 0x42] ++ List.replicate 12 7 ++ [0, 8, 0, 20] ++
    List.replicate 16 0

def someSettings : ClientSettings where
  hmac _ _ := ⟨List.replicate 20 0, rfl⟩
  credentialHash realm := realm

theorem not_handlesPacket_bareError :
    ¬ allocating.HandlesPacket someSettings [] bareError ∧
      ¬ allocating.HandlesPacket someSettings [] cutResponse := by
  decide +kernel

end TurnPort

end ZyWebRtc.Turn
