import ZyWebRtc.DataChannel.SctpPeer

namespace ZyWebRtc.DataChannel

/-! What a session makes of a control message on a stream that it does not know, whatever its
state. -/

open Option

/-- The signaling side of a session: the factory of `MediaStreamSignaling`, the state and the kind
of data channels of `WebRtcSession`, and the channels of which the observer was told. -/
structure DataSession where
  hasDataChannelFactory : Bool
  receivedTerminate : Bool
  /-- Nothing is `DCT_NONE`. -/
  dataChannelType : Option DataChannelType
  hasDataChannel : Bool
  peer : SctpPeer
  announced : List (Bytes × DataChannelInit)
  deriving DecidableEq

/-- What the worker thread finds in a control message on an unknown stream. -/
def openRequest (stream : UInt16) (payload : Bytes) : Option (Bytes × DataChannelInit) :=
  (parseDataChannelOpenMessage payload [] {}).map fun (label, config) =>
    (label, { config with id := stream.toNat, negotiated := true })

namespace DataSession

section

variable (session : DataSession)

/-- `DataChannel::Create` and `AddDataChannel`, and what `CreateDataChannel` does afterwards. -/
def addCreated (dataChannelType : DataChannelType) (label : Bytes)
    (config : Option DataChannelInit) (newConfig : DataChannelInit) (peer : SctpPeer) :
    Option DataChannelInit × SctpPeer :=
  if !init dataChannelType newConfig then (none, peer)
  else if peer.hasLabel label then (none, peer)
  else
    let added := { peer with dataChannels := peer.dataChannels ++ [(label, newConfig)] }
    match dataChannelType with
    | .rtp => (some newConfig, added)
    | .sctp =>
      if config = none then (none, added)
      else if session.hasDataChannel then
        (some newConfig, added.addStream (UInt32.ofInt newConfig.id))
      else (some newConfig, added)

/-- The settings of the channel. Whether an OPEN message is sent does not matter here. -/
def createDataChannel (label : Bytes) (config : Option DataChannelInit) :
    Option DataChannelInit × SctpPeer :=
  if session.receivedTerminate then (none, session.peer)
  else
    match session.dataChannelType with
    | none => (none, session.peer)
    | some .rtp => session.addCreated .rtp label config (config.getD {}) session.peer
    | some .sctp =>
      match session.peer.chooseId (config.getD {}) with
      | (none, peer) => (none, peer)
      | (some newConfig, peer) => session.addCreated .sctp label config newConfig peer

/-- The returned value and the session afterwards, or nothing when the channel is used although it
was not created. -/
def addDataChannelFromOpenMessage (label : Bytes) (config : DataChannelInit) :
    Option (Bool × DataSession) :=
  if !session.hasDataChannelFactory then some (false, session)
  else if session.peer.hasLabel label then some (false, session)
  else
    match session.createDataChannel label (some config) with
    | (none, _) => none
    | (some newConfig, peer) =>
      some (true, { session with peer, announced := session.announced ++ [(label, newConfig)] })

/-- A control message on an unknown stream. Without a request nothing happens. -/
def onControlMessage (stream : UInt16) (payload : Bytes) : Option (Bool × DataSession) :=
  match openRequest stream payload with
  | none => some (false, session)
  | some (label, config) => session.addDataChannelFromOpenMessage label config

/-! ## The property -/

/-- A channel for the request was added and announced, or nothing was. -/
def Harmless (stream : UInt16) (payload : Bytes) : Prop :=
  ∃ success after, session.onControlMessage stream payload = some (success, after) ∧ if success then
      ∃ label config, (openRequest stream payload).map Prod.fst = some label ∧
        config.id = (stream.toNat : Int) ∧
        after.peer.dataChannels = session.peer.dataChannels ++ [(label, config)] ∧
        after.announced = session.announced ++ [(label, config)]
    else
      after.peer.dataChannels = session.peer.dataChannels ∧ after.announced = session.announced

/-- Every check of the factory is passed. -/
def Passes (stream : UInt16) (config : DataChannelInit) : Prop :=
  session.receivedTerminate = false ∧ session.dataChannelType = some .sctp ∧
    session.peer.isSctpIdAvailable stream.toNat = true ∧ config.maxRetransmits = -1

/-- The request is refused before a channel is asked for, or the factory creates one. -/
def Answers (stream : UInt16) (payload : Bytes) : Prop :=
  ∀ label config, openRequest stream payload = some (label, config) →
    session.hasDataChannelFactory = false ∨ session.peer.hasLabel label = true ∨
      session.Passes stream config

end

theorem parseReliability_cases (channelType : UInt8) (reliabilityParam : UInt16)
    (config : DataChannelInit) :
    let parsed := parseReliability channelType reliabilityParam config
    (-1 ≤ parsed.maxRetransmitTime) ∧ (parsed.maxRetransmits = -1 ∨
      0 ≤ parsed.maxRetransmits ∧ parsed.maxRetransmitTime = parsed.maxRetransmits) := by
  intro parsed
  rw [show parsed = parseReliability channelType reliabilityParam config from rfl, parseReliability]
  dsimp only
  split
  · exact ⟨by dsimp only; omega, .inr ⟨by dsimp only; omega, rfl⟩⟩
  · split
    · refine ⟨by dsimp only; omega, .inl ?_⟩
      split <;> rfl
    · exact ⟨le_rfl, .inl rfl⟩

theorem init_openRequest {stream : UInt16} {payload label : Bytes} {config : DataChannelInit}
    (request : openRequest stream payload = some (label, config)) :
    config.id = stream.toNat ∧ (init .sctp config = true ↔ config.maxRetransmits = -1) := by
  rcases map_eq_some_iff.mp request with ⟨⟨parsedLabel, parsed⟩, parses, same⟩
  cases same
  refine ⟨rfl, ?_⟩
  have reliability : -1 ≤ parsed.maxRetransmitTime ∧ (parsed.maxRetransmits = -1 ∨
      0 ≤ parsed.maxRetransmits ∧ parsed.maxRetransmitTime = parsed.maxRetransmits) := by
    rw [parseDataChannelOpenMessage] at parses
    simp only [bind_eq_bind, bind_eq_some_iff, ite_none_left_eq_some,
      Option.pure_def, Option.some.injEq, Prod.mk.injEq] at parses
    rcases parses with ⟨_, _, _, ⟨channelType, _⟩, _, ⟨param, _⟩, _, _, _, _, _, _, _, _, _, _,
      _, _, rfl⟩
    exact parseReliability_cases _ _ _
  rw [init_sctp_iff]
  dsimp only
  omega

theorem createDataChannel_openRequest {session : DataSession} {stream : UInt16}
    {payload label : Bytes} {config : DataChannelInit}
    (request : openRequest stream payload = some (label, config))
    (fresh : ¬session.peer.hasLabel label = true) :
    (session.Passes stream config ∧ ∃ peer,
        session.createDataChannel label (some config) = (some config, peer) ∧
          peer.dataChannels = session.peer.dataChannels ++ [(label, config)]) ∨
      ¬session.Passes stream config ∧ (session.createDataChannel label (some config)).1 = none := by
  rcases init_openRequest request with ⟨id, accepted⟩
  rw [createDataChannel]
  cases terminated : session.receivedTerminate with
  | true =>
    refine .inr ⟨fun passes => ?_, rfl⟩
    rw [Passes, terminated] at passes
    cases passes.1
  | false =>
    rw [if_neg Bool.false_ne_true]
    rcases type : session.dataChannelType with _ | _ | _
    · refine .inr ⟨fun passes => ?_, rfl⟩
      rw [Passes, type] at passes
      cases passes.2.1
    · refine .inr ⟨fun passes => ?_, ?_⟩
      · rw [Passes, type] at passes
        cases passes.2.1
      · have refused : init .rtp config = false := by
          rw [init, id]
          simp
        dsimp only
        rw [getD_some, addCreated, refused]
        rfl
    · dsimp only
      rw [getD_some, SctpPeer.chooseId, id, if_neg (by omega)]
      cases available : session.peer.isSctpIdAvailable stream.toNat with
      | false =>
        refine .inr ⟨fun passes => ?_, rfl⟩
        rw [Passes, available] at passes
        cases passes.2.2.1
      | true =>
        rw [if_pos rfl]
        dsimp only
        rw [addCreated]
        cases valid : init .sctp config with
        | false =>
          refine .inr ⟨fun passes => ?_, rfl⟩
          rw [accepted.mpr passes.2.2.2] at valid
          cases valid
        | true =>
          refine .inl ⟨⟨terminated, type, available, accepted.mp valid⟩, ?_⟩
          rw [if_neg (by decide), if_neg fresh]
          dsimp only
          rw [if_neg (some_ne_none _)]
          split
          · refine ⟨_, rfl, ?_⟩
            rw [SctpPeer.addStream]
            split <;> rfl
          · exact ⟨_, rfl, rfl⟩

/-- A channel that could not be created is used exactly when the request was not refused before. -/
theorem harmless_iff_answers (session : DataSession) (stream : UInt16) (payload : Bytes) :
    session.Harmless stream payload ↔ session.Answers stream payload := by
  rw [Harmless, Answers, onControlMessage]
  cases request : openRequest stream payload with
  | none => exact iff_of_true ⟨false, session, rfl, rfl, rfl⟩ fun _ _ none => (by cases none)
  | some pair =>
    rcases pair with ⟨label, config⟩
    dsimp only
    rw [addDataChannelFromOpenMessage]
    cases factory : session.hasDataChannelFactory with
    | false =>
      exact iff_of_true ⟨false, session, rfl, rfl, rfl⟩ fun _ _ _ => .inl rfl
    | true =>
      rw [if_neg (by decide)]
      by_cases taken : session.peer.hasLabel label = true
      · rw [if_pos taken]
        refine iff_of_true ⟨false, session, rfl, rfl, rfl⟩ ?_
        rintro _ _ ⟨⟩
        exact .inr (.inl taken)
      · rw [if_neg taken]
        rcases createDataChannel_openRequest request taken with
          ⟨passes, peer, created, added⟩ | ⟨fails, refused⟩
        · rw [created]
          refine iff_of_true ⟨true, _, rfl, label, config, rfl,
            (init_openRequest request).1, added, rfl⟩ ?_
          rintro _ _ ⟨⟩
          exact .inr (.inr passes)
        · rcases creation : session.createDataChannel label (some config) with ⟨_, peer⟩
          rw [creation] at refused
          cases refused
          refine iff_of_false ?_ fun answers => ?_
          · rintro ⟨_, _, result, _⟩
            cases result
          · rcases answers label config rfl with none | known | passes
            · cases none
            · exact taken known
            · exact fails passes

def emptySession : DataSession := ⟨true, false, some .sctp, true, .new, []⟩

/-- A channel with three retransmissions is asked for on the first stream. -/
theorem not_harmless_threeRetransmits :
    ¬emptySession.Harmless 1
      (writeDataChannelOpenMessage [97] { maxRetransmits := 3 }) := by
  rintro ⟨_, _, result, _⟩
  revert result
  have unused : emptySession.onControlMessage 1
      (writeDataChannelOpenMessage [97] { maxRetransmits := 3 }) = none := by decide
  rw [unused]
  exact nofun

end DataSession

end ZyWebRtc.DataChannel
