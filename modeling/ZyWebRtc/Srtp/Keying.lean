import ZyWebRtc.Foundation.Run
import ZyWebRtc.Srtp.Filter

namespace ZyWebRtc.Srtp

/-! When an active filter has the keys that were applied last, and what a failed call leaves
alone. -/

open Option SrtpSession
open Bool hiding not_or

/-! ## What the calls that set keys do -/

def acceptsKey (creates : Policy → Bool) (ssrcType : SsrcType) (cipherSuite : Bytes)
    (key : Option Bytes) : Bool :=
  (SrtpSession.new.setKey creates ssrcType cipherSuite key).isSome

def acceptsKeys (creates : Policy → Bool) (sendSuite : Bytes) (sendKey : Option Bytes)
    (recvSuite : Bytes) (recvKey : Option Bytes) : Bool :=
  acceptsKey creates .anyOutbound sendSuite sendKey &&
    acceptsKey creates .anyInbound recvSuite recvKey

def policiesOf (sendSuite : Bytes) (sendKey : Option Bytes) (recvSuite : Bytes)
    (recvKey : Option Bytes) : Option (Policy × Policy) :=
  match sendKey, recvKey with
  | some send, some recv =>
    some (⟨.anyOutbound, sendSuite, send⟩, ⟨.anyInbound, recvSuite, recv⟩)
  | _, _ => none

def policies (send recv : CryptoParams) : Option (Policy × Policy) :=
  policiesOf send.cipherSuite (parseKeyParams send.keyParams SRTP_MASTER_KEY_LEN)
    recv.cipherSuite (parseKeyParams recv.keyParams SRTP_MASTER_KEY_LEN)

section

variable {creates : Policy → Bool} {ssrcType : SsrcType} {cipherSuite : Bytes} {key : Option Bytes}

theorem acceptsKey_iff : acceptsKey creates ssrcType cipherSuite key = true ↔
      ∃ bytes, key = some bytes ∧
        (cipherSuite = CS_AES_CM_128_HMAC_SHA1_80 ∨ cipherSuite = CS_AES_CM_128_HMAC_SHA1_32) ∧
        bytes.length = SRTP_MASTER_KEY_LEN ∧ creates ⟨ssrcType, cipherSuite, bytes⟩ = true := by
  rw [acceptsKey, setKey.eq_def]
  cases key with
  | none =>
    constructor
    · rintro ⟨⟩
    · rintro ⟨bytes, absent, _⟩
      cases absent
  | some bytes =>
    dsimp only [SrtpSession.new]
    constructor
    · intro accepted
      split at accepted
      · rename_i taken
        exact ⟨bytes, rfl, taken⟩
      · cases accepted
    · rintro ⟨_, same, taken⟩
      cases same
      rw [if_pos taken]
      rfl

theorem acceptsKey_eq_true (accepted : acceptsKey creates ssrcType cipherSuite key = true) :
    ∃ bytes, key = some bytes ∧ SrtpSession.new.setKey creates ssrcType cipherSuite key =
      some ⟨some ⟨ssrcType, cipherSuite, bytes⟩⟩ := by
  rcases isSome_iff_exists.mp accepted with ⟨after, keyed⟩
  rcases setKey_eq_some keyed with ⟨bytes, given, rfl⟩
  exact ⟨bytes, given, keyed⟩

end

namespace SrtpFilter

/-- The sessions have the keys of policies. -/
def HasKeys (keys : Policy × Policy) (filter : SrtpFilter) : Prop :=
  filter.sendSession = some ⟨some keys.1⟩ ∧ filter.recvSession = some ⟨some keys.2⟩

section SetKeys

variable {creates : Policy → Bool} {sendSuite recvSuite : Bytes} {sendKey recvKey : Option Bytes}

theorem setKeys_accepted (filter : SrtpFilter)
    (accepted : acceptsKeys creates sendSuite sendKey recvSuite recvKey = true) :
    ∃ keys, policiesOf sendSuite sendKey recvSuite recvKey = some keys ∧
      filter.setKeys creates sendSuite sendKey recvSuite recvKey = (true, { filter with
          sendSession := some ⟨some keys.1⟩
          recvSession := some ⟨some keys.2⟩ }) := by
  rcases Bool.and_eq_true_iff.mp accepted with ⟨sends, recvs⟩
  rcases acceptsKey_eq_true sends with ⟨send, rfl, sendKeyed⟩
  rcases acceptsKey_eq_true recvs with ⟨recv, rfl, recvKeyed⟩
  refine ⟨_, rfl, ?_⟩
  rw [setKeys, setSend, sendKeyed]
  dsimp only
  rw [setRecv, recvKeyed]

theorem setKeys_refused (filter : SrtpFilter)
    (refused : acceptsKeys creates sendSuite sendKey recvSuite recvKey = false) :
    ∃ send, filter.setKeys creates sendSuite sendKey recvSuite recvKey =
      (false, { filter with sendSession := send }) := by
  rw [setKeys, setSend]
  split
  · exact ⟨filter.sendSession, rfl⟩
  · rename_i send sendKeyed
    rw [setRecv]
    split
    · exact ⟨some send, rfl⟩
    · rename_i recv recvKeyed
      rw [acceptsKeys, acceptsKey, acceptsKey, sendKeyed, recvKeyed] at refused
      cases refused

end SetKeys

theorem isActive_congr {first second : SrtpFilter} (same : first.state = second.state) :
    first.isActive = second.isActive := by
  rw [isActive, isActive, same]

variable {filter : SrtpFilter}

theorem isActive_of_state_active (active : filter.state = .active) :
    filter.isActive = true := by
  rw [isActive, active]
  rfl

theorem sessionsInUse_isSome {keys : Policy × Policy}
    (keyed : filter.HasKeys keys) {inUse : SessionsInUse}
    (used : filter.sessionsInUse = some inUse) :
    inUse.protectRtp.isSome ∧ inUse.protectRtcp.isSome ∧ inUse.unprotectRtp.isSome ∧
      inUse.unprotectRtcp.isSome := by
  rw [sessionsInUse] at used
  split at used
  · cases used
    dsimp only
    rw [keyed.1, keyed.2]
    refine ⟨rfl, ?_, rfl, ?_⟩
    all_goals
      split
      · assumption
      · rfl
  · cases used

theorem sessionsInUse_of_inactive (inactive : filter.isActive = false) :
    filter.sessionsInUse = none := by
  rw [sessionsInUse, inactive]
  rfl

end SrtpFilter

/-! ## Runs of a filter -/

/-- The calls, with what the library does in each of them. -/
inductive Operation
  | setOffer (params : List CryptoParams) (source : ContentSource)
  | setProvisionalAnswer (creates : Policy → Bool) (params : List CryptoParams)
      (source : ContentSource)
  | setAnswer (creates : Policy → Bool) (params : List CryptoParams) (source : ContentSource)
  | setRtpParams (creates : Policy → Bool) (sendSuite : Bytes) (sendKey : Option Bytes)
      (recvSuite : Bytes) (recvKey : Option Bytes)
  | setRtcpParams (creates : Policy → Bool) (sendSuite : Bytes) (sendKey : Option Bytes)
      (recvSuite : Bytes) (recvKey : Option Bytes)

namespace Operation

def run (filter : SrtpFilter) : Operation → Bool × SrtpFilter
  | setOffer params source => filter.setOffer params source
  | setProvisionalAnswer creates params source =>
    filter.setProvisionalAnswer creates params source
  | setAnswer creates params source => filter.setAnswer creates params source
  | setRtpParams creates sendSuite sendKey recvSuite recvKey =>
    filter.setRtpParams creates sendSuite sendKey recvSuite recvKey
  | setRtcpParams creates sendSuite sendKey recvSuite recvKey =>
    filter.setRtcpParams creates sendSuite sendKey recvSuite recvKey

def isAnswer : Operation → Bool
  | setProvisionalAnswer _ _ _ => true
  | setAnswer _ _ _ => true
  | _ => false

def answerKeys (filter : SrtpFilter) (params : List CryptoParams) (source : ContentSource)
    (previous : Option (Policy × Policy)) : Option (Policy × Policy) :=
  match filter.chosenParams params source with
  | some chosen => policies chosen.1 chosen.2
  | none => previous

def appliedKeys (filter : SrtpFilter) (previous : Option (Policy × Policy)) :
    Operation → Option (Policy × Policy)
  | setProvisionalAnswer _ params source => answerKeys filter params source previous
  | setAnswer _ params source => answerKeys filter params source previous
  | setRtpParams _ sendSuite sendKey recvSuite recvKey =>
    policiesOf sendSuite sendKey recvSuite recvKey
  | _ => previous

end Operation

/-- A filter, the keys that were applied last, whether an answer succeeded, and whether all
calls that failed left alone what they had to. -/
structure Keying where
  filter : SrtpFilter
  applied : Option (Policy × Policy)
  answered : Bool
  harmless : Bool

namespace Keying

def init : Keying := ⟨{}, none, false, true⟩

/-- The state, the offer and the sessions in use are the same. -/
def leavesAlone (before after : SrtpFilter) : Bool :=
  after.state = before.state ∧ after.offerParams = before.offerParams ∧
    after.sessionsInUse = before.sessionsInUse

section

variable (keying : Keying)

/-- After a call with a result, which applies keys when it succeeds. -/
def after (result : Bool × SrtpFilter) (keys : Option (Policy × Policy))
    (isAnswer : Bool) : Keying :=
  { filter := result.2
    applied := if result.1 then keys else keying.applied
    answered := keying.answered || (result.1 && isAnswer)
    harmless := keying.harmless && (result.1 || leavesAlone keying.filter result.2) }

def step (operation : Operation) : Keying :=
  keying.after (operation.run keying.filter)
    (operation.appliedKeys keying.filter keying.applied) operation.isAnswer

/-- The sessions have the keys that were applied last. -/
def HasAppliedKeys : Prop :=
  ∃ keys, keying.applied = some keys ∧ keying.filter.HasKeys keys

/-- An active filter has the keys that were applied last and misses no session, and calls that
failed left alone what they had to. -/
structure Sound (keying : Keying) : Prop where
  keyed : keying.filter.isActive = true → keying.HasAppliedKeys
  present : ∀ inUse, keying.filter.sessionsInUse = some inUse →
    inUse.protectRtp.isSome ∧ inUse.protectRtcp.isSome ∧ inUse.unprotectRtp.isSome ∧
      inUse.unprotectRtcp.isSome
  harmless : keying.harmless = true

/-- The filter is not active before the first answer that succeeds. -/
def AnsweredBeforeActive : Prop :=
  keying.filter.isActive = true → keying.answered = true

/-- The first offer, or the first after a reset, has no answer yet. -/
def FirstOfferOpen (filter : SrtpFilter) : Prop :=
  filter.state = .sentOffer ∨ filter.state = .receivedOffer

/-- Parameters that count as applied have keys, and the library takes the keys of others when the
filter is active. -/
def AllowedParams (filter : SrtpFilter) (creates : Policy → Bool) (send recv : CryptoParams) :
    Prop :=
  if filter.alreadyApplied send recv = true then (policies send recv).isSome = true
  else
    filter.isActive = true → ∀ keys, policies send recv = some keys →
      acceptsKeys creates keys.1.cipherSuite (some keys.1.key) keys.2.cipherSuite
        (some keys.2.key) = true

def AllowedAnswer (filter : SrtpFilter) (creates : Policy → Bool) (params : List CryptoParams)
    (source : ContentSource) : Prop :=
  filter.expectAnswer source = true → ∀ chosen, filter.chosenParams params source = some chosen →
      AllowedParams filter creates chosen.1 chosen.2

/-- A call that does not run into one of the defects. -/
def Allowed : Operation → Prop
  | .setOffer _ source =>
    FirstOfferOpen keying.filter → keying.filter.expectOffer source = true → keying.HasAppliedKeys
  | .setProvisionalAnswer creates params source =>
    AllowedAnswer keying.filter creates params source
  | .setAnswer creates params source => AllowedAnswer keying.filter creates params source
  | .setRtpParams creates sendSuite sendKey recvSuite recvKey =>
    keying.filter.isActive = true → keying.filter.state ≠ .active →
      acceptsKeys creates sendSuite sendKey recvSuite recvKey = true
  | .setRtcpParams creates sendSuite sendKey recvSuite recvKey =>
    keying.filter.isActive = true → keying.filter.sendRtcpSession = none →
      keying.filter.recvRtcpSession = none →
        acceptsKey creates .anyInbound sendSuite sendKey = true ∧
          acceptsKey creates .anyInbound recvSuite recvKey = true

def AnsweredFirst : Operation → Prop
  | .setOffer _ source =>
    FirstOfferOpen keying.filter → keying.filter.expectOffer source = true → keying.answered = true
  | .setRtpParams creates sendSuite sendKey recvSuite recvKey =>
    acceptsKeys creates sendSuite sendKey recvSuite recvKey = true →
      keying.filter.state ≠ .active → keying.answered = true
  | _ => True

/-- Parameters that are remembered as applied are those of the sessions. -/
def Kept : Prop :=
  keying.filter.appliedSendParams = {} ∧ keying.filter.appliedRecvParams = {} ∨
    ∃ keys, policies keying.filter.appliedSendParams keying.filter.appliedRecvParams =
        some keys ∧ keying.applied = some keys ∧ keying.filter.HasKeys keys

end

theorem init_kept : init.Kept := .inl ⟨rfl, rfl⟩

theorem init_sound : init.Sound where
  keyed active := nomatch active
  present _ used := nomatch used
  harmless := rfl

theorem init_answeredBeforeActive : init.AnsweredBeforeActive := fun active => nomatch active

variable {keying : Keying}

theorem sound_iff : keying.Sound ↔
    (keying.filter.isActive = true → keying.HasAppliedKeys) ∧ keying.harmless = true := by
  constructor
  · exact fun sound => ⟨sound.keyed, sound.harmless⟩
  · rintro ⟨keyed, harmless⟩
    refine ⟨keyed, fun inUse used => ?_, harmless⟩
    by_cases active : keying.filter.isActive = true
    · rcases keyed active with ⟨keys, _, has⟩
      exact SrtpFilter.sessionsInUse_isSome has used
    · rw [SrtpFilter.sessionsInUse_of_inactive (not_eq_true _ ▸ active)] at used
      cases used

theorem leavesAlone_self (filter : SrtpFilter) : leavesAlone filter filter = true := by
  simp [leavesAlone]

theorem after_refused (keys : Option (Policy × Policy)) (isAnswer : Bool) :
    keying.after (false, keying.filter) keys isAnswer = keying := by
  rw [after, leavesAlone_self]
  simp

theorem leavesAlone_of_inactive {before after : SrtpFilter}
    (state : after.state = before.state) (offer : after.offerParams = before.offerParams)
    (inactive : before.isActive = false) : leavesAlone before after = true := by
  have same := SrtpFilter.isActive_congr state
  rw [leavesAlone, SrtpFilter.sessionsInUse_of_inactive inactive,
    SrtpFilter.sessionsInUse_of_inactive (same.trans inactive), state, offer]
  simp

theorem policies_congr {appliedSend appliedRecv send recv : CryptoParams}
    (sameSend : appliedSend.sameKey send = true) (sameRecv : appliedRecv.sameKey recv = true) :
    policies appliedSend appliedRecv = policies send recv := by
  rw [CryptoParams.sameKey, decide_eq_true_eq] at sameSend sameRecv
  rw [policies, policies, sameSend.1, sameSend.2, sameRecv.1, sameRecv.2]

/-- What a call means for the three properties. -/
structure Meets (keying next : Keying) (allowed answeredFirst : Prop) : Prop where
  kept : next.Kept
  sound : keying.Sound → (next.Sound ↔ allowed)
  inactive : keying.AnsweredBeforeActive → (next.AnsweredBeforeActive ↔ answeredFirst)

variable {isAnswer : Bool}

theorem meets_of_refused {keys : Option (Policy × Policy)}
    {allowed answeredFirst : Prop} (kept : keying.Kept) (holds : keying.Sound → allowed)
    (answers : keying.AnsweredBeforeActive → answeredFirst) :
    Meets keying (keying.after (false, keying.filter) keys isAnswer) allowed answeredFirst := by
  rw [after_refused]
  exact ⟨kept, fun sound => iff_of_true sound (holds sound),
    fun inactive => iff_of_true inactive (answers inactive)⟩

theorem after_harmless {result : Bool × SrtpFilter} {keys : Option (Policy × Policy)}
    (harmless : keying.harmless = true)
    (alone : result.1 = true ∨ leavesAlone keying.filter result.2 = true) :
    (keying.after result keys isAnswer).harmless = true := by
  rw [after, and_eq_true, or_eq_true]
  exact ⟨harmless, alone⟩

theorem storeParams_isActive (params : List CryptoParams) (source : ContentSource)
    (filter : SrtpFilter) :
    (filter.storeParams params source).isActive = true ↔ filter.state ≠ .init := by
  cases state : filter.state <;> cases source <;>
    simp [SrtpFilter.isActive, SrtpFilter.storeParams, state, State.value]

theorem expectOffer_cases {filter : SrtpFilter} {source : ContentSource}
    (expected : filter.expectOffer source = true) :
    filter.state = .init ∨ FirstOfferOpen filter ∨ filter.isActive = true := by
  rw [SrtpFilter.expectOffer.eq_def] at expected
  rw [FirstOfferOpen, SrtpFilter.isActive]
  split at expected
  case h_7 => cases expected
  all_goals
    rename_i state
    rw [state]
    simp [State.value]

theorem setOffer_meets (params : List CryptoParams) (source : ContentSource) (kept : keying.Kept) :
    Meets keying (keying.step (.setOffer params source))
      (keying.Allowed (.setOffer params source))
      (keying.AnsweredFirst (.setOffer params source)) := by
  rw [step, Operation.run, SrtpFilter.setOffer]
  split
  swap
  · rename_i refused
    apply meets_of_refused kept
    · exact fun _ _ expected => absurd expected refused
    · exact fun _ _ expected => absurd expected refused
  rename_i expected
  have becomesActive : FirstOfferOpen keying.filter →
      (keying.filter.storeParams params source).isActive = true := by
    intro isOpen
    rw [storeParams_isActive]
    rcases isOpen with state | state <;> rw [state] <;> decide
  refine ⟨kept, fun sound => ?_, fun inactive => ?_⟩
  · rw [sound_iff]
    constructor
    · rintro ⟨keyed, _⟩ isOpen _
      exact keyed (becomesActive isOpen)
    · intro allowed
      refine ⟨fun active => ?_, after_harmless sound.harmless (.inl rfl)⟩
      rcases expectOffer_cases expected with initial | isOpen | already
      · exact absurd initial ((storeParams_isActive _ _ _).mp active)
      · exact allowed isOpen expected
      · exact sound.keyed already
  · have same : (keying.after (true, keying.filter.storeParams params source)
        (Operation.appliedKeys keying.filter keying.applied (.setOffer params source))
        (Operation.setOffer params source).isAnswer).answered = keying.answered :=
      Bool.or_false _
    rw [AnsweredBeforeActive, same]
    constructor
    · exact fun answered isOpen _ => answered (becomesActive isOpen)
    · intro answeredFirst active
      rcases expectOffer_cases expected with initial | isOpen | already
      · exact absurd initial ((storeParams_isActive _ _ _).mp active)
      · exact answeredFirst isOpen expected
      · exact inactive already

theorem not_hasAppliedKeys_of_new (bare : keying.filter.recvSession = some .new) :
    ¬ keying.HasAppliedKeys := by
  rintro ⟨keys, _, has⟩
  have keyed := has.2
  rw [bare] at keyed
  cases keyed

theorem meets_of_newSessions (session : Option SrtpSession)
    {keys : Option (Policy × Policy)} {allowed answeredFirst : Prop}
    (harm : keying.filter.isActive = true → ¬ allowed)
    (noHarm : ¬ keying.filter.isActive = true → allowed) (answers : answeredFirst) :
    Meets keying
      (keying.after (false, { keying.filter.createSrtpSessions with sendSession := session })
        keys isAnswer) allowed answeredFirst := by
  refine ⟨.inl ⟨rfl, rfl⟩, fun sound => ?_, fun inactive => ?_⟩
  · rw [sound_iff]
    by_cases active : keying.filter.isActive = true
    · refine iff_of_false ?_ (harm active)
      rintro ⟨keyed, _⟩
      exact not_hasAppliedKeys_of_new rfl (keyed active)
    · refine iff_of_true ⟨fun now => absurd now active, ?_⟩ (noHarm active)
      exact after_harmless sound.harmless
        (.inr (leavesAlone_of_inactive rfl rfl (not_eq_true _ ▸ active)))
  · refine iff_of_true (fun active => ?_) answers
    exact (Bool.or_false _).trans (inactive active)

/-! ## Keys that are set directly -/

section Direct

variable (creates : Policy → Bool) (sendSuite : Bytes) (sendKey : Option Bytes)
  (recvSuite : Bytes) (recvKey : Option Bytes)

theorem setRtpParams_meets (kept : keying.Kept) :
    Meets keying
      (keying.step (.setRtpParams creates sendSuite sendKey recvSuite recvKey))
      (keying.Allowed (.setRtpParams creates sendSuite sendKey recvSuite recvKey))
      (keying.AnsweredFirst (.setRtpParams creates sendSuite sendKey recvSuite recvKey)) := by
  rw [step, Operation.run, SrtpFilter.setRtpParams]
  split
  · rename_i state
    apply meets_of_refused kept
    · exact fun _ _ other => absurd state other
    · exact fun _ _ other => absurd state other
  rename_i state
  by_cases accepted : acceptsKeys creates sendSuite sendKey recvSuite recvKey = true
  · rcases SrtpFilter.setKeys_accepted keying.filter.createSrtpSessions accepted with
      ⟨keys, known, keyed⟩
    rw [keyed]
    dsimp only
    rw [if_pos rfl]
    refine ⟨.inl ⟨rfl, rfl⟩, fun sound => ?_, fun inactive => ?_⟩
    · rw [sound_iff]
      refine iff_of_true ⟨fun _ => ?_, after_harmless sound.harmless (.inl rfl)⟩
        fun _ _ => accepted
      exact ⟨keys, known, rfl, rfl⟩
    · constructor
      · intro answered _ _
        have now := answered (SrtpFilter.isActive_of_state_active rfl)
        exact (Bool.or_false keying.answered).symm.trans now
      · intro answeredFirst _
        rw [after, answeredFirst accepted state]
        rfl
  · have refused := not_eq_true _ ▸ accepted
    rcases SrtpFilter.setKeys_refused keying.filter.createSrtpSessions refused with ⟨send, bare⟩
    rw [bare]
    dsimp only
    rw [if_neg (by decide)]
    apply meets_of_newSessions send
    · exact fun active allowed => accepted (allowed active state)
    · exact fun inactive active => absurd active inactive
    · exact fun now => absurd now accepted

theorem leavesAlone_newRtcpSession {before after : SrtpFilter} {keys : Policy × Policy}
    (active : before.isActive = true) (has : before.HasKeys keys)
    (noSend : before.sendRtcpSession = none) (noRecv : before.recvRtcpSession = none)
    (bare : after.sendRtcpSession = some .new ∨ after.recvRtcpSession = some .new) :
    leavesAlone before after = false := by
  rw [leavesAlone, decide_eq_false_iff_not]
  rintro ⟨state, _, same⟩
  have activeAfter := (SrtpFilter.isActive_congr state).trans active
  rw [SrtpFilter.sessionsInUse, if_pos activeAfter, SrtpFilter.sessionsInUse, if_pos active,
    noSend, noRecv, has.1, has.2] at same
  have inUse := Option.some.inj same
  rcases bare with bare | bare
  · have protect := congrArg SrtpFilter.SessionsInUse.protectRtcp inUse
    rw [bare] at protect
    cases protect
  · have unprotect := congrArg SrtpFilter.SessionsInUse.unprotectRtcp inUse
    rw [bare] at unprotect
    cases unprotect

theorem setRtcpParams_refused_meets {after : SrtpFilter} (kept : keying.Kept)
    (noSend : keying.filter.sendRtcpSession = none)
    (noRecv : keying.filter.recvRtcpSession = none)
    (same : after = { keying.filter with
      sendRtcpSession := after.sendRtcpSession
      recvRtcpSession := after.recvRtcpSession })
    (bare : after.sendRtcpSession = some .new ∨ after.recvRtcpSession = some .new)
    (refused : ¬ (acceptsKey creates .anyInbound sendSuite sendKey = true ∧
      acceptsKey creates .anyInbound recvSuite recvKey = true)) :
    Meets keying (keying.after (false, after) keying.applied false)
      (keying.Allowed (.setRtcpParams creates sendSuite sendKey recvSuite recvKey)) True := by
  have state : after.state = keying.filter.state := by rw [same]
  have active := SrtpFilter.isActive_congr state
  refine ⟨?_, fun sound => ?_, fun inactive => ?_⟩
  · rw [same]
    exact kept
  · rw [sound_iff]
    by_cases now : keying.filter.isActive = true
    · rcases sound.keyed now with ⟨keys, _, has⟩
      refine iff_of_false ?_ fun allowed => refused (allowed now noSend noRecv)
      rintro ⟨_, harmless⟩
      rw [Keying.after, leavesAlone_newRtcpSession now has noSend noRecv bare] at harmless
      simp at harmless
    · have offer : after.offerParams = keying.filter.offerParams := by rw [same]
      refine iff_of_true ⟨fun later => absurd (active.symm.trans later) now, ?_⟩
        fun later => absurd later now
      exact after_harmless sound.harmless
        (.inr (leavesAlone_of_inactive state offer (not_eq_true _ ▸ now)))
  · refine iff_of_true (fun later => ?_) trivial
    exact (Bool.or_false _).trans (inactive (active.symm.trans later))

theorem setRtcpParams_meets (kept : keying.Kept) :
    Meets keying
      (keying.step (.setRtcpParams creates sendSuite sendKey recvSuite recvKey))
      (keying.Allowed (.setRtcpParams creates sendSuite sendKey recvSuite recvKey))
      (keying.AnsweredFirst (.setRtcpParams creates sendSuite sendKey recvSuite recvKey)) := by
  rw [step, Operation.run, SrtpFilter.setRtcpParams]
  split
  · rename_i present
    apply meets_of_refused kept
    · intro _ _ noSend noRecv
      rw [noSend, noRecv] at present
      exact absurd present (by decide)
    · exact fun _ => trivial
  rename_i present
  rw [not_or, not_eq_true, not_eq_true, isSome_eq_false_iff,
    isSome_eq_false_iff, isNone_iff_eq_none, isNone_iff_eq_none] at present
  rcases present with ⟨noSend, noRecv⟩
  rw [setRecv]
  split
  · rename_i refused
    apply setRtcpParams_refused_meets _ _ _ _ _ kept noSend noRecv rfl (.inl rfl)
    rintro ⟨accepted, _⟩
    rw [acceptsKey, refused] at accepted
    cases accepted
  rename_i send sendKeyed
  rw [setRecv]
  split
  · rename_i refused
    apply setRtcpParams_refused_meets _ _ _ _ _ kept noSend noRecv rfl (.inr rfl)
    rintro ⟨_, accepted⟩
    rw [acceptsKey, refused] at accepted
    cases accepted
  · rename_i recv recvKeyed
    refine ⟨kept, fun sound => ?_, fun inactive => ?_⟩
    · rw [sound_iff]
      refine iff_of_true ⟨sound.keyed, after_harmless sound.harmless (.inl rfl)⟩ fun _ _ _ => ?_
      rw [acceptsKey, acceptsKey, sendKeyed, recvKeyed]
      exact ⟨rfl, rfl⟩
    · refine iff_of_true (fun active => ?_) trivial
      exact (Bool.or_false _).trans (inactive active)

end Direct

/-! ## The answer -/

section Answer

variable {creates : Policy → Bool} {send recv : CryptoParams} {filter : SrtpFilter}

/-- The sessions got the keys of parameters, which are remembered. -/
def withApplied (send recv : CryptoParams) (keys : Policy × Policy) (filter : SrtpFilter) :
    SrtpFilter :=
  { filter with
    sendSession := some ⟨some keys.1⟩
    recvSession := some ⟨some keys.2⟩
    appliedSendParams := send
    appliedRecvParams := recv }

theorem policies_eq_some {keys : Policy × Policy} (known : policies send recv = some keys) :
    ∃ sendKey recvKey, parseKeyParams send.keyParams SRTP_MASTER_KEY_LEN = some sendKey ∧
      parseKeyParams recv.keyParams SRTP_MASTER_KEY_LEN = some recvKey ∧
      keys = (⟨.anyOutbound, send.cipherSuite, sendKey⟩,
        ⟨.anyInbound, recv.cipherSuite, recvKey⟩) := by
  rw [policies, policiesOf.eq_def] at known
  split at known
  · rename_i sendKey recvKey sendParsed recvParsed
    exact ⟨sendKey, recvKey, sendParsed, recvParsed, (Option.some.inj known).symm⟩
  · cases known

theorem applyParams_alreadyApplied (already : filter.alreadyApplied send recv = true) :
    filter.applyParams creates send recv = (true, filter) :=
  if_pos already

theorem applyParams_unparsed (fresh : ¬ filter.alreadyApplied send recv = true)
    (unknown : policies send recv = none) :
    filter.applyParams creates send recv = (false, filter) := by
  rw [SrtpFilter.applyParams, if_neg fresh]
  split
  · rename_i sendParsed recvParsed
    rw [policies, sendParsed, recvParsed] at unknown
    cases unknown
  · rfl

section

variable {keys : Policy × Policy} (fresh : ¬ filter.alreadyApplied send recv = true)
  (known : policies send recv = some keys)

include fresh known

theorem applyParams_accepted
    (accepted : acceptsKeys creates keys.1.cipherSuite (some keys.1.key) keys.2.cipherSuite
      (some keys.2.key) = true) :
    filter.applyParams creates send recv = (true, withApplied send recv keys filter) := by
  rcases policies_eq_some known with ⟨sendKey, recvKey, sendParsed, recvParsed, rfl⟩
  rcases SrtpFilter.setKeys_accepted filter.createSrtpSessions accepted with ⟨keys, given, keyed⟩
  cases given
  rw [SrtpFilter.applyParams, if_neg fresh, sendParsed, recvParsed]
  dsimp only
  rw [keyed]
  rfl

theorem applyParams_refused
    (refused : acceptsKeys creates keys.1.cipherSuite (some keys.1.key) keys.2.cipherSuite
      (some keys.2.key) = false) :
    ∃ session, filter.applyParams creates send recv =
      (false, { filter.createSrtpSessions with sendSession := session }) := by
  rcases policies_eq_some known with ⟨sendKey, recvKey, sendParsed, recvParsed, rfl⟩
  rcases SrtpFilter.setKeys_refused filter.createSrtpSessions refused with ⟨session, bare⟩
  refine ⟨session, ?_⟩
  rw [SrtpFilter.applyParams, if_neg fresh, sendParsed, recvParsed]
  dsimp only
  rw [bare]
  rfl

end

theorem meets_of_answered {answered : SrtpFilter} {keys : Option (Policy × Policy)}
    {allowed : Prop} (kept : (keying.after (true, answered) keys true).Kept)
    (keyed : keying.Sound → (((keying.after (true, answered) keys true).filter.isActive = true →
      (keying.after (true, answered) keys true).HasAppliedKeys) ↔ allowed)) :
    Meets keying (keying.after (true, answered) keys true) allowed True := by
  refine ⟨kept, fun sound => ?_, fun inactive => ?_⟩
  · rw [sound_iff, ← keyed sound]
    exact and_iff_left (after_harmless sound.harmless (.inl rfl))
  · exact iff_of_true (fun _ => Bool.or_true _) trivial

/-- What an answer does to the filter to which its parameters were applied. -/
def concluded (source : ContentSource) (final : Bool) (filter : SrtpFilter) : SrtpFilter :=
  if final = true then { filter with offerParams := [], state := .active }
  else
    { filter with
      state :=
        match source with
        | .local => .sentPrAnswer
        | .remote => .receivedPrAnswer }

theorem concluded_same (source : ContentSource) (final : Bool) (filter : SrtpFilter) :
    (concluded source final filter).isActive = true ∧
      (concluded source final filter).sendSession = filter.sendSession ∧
      (concluded source final filter).recvSession = filter.recvSession ∧
      (concluded source final filter).appliedSendParams = filter.appliedSendParams ∧
      (concluded source final filter).appliedRecvParams = filter.appliedRecvParams := by
  cases final <;> cases source <;> exact ⟨rfl, rfl, rfl, rfl, rfl⟩

variable {source : ContentSource}

theorem doSetAnswer_of_chosen {params : List CryptoParams}
    {final : Bool} {chosen : CryptoParams × CryptoParams}
    (expected : ¬ filter.expectAnswer source = false) (crypto : ¬ params = [])
    (negotiated : filter.chosenParams params source = some chosen) :
    filter.doSetAnswer creates params source final =
      if (filter.applyParams creates chosen.1 chosen.2).1 = false then
        filter.applyParams creates chosen.1 chosen.2
      else (true, concluded source final (filter.applyParams creates chosen.1 chosen.2).2) := by
  rw [SrtpFilter.doSetAnswer.eq_def, if_neg expected, if_neg crypto, negotiated]
  dsimp only
  split
  · rfl
  · cases final <;> rfl

theorem doSetAnswer_nil_meets {final : Bool} (kept : keying.Kept)
    (expected : ¬ keying.filter.expectAnswer source = false) :
    Meets keying (keying.after (keying.filter.doSetAnswer creates [] source final)
      keying.applied true) (AllowedAnswer keying.filter creates [] source) True := by
  have allowed : AllowedAnswer keying.filter creates [] source := by
    intro _ chosen negotiated
    cases negotiated
  rw [SrtpFilter.doSetAnswer.eq_def, if_neg expected, if_pos rfl]
  split
  · exact meets_of_answered kept fun _ => iff_of_true (fun active => nomatch active) allowed
  · refine meets_of_answered ?_ fun _ => iff_of_true (fun active => ?_) allowed
    · exact kept
    · cases source <;> exact nomatch active

theorem policies_alreadyApplied (already : filter.alreadyApplied send recv = true) :
    policies filter.appliedSendParams filter.appliedRecvParams = policies send recv := by
  rw [SrtpFilter.alreadyApplied, decide_eq_true_eq] at already
  exact policies_congr already.1 already.2

theorem hasAppliedKeys_alreadyApplied {final : Bool}
    (kept : keying.Kept) (already : keying.filter.alreadyApplied send recv = true) :
    (keying.after (true, concluded source final keying.filter) (policies send recv)
        true).HasAppliedKeys ↔ (policies send recv).isSome := by
  have same := policies_alreadyApplied already
  have sessions := concluded_same source final keying.filter
  constructor
  · rintro ⟨keys, known, _⟩
    exact isSome_iff_exists.mpr ⟨keys, known⟩
  · intro some
    rcases kept with ⟨noSend, noRecv⟩ | ⟨keys, known, _, has⟩
    · rw [← same, noSend, noRecv] at some
      cases some
    · refine ⟨keys, same.symm.trans known, ?_, ?_⟩
      · exact sessions.2.1.trans has.1
      · exact sessions.2.2.1.trans has.2

/-- The answer that the parameters were chosen by, once they were applied. -/
theorem applyParams_meets (source : ContentSource) (final : Bool) (kept : keying.Kept) :
    Meets keying
      (keying.after
        (if (keying.filter.applyParams creates send recv).1 = false then
          keying.filter.applyParams creates send recv
        else
          (true, concluded source final (keying.filter.applyParams creates send recv).2))
        (policies send recv) true)
      (AllowedParams keying.filter creates send recv) True := by
  rw [AllowedParams]
  by_cases already : keying.filter.alreadyApplied send recv = true
  · rw [if_pos already, applyParams_alreadyApplied already, if_neg true_eq_false_eq_False]
    have sessions := concluded_same source final keying.filter
    refine meets_of_answered ?_ fun _ => ?_
    · rcases kept with ⟨noSend, noRecv⟩ | ⟨keys, known, applied, has⟩
      · exact .inl ⟨sessions.2.2.2.1.trans noSend, sessions.2.2.2.2.trans noRecv⟩
      · refine .inr ⟨keys, ?_, (policies_alreadyApplied already).symm.trans known, ?_⟩
        · change policies (concluded source final _).appliedSendParams
            (concluded source final _).appliedRecvParams = some keys
          rw [sessions.2.2.2.1, sessions.2.2.2.2]
          exact known
        · exact ⟨sessions.2.1.trans has.1, sessions.2.2.1.trans has.2⟩
    · exact (forall_prop_of_true sessions.1).trans (hasAppliedKeys_alreadyApplied kept already)
  rw [if_neg already]
  cases known : policies send recv with
  | none =>
    rw [applyParams_unparsed already known, if_pos rfl]
    apply meets_of_refused kept _ fun _ => trivial
    intro _ _ keys found
    cases found
  | some keys =>
    by_cases accepted : acceptsKeys creates keys.1.cipherSuite (some keys.1.key)
        keys.2.cipherSuite (some keys.2.key) = true
    · rw [applyParams_accepted already known accepted, if_neg true_eq_false_eq_False]
      have sessions := concluded_same source final (withApplied send recv keys keying.filter)
      have has : (concluded source final (withApplied send recv keys keying.filter)).HasKeys
          keys := ⟨sessions.2.1, sessions.2.2.1⟩
      refine meets_of_answered (.inr ⟨keys, ?_, rfl, has⟩) fun _ => ?_
      · change policies (concluded source final _).appliedSendParams
          (concluded source final _).appliedRecvParams = some keys
        rw [sessions.2.2.2.1, sessions.2.2.2.2]
        exact known
      · refine iff_of_true (fun _ => ⟨keys, rfl, has⟩) fun _ other found => ?_
        cases found
        exact accepted
    · rcases applyParams_refused already known (not_eq_true _ ▸ accepted) with ⟨session, bare⟩
      rw [bare, if_pos rfl]
      apply meets_of_newSessions session
      · exact fun active allowed => accepted (allowed active keys rfl)
      · exact fun inactive active => absurd active inactive
      · trivial

theorem doSetAnswer_meets (creates : Policy → Bool) (params : List CryptoParams)
    (source : ContentSource) (final : Bool) (kept : keying.Kept) :
    Meets keying (keying.after (keying.filter.doSetAnswer creates params source final)
      (Operation.answerKeys keying.filter params source keying.applied) true)
      (AllowedAnswer keying.filter creates params source) True := by
  by_cases unexpected : keying.filter.expectAnswer source = false
  · rw [SrtpFilter.doSetAnswer.eq_def, if_pos unexpected]
    apply meets_of_refused kept _ fun _ => trivial
    intro _ expected
    rw [unexpected] at expected
    cases expected
  by_cases plain : params = []
  · subst plain
    exact doSetAnswer_nil_meets kept unexpected
  have expected := not_eq_false _ ▸ unexpected
  cases negotiated : keying.filter.chosenParams params source with
  | none =>
    rw [SrtpFilter.doSetAnswer.eq_def, if_neg unexpected, if_neg plain, negotiated]
    apply meets_of_refused kept _ fun _ => trivial
    intro _ _ chosen found
    rw [negotiated] at found
    cases found
  | some chosen =>
    rcases chosen with ⟨send, recv⟩
    have allowedIff : AllowedAnswer keying.filter creates params source ↔
        AllowedParams keying.filter creates send recv := by
      constructor
      · exact fun allowed => allowed expected _ negotiated
      · intro allowed _ other found
        rw [negotiated] at found
        cases found
        exact allowed
    rw [allowedIff, Operation.answerKeys, negotiated,
      doSetAnswer_of_chosen unexpected plain negotiated]
    exact applyParams_meets source final kept

end Answer

theorem step_meets (operation : Operation) (kept : keying.Kept) :
    Meets keying (keying.step operation) (keying.Allowed operation)
      (keying.AnsweredFirst operation) := by
  cases operation with
  | setOffer params source => exact setOffer_meets params source kept
  | setProvisionalAnswer creates params source =>
    exact doSetAnswer_meets creates params source false kept
  | setAnswer creates params source => exact doSetAnswer_meets creates params source true kept
  | setRtpParams creates sendSuite sendKey recvSuite recvKey =>
    exact setRtpParams_meets creates sendSuite sendKey recvSuite recvKey kept
  | setRtcpParams creates sendSuite sendKey recvSuite recvKey =>
    exact setRtcpParams_meets creates sendSuite sendKey recvSuite recvKey kept

/-- A property of all states of a run. -/
def Throughout (property : Keying → Prop) (operations : List Operation) : Prop :=
  ∀ count, property (Run.final step init (operations.take count))

/-- In every run the filter is sound exactly as long as the calls are allowed; and it is besides
not active before the first answer exactly as long as no other call makes it so. -/
theorem soundThroughout_iff (operations : List Operation) :
    (Throughout Sound operations ↔ Run.Allowed step Allowed init operations) ∧
      (Throughout (fun keying => keying.Sound ∧ keying.AnsweredBeforeActive) operations ↔
        Run.Allowed step (fun keying operation =>
          keying.Allowed operation ∧ keying.AnsweredFirst operation) init operations) := by
  constructor
  · apply Run.good_iff_allowed step _ init_kept init_sound
    intro keying operation kept
    have meets := step_meets operation kept
    exact ⟨meets.kept, meets.sound⟩
  · have steps : ∀ keying operation, Kept keying → Kept (step keying operation) ∧
        (keying.Sound ∧ keying.AnsweredBeforeActive →
          ((step keying operation).Sound ∧ (step keying operation).AnsweredBeforeActive ↔
            keying.Allowed operation ∧ keying.AnsweredFirst operation)) := by
      intro keying operation kept
      have meets := step_meets operation kept
      refine ⟨meets.kept, ?_⟩
      rintro ⟨sound, inactive⟩
      rw [meets.sound sound, meets.inactive inactive]
    exact Run.good_iff_allowed step steps init_kept ⟨init_sound, init_answeredBeforeActive⟩

/-- An offer that is made again before its answer makes the filter active, without sessions. -/
theorem not_soundThroughout_offerAgain :
    ¬ Throughout (fun keying => keying.Sound ∧ keying.AnsweredBeforeActive)
      [.setOffer [{ tag := 1, cipherSuite := CS_AES_CM_128_HMAC_SHA1_80 }] .local,
        .setOffer [{ tag := 1, cipherSuite := CS_AES_CM_128_HMAC_SHA1_80 }] .local] := by
  intro throughout
  rcases (throughout 2).1.keyed rfl with ⟨keys, applied, _⟩
  cases applied

end Keying

end ZyWebRtc.Srtp
