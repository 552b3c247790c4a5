import ZyWebRtc.Srtp.Keying

namespace ZyWebRtc.Srtp

/-! Two filters that are given the same offers and answers, each of which is local at one of
them and remote at the other: what one sends with is what the other receives with. -/

open SrtpFilter

inductive Party
  | a
  | b
  deriving DecidableEq

/-- Where a party finds what another, or itself, made. -/
def sourceAt (maker party : Party) : ContentSource := if maker = party then .local else .remote

/-- An offer or an answer of a party. The library takes a cipher suite and a key at both parties
or at neither, and for sending as for receiving. -/
inductive Move
  | offer (maker : Party) (params : List CryptoParams)
  | answer (maker : Party) (creates : Bytes → Bytes → Bool) (params : List CryptoParams)
      (final : Bool)

structure Pair where
  a : SrtpFilter := {}
  b : SrtpFilter := {}

def createsPolicy (creates : Bytes → Bytes → Bool) (policy : Policy) : Bool :=
  creates policy.cipherSuite policy.key

namespace Pair

/-- The result of an answer at a party, and its filter then. -/
def answerAt (party maker : Party) (creates : Bytes → Bytes → Bool) (params : List CryptoParams)
    (final : Bool) (pair : Pair) : Bool × SrtpFilter :=
  (match party with | .a => pair.a | .b => pair.b).doSetAnswer (createsPolicy creates) params
    (sourceAt maker party) final

def step (pair : Pair) : Move → Pair
  | .offer maker params =>
    { a := (pair.a.setOffer params (sourceAt maker .a)).2
      b := (pair.b.setOffer params (sourceAt maker .b)).2 }
  | .answer maker creates params final =>
    { a := (pair.answerAt .a maker creates params final).2
      b := (pair.answerAt .b maker creates params final).2 }

/-- Each sends with the cipher suite and the key that the other receives with. -/
def KeysAgree (pair : Pair) : Prop :=
  ∃ aSuite aKey bSuite bKey,
    pair.a.HasKeys (⟨.anyOutbound, aSuite, aKey⟩, ⟨.anyInbound, bSuite, bKey⟩) ∧
      pair.b.HasKeys (⟨.anyOutbound, bSuite, bKey⟩, ⟨.anyInbound, aSuite, aKey⟩)

end Pair

def ContentSource.mirror : ContentSource → ContentSource
  | .local => .remote
  | .remote => .local

def State.mirror : State → State
  | init => init
  | sentOffer => receivedOffer
  | receivedOffer => sentOffer
  | sentPrAnswerNoCrypto => receivedPrAnswerNoCrypto
  | receivedPrAnswerNoCrypto => sentPrAnswerNoCrypto
  | active => active
  | sentUpdatedOffer => receivedUpdatedOffer
  | receivedUpdatedOffer => sentUpdatedOffer
  | sentPrAnswer => receivedPrAnswer
  | receivedPrAnswer => sentPrAnswer

theorem sourceAt_b (maker : Party) : sourceAt maker .b = (sourceAt maker .a).mirror := by
  cases maker <;> rfl

/-- The filters negotiate from opposite sides, with the same offer, and remember the same
parameters as applied. -/
structure Mirrored (own other : SrtpFilter) : Prop where
  state : other.state = own.state.mirror
  offer : other.offerParams = own.offerParams
  sent : other.appliedRecvParams = own.appliedSendParams
  received : other.appliedSendParams = own.appliedRecvParams

/-- Parameters that are remembered as applied are those of the sessions, and without any there is
no key for receiving. -/
def Remembers (filter : SrtpFilter) : Prop :=
  filter.appliedSendParams = {} ∧ filter.appliedRecvParams = {} ∧
      (∀ policy, filter.recvSession ≠ some ⟨some policy⟩) ∨
    ∃ keys, policies filter.appliedSendParams filter.appliedRecvParams = some keys ∧
      filter.HasKeys keys

section Mirror

variable {own other : SrtpFilter}

theorem expectOffer_mirror (mirrored : Mirrored own other) (source : ContentSource) :
    other.expectOffer source.mirror = own.expectOffer source := by
  rw [expectOffer.eq_def, expectOffer.eq_def, mirrored.state]
  cases own.state <;> cases source <;> rfl

theorem expectAnswer_mirror (mirrored : Mirrored own other) (source : ContentSource) :
    other.expectAnswer source.mirror = own.expectAnswer source := by
  rw [expectAnswer.eq_def, expectAnswer.eq_def, mirrored.state]
  cases own.state <;> cases source <;> rfl

theorem setOffer_mirrored (mirrored : Mirrored own other) (params : List CryptoParams)
    (source : ContentSource) :
    Mirrored (own.setOffer params source).2 (other.setOffer params source.mirror).2 := by
  rw [SrtpFilter.setOffer, SrtpFilter.setOffer, expectOffer_mirror mirrored]
  split
  · refine ⟨?_, rfl, mirrored.sent, mirrored.received⟩
    dsimp only [storeParams]
    rw [mirrored.state]
    cases own.state <;> cases source <;> rfl
  · exact mirrored

theorem setOffer_remembers (remembers : Remembers own) (params : List CryptoParams)
    (source : ContentSource) : Remembers (own.setOffer params source).2 := by
  rw [SrtpFilter.setOffer]
  split
  · exact remembers
  · exact remembers

/-! ## The answer -/

theorem chosenParams_mirror (mirrored : Mirrored own other) (params : List CryptoParams)
    (source : ContentSource) :
    other.chosenParams params source.mirror = (own.chosenParams params source).map Prod.swap := by
  have same : other.negotiateParams params = own.negotiateParams params := by
    rw [negotiateParams.eq_def, negotiateParams.eq_def, mirrored.offer]
  rw [chosenParams.eq_def, chosenParams.eq_def, same]
  cases own.negotiateParams params <;> cases params <;> cases source <;> rfl

theorem alreadyApplied_mirror (mirrored : Mirrored own other) (send recv : CryptoParams) :
    other.alreadyApplied recv send = own.alreadyApplied send recv := by
  rw [alreadyApplied, alreadyApplied, mirrored.sent, mirrored.received]
  exact decide_eq_decide.mpr and_comm

theorem acceptsKey_mirror (creates : Bytes → Bytes → Bool) (suite : Bytes)
    (key : Option Bytes) :
    acceptsKey (createsPolicy creates) .anyInbound suite key =
      acceptsKey (createsPolicy creates) .anyOutbound suite key := by
  rw [Bool.eq_iff_iff, acceptsKey_iff, acceptsKey_iff]
  rfl

theorem policies_mirror (send recv : CryptoParams) :
    (policies send recv).isSome = (policies recv send).isSome := by
  rw [policies, policies, policiesOf.eq_def, policiesOf.eq_def]
  cases parseKeyParams send.keyParams SRTP_MASTER_KEY_LEN <;>
    cases parseKeyParams recv.keyParams SRTP_MASTER_KEY_LEN <;> rfl

theorem acceptsKeys_mirror (creates : Bytes → Bytes → Bool) (sendSuite recvSuite : Bytes)
    (sendKey recvKey : Option Bytes) :
    acceptsKeys (createsPolicy creates) recvSuite recvKey sendSuite sendKey =
      acceptsKeys (createsPolicy creates) sendSuite sendKey recvSuite recvKey := by
  rw [acceptsKeys, acceptsKeys, acceptsKey_mirror, acceptsKey_mirror, Bool.and_comm]

open Keying

/-- How an answer's parameters are applied at both filters, each of which takes for sending what
the other takes for receiving. -/
theorem applyParams_mirrored (mirrored : Mirrored own other) (creates : Bytes → Bytes → Bool)
    (send recv : CryptoParams) :
    (other.applyParams (createsPolicy creates) recv send).1 =
        (own.applyParams (createsPolicy creates) send recv).1 ∧
      Mirrored (own.applyParams (createsPolicy creates) send recv).2
        (other.applyParams (createsPolicy creates) recv send).2 := by
  have same := alreadyApplied_mirror mirrored send recv
  by_cases already : own.alreadyApplied send recv = true
  · rw [applyParams_alreadyApplied already, applyParams_alreadyApplied (same.trans already)]
    exact ⟨rfl, mirrored⟩
  have fresh : ¬ other.alreadyApplied recv send = true := by rwa [same]
  cases known : policies send recv with
  | none =>
    have unknown : policies recv send = none := by
      rw [← Option.isNone_iff_eq_none, ← Option.isSome_eq_false_iff, policies_mirror, known]
      rfl
    rw [applyParams_unparsed already known, applyParams_unparsed fresh unknown]
    exact ⟨rfl, mirrored⟩
  | some keys =>
    rcases policies_eq_some known with ⟨sendKey, recvKey, sendParsed, recvParsed, rfl⟩
    have mirror : policies recv send = some (⟨.anyOutbound, recv.cipherSuite, recvKey⟩,
        ⟨.anyInbound, send.cipherSuite, sendKey⟩) := by
      rw [policies, sendParsed, recvParsed]
      rfl
    have agreed := acceptsKeys_mirror creates send.cipherSuite recv.cipherSuite
      (some sendKey) (some recvKey)
    cases accepted : acceptsKeys (createsPolicy creates) send.cipherSuite (some sendKey)
        recv.cipherSuite (some recvKey) with
    | true =>
      rw [applyParams_accepted already known accepted,
        applyParams_accepted fresh mirror (agreed.trans accepted)]
      exact ⟨rfl, mirrored.state, mirrored.offer, rfl, rfl⟩
    | false =>
      rcases applyParams_refused already known accepted with ⟨session, result⟩
      rcases applyParams_refused fresh mirror (agreed.trans accepted) with
        ⟨otherSession, otherResult⟩
      rw [result, otherResult]
      exact ⟨rfl, mirrored.state, mirrored.offer, rfl, rfl⟩

theorem concluded_mirrored (mirrored : Mirrored own other) (source : ContentSource)
    (final : Bool) :
    Mirrored (concluded source final own) (concluded source.mirror final other) := by
  cases final <;> cases source <;>
    exact ⟨rfl, by first | rfl | exact mirrored.offer, mirrored.sent, mirrored.received⟩

theorem doSetAnswer_mirrored (mirrored : Mirrored own other) (creates : Bytes → Bytes → Bool)
    (params : List CryptoParams) (source : ContentSource) (final : Bool) :
    (other.doSetAnswer (createsPolicy creates) params source.mirror final).1 =
        (own.doSetAnswer (createsPolicy creates) params source final).1 ∧
      Mirrored (own.doSetAnswer (createsPolicy creates) params source final).2
        (other.doSetAnswer (createsPolicy creates) params source.mirror final).2 := by
  have same := expectAnswer_mirror mirrored source
  by_cases unexpected : own.expectAnswer source = false
  · rw [doSetAnswer.eq_def, if_pos (same.trans unexpected), doSetAnswer.eq_def, if_pos unexpected]
    exact ⟨rfl, mirrored⟩
  have otherExpected : ¬ other.expectAnswer source.mirror = false := by rwa [same]
  by_cases plain : params = []
  · rw [doSetAnswer.eq_def, if_neg otherExpected, if_pos plain,
      doSetAnswer.eq_def, if_neg unexpected, if_pos plain]
    cases final <;> cases source <;>
      exact ⟨rfl, rfl, by first | rfl | exact mirrored.offer, mirrored.sent, mirrored.received⟩
  have chosenSame := chosenParams_mirror mirrored params source
  cases negotiated : own.chosenParams params source with
  | none =>
    rw [negotiated] at chosenSame
    rw [doSetAnswer.eq_def, if_neg otherExpected, if_neg plain, chosenSame,
      doSetAnswer.eq_def, if_neg unexpected, if_neg plain, negotiated]
    exact ⟨rfl, mirrored⟩
  | some chosen =>
    rcases chosen with ⟨send, recv⟩
    rw [negotiated, Option.map_some, Prod.swap_prod_mk] at chosenSame
    rw [doSetAnswer_of_chosen unexpected plain negotiated,
      doSetAnswer_of_chosen otherExpected plain chosenSame]
    have applied := applyParams_mirrored mirrored creates send recv
    by_cases refused : (own.applyParams (createsPolicy creates) send recv).1 = false
    · rw [if_pos refused, if_pos (applied.1.trans refused)]
      exact applied
    · rw [if_neg refused, if_neg (by rwa [applied.1])]
      exact ⟨rfl, concluded_mirrored applied.2 source final⟩

/-! ## The keys after an answer -/

section

variable (remembers : Remembers own)

include remembers

theorem applyParams_remembers (creates : Policy → Bool)
    (send recv : CryptoParams) : Remembers (own.applyParams creates send recv).2 := by
  by_cases already : own.alreadyApplied send recv = true
  · rw [applyParams_alreadyApplied already]
    exact remembers
  cases known : policies send recv with
  | none =>
    rw [applyParams_unparsed already known]
    exact remembers
  | some keys =>
    cases accepted : acceptsKeys creates keys.1.cipherSuite (some keys.1.key)
        keys.2.cipherSuite (some keys.2.key) with
    | true =>
      rw [applyParams_accepted already known accepted]
      exact .inr ⟨keys, known, rfl, rfl⟩
    | false =>
      rcases applyParams_refused already known accepted with ⟨session, result⟩
      rw [result]
      exact .inl ⟨rfl, rfl, fun policy => nofun⟩

theorem concluded_remembers (source : ContentSource)
    (final : Bool) : Remembers (concluded source final own) := by
  cases final <;> exact remembers

theorem doSetAnswer_remembers (creates : Policy → Bool)
    (params : List CryptoParams) (source : ContentSource) (final : Bool) :
    Remembers (own.doSetAnswer creates params source final).2 := by
  by_cases unexpected : own.expectAnswer source = false
  · rw [doSetAnswer.eq_def, if_pos unexpected]
    exact remembers
  by_cases plain : params = []
  · rw [doSetAnswer.eq_def, if_neg unexpected, if_pos plain]
    cases final <;> exact remembers
  cases negotiated : own.chosenParams params source with
  | none =>
    rw [doSetAnswer.eq_def, if_neg unexpected, if_neg plain, negotiated]
    exact remembers
  | some chosen =>
    have applied := applyParams_remembers remembers creates chosen.1 chosen.2
    rw [doSetAnswer_of_chosen unexpected plain negotiated]
    split
    · exact applied
    · exact concluded_remembers applied source final

/-- Once parameters were applied, the sessions have their keys; but parameters without a key
count as applied when none are remembered. -/
theorem applyParams_keyed {creates : Policy → Bool}
    {send recv : CryptoParams} (applied : (own.applyParams creates send recv).1 = true) :
    (∃ keys, policies send recv = some keys ∧ (own.applyParams creates send recv).2.HasKeys keys) ∨
      send.keyParams = [] ∧ recv.keyParams = [] ∧
        ∀ policy, (own.applyParams creates send recv).2.recvSession ≠ some ⟨some policy⟩ := by
  by_cases already : own.alreadyApplied send recv = true
  · rw [applyParams_alreadyApplied already]
    rcases remembers with ⟨noSend, noRecv, bare⟩ | ⟨keys, known, has⟩
    · rw [alreadyApplied, decide_eq_true_eq, noSend, noRecv, CryptoParams.sameKey,
        CryptoParams.sameKey, decide_eq_true_eq, decide_eq_true_eq] at already
      exact .inr ⟨already.1.2.symm, already.2.2.symm, bare⟩
    · exact .inl ⟨keys, (policies_alreadyApplied already).symm.trans known, has⟩
  cases known : policies send recv with
  | none =>
    rw [applyParams_unparsed already known] at applied
    cases applied
  | some keys =>
    cases accepted : acceptsKeys creates keys.1.cipherSuite (some keys.1.key)
        keys.2.cipherSuite (some keys.2.key) with
    | true =>
      rw [applyParams_accepted already known accepted]
      exact .inl ⟨keys, rfl, rfl, rfl⟩
    | false =>
      rcases applyParams_refused already known accepted with ⟨session, result⟩
      rw [result] at applied
      cases applied

theorem doSetAnswer_keyed {creates : Policy → Bool}
    {params : List CryptoParams} {source : ContentSource} {final : Bool} (crypto : params ≠ [])
    (succeeds : (own.doSetAnswer creates params source final).1 = true) :
    ∃ chosen, own.chosenParams params source = some chosen ∧
      ((∃ keys, policies chosen.1 chosen.2 = some keys ∧
          (own.doSetAnswer creates params source final).2.HasKeys keys) ∨
        chosen.1.keyParams = [] ∧ chosen.2.keyParams = [] ∧
          ∀ policy, (own.doSetAnswer creates params source final).2.recvSession ≠
            some ⟨some policy⟩) := by
  by_cases unexpected : own.expectAnswer source = false
  · rw [doSetAnswer.eq_def, if_pos unexpected] at succeeds
    cases succeeds
  cases negotiated : own.chosenParams params source with
  | none =>
    rw [doSetAnswer.eq_def, if_neg unexpected, if_neg crypto, negotiated]
      at succeeds
    cases succeeds
  | some chosen =>
    rw [doSetAnswer_of_chosen unexpected crypto negotiated] at succeeds ⊢
    refine ⟨chosen, rfl, ?_⟩
    split at succeeds
    · rename_i refused
      rw [refused] at succeeds
      cases succeeds
    · rename_i applied
      have same := concluded_same source final (own.applyParams creates chosen.1 chosen.2).2
      rw [if_neg applied]
      rw [Bool.not_eq_false] at applied
      rcases applyParams_keyed remembers applied with ⟨keys, known, has⟩ | ⟨noSend, noRecv, bare⟩
      · exact .inl ⟨keys, known, same.2.1.trans has.1, same.2.2.1.trans has.2⟩
      · refine .inr ⟨noSend, noRecv, fun policy => ?_⟩
        rw [same.2.2.1]
        exact bare policy

end

theorem chosenParams_answer {params : List CryptoParams} {source : ContentSource}
    {chosen : CryptoParams × CryptoParams}
    (negotiated : own.chosenParams params source = some chosen) :
    ∃ answer, params = [answer] ∧ (chosen.1 = answer ∨ chosen.2 = answer) := by
  rw [chosenParams.eq_def, negotiateParams.eq_def] at negotiated
  rcases params with _ | ⟨answer, _ | ⟨second, rest⟩⟩
  · cases negotiated
  · refine ⟨answer, rfl, ?_⟩
    dsimp only at negotiated
    cases found : own.offerParams.find? answer.matches with
    | none =>
      rw [found] at negotiated
      cases negotiated
    | some selected =>
      rw [found] at negotiated
      cases source with
      | «local» =>
        cases negotiated
        exact .inl rfl
      | remote =>
        cases negotiated
        exact .inr rfl
  · cases negotiated

end Mirror

namespace Pair

/-! ## Every run -/

/-- What holds between the two filters in every run. -/
structure Kept (pair : Pair) : Prop where
  mirrored : Mirrored pair.a pair.b
  remembersA : Remembers pair.a
  remembersB : Remembers pair.b

theorem init_kept : Kept {} where
  mirrored := ⟨rfl, rfl, rfl, rfl⟩
  remembersA := .inl ⟨rfl, rfl, fun _ => nofun⟩
  remembersB := .inl ⟨rfl, rfl, fun _ => nofun⟩

variable {pair : Pair}

theorem answerAt_mirrored (mirrored : Mirrored pair.a pair.b) (maker : Party)
    (creates : Bytes → Bytes → Bool) (params : List CryptoParams) (final : Bool) :
    Mirrored (pair.answerAt .a maker creates params final).2
      (pair.answerAt .b maker creates params final).2 := by
  rw [answerAt, answerAt, sourceAt_b]
  exact (doSetAnswer_mirrored mirrored creates params _ final).2

theorem step_kept (move : Move) (kept : pair.Kept) : (pair.step move).Kept := by
  cases move with
  | offer maker params =>
    refine ⟨?_, setOffer_remembers kept.remembersA _ _, setOffer_remembers kept.remembersB _ _⟩
    rw [step, sourceAt_b]
    exact setOffer_mirrored kept.mirrored params _
  | answer maker creates params final =>
    exact ⟨answerAt_mirrored kept.mirrored maker creates params final,
      doSetAnswer_remembers kept.remembersA _ _ _ _,
      doSetAnswer_remembers kept.remembersB _ _ _ _⟩

theorem reached_kept (moves : List Move) : (Run.final step {} moves).Kept := by
  have always := Run.allowed_true step {} moves
  exact Run.invariant_final step (fun _ move kept _ => step_kept move kept) init_kept always

/-- The policies for sending and for receiving of one filter are those for receiving and for
sending of the other. -/
theorem hasKeys_mirror {send recv : CryptoParams} {own other : Policy × Policy}
    (ownKnown : policies send recv = some own) (otherKnown : policies recv send = some other) :
    ∃ sendKey recvKey, own = (⟨.anyOutbound, send.cipherSuite, sendKey⟩,
        ⟨.anyInbound, recv.cipherSuite, recvKey⟩) ∧
      other = (⟨.anyOutbound, recv.cipherSuite, recvKey⟩,
        ⟨.anyInbound, send.cipherSuite, sendKey⟩) := by
  rcases Keying.policies_eq_some ownKnown with ⟨sendKey, recvKey, sendParsed, recvParsed, rfl⟩
  rw [policies, sendParsed, recvParsed] at otherKnown
  exact ⟨sendKey, recvKey, rfl, (Option.some.inj otherKnown).symm⟩

/-- After any offers and answers, an answer with crypto that both filters apply leaves them with
the same keys exactly when its parameters have a key. -/
theorem keysAgree_iff (moves : List Move) (maker : Party) (creates : Bytes → Bytes → Bool)
    (params : List CryptoParams) (final : Bool) (crypto : params ≠ [])
    (appliedAtA :
      ((Run.final step {} moves).answerAt .a maker creates params final).1 = true)
    (appliedAtB :
      ((Run.final step {} moves).answerAt .b maker creates params final).1 = true) :
    ((Run.final step {} moves).step (.answer maker creates params final)).KeysAgree ↔
      ∀ answer ∈ params, answer.keyParams ≠ [] := by
  have kept := reached_kept moves
  generalize Run.final step {} moves = pair at *
  rcases doSetAnswer_keyed kept.remembersA crypto appliedAtA with ⟨⟨send, recv⟩, chosen, atA⟩
  rcases doSetAnswer_keyed kept.remembersB crypto appliedAtB with ⟨other, otherChosen, atB⟩
  have same := chosenParams_mirror kept.mirrored params (sourceAt maker .a)
  rw [← sourceAt_b, otherChosen, chosen, Option.map_some, Option.some.injEq,
    Prod.swap_prod_mk] at same
  subst same
  rcases chosenParams_answer chosen with ⟨answer, rfl, isAnswer⟩
  rw [List.forall_mem_singleton]
  rcases atA with ⟨keysA, knownA, hasA⟩ | ⟨noSend, noRecv, bare⟩
  · rcases atB with ⟨keysB, knownB, hasB⟩ | ⟨noRecv, noSend, _⟩
    · rcases hasKeys_mirror knownA knownB with ⟨sendKey, recvKey, rfl, rfl⟩
      refine iff_of_true ⟨_, _, _, _, hasA, hasB⟩ fun keyless => ?_
      rcases Keying.policies_eq_some knownA with ⟨_, _, sendParsed, recvParsed, _⟩
      rcases isAnswer with rfl | rfl
      · rw [keyless, parseKeyParams_nil] at sendParsed
        cases sendParsed
      · rw [keyless, parseKeyParams_nil] at recvParsed
        cases recvParsed
    · rw [policies, noSend, parseKeyParams_nil] at knownA
      cases knownA
  · refine iff_of_false ?_ ?_
    · rintro ⟨_, _, _, _, hasA, _⟩
      exact bare _ hasA.2
    · rcases isAnswer with rfl | rfl
      · exact fun keyed => keyed noSend
      · exact fun keyed => keyed noRecv

def repeatedParams (char : UInt8) : CryptoParams :=
  { tag := 1
    cipherSuite := CS_AES_CM_128_HMAC_SHA1_80
    keyParams := inlineMethod ++ List.replicate 40 char }

theorem keysAgree_iff_repeated :
    ((Run.final step {} [.offer .a [repeatedParams 65]]).step
      (.answer .b (fun _ _ => true) [repeatedParams 66] true)).KeysAgree :=
  (keysAgree_iff [.offer .a [repeatedParams 65]] .b (fun _ _ => true) [repeatedParams 66] true
    (by decide) (by decide) (by decide)).mpr (by decide)

/-- Parameters without a cipher suite and a key count as applied at both filters, which have no
keys then. -/
theorem not_keysAgree_keyless :
    ((Run.final step {} [.offer .a [{ tag := 1 }]]).answerAt .a .b (fun _ _ => true)
        [{ tag := 1 }] true).1 = true ∧
      ((Run.final step {} [.offer .a [{ tag := 1 }]]).answerAt .b .b (fun _ _ => true)
        [{ tag := 1 }] true).1 = true ∧
      ¬ ((Run.final step {} [.offer .a [{ tag := 1 }]]).step
        (.answer .b (fun _ _ => true) [{ tag := 1 }] true)).KeysAgree := by
  refine ⟨rfl, rfl, ?_⟩
  rintro ⟨_, _, _, _, hasA, _⟩
  cases hasA.1

end Pair

end ZyWebRtc.Srtp
