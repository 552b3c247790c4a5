import ZyWebRtc.Srtp.Filter

namespace ZyWebRtc.Srtp

/-! The cryptos that the contents of a BUNDLE group are left with. -/

open List

structure MediaContentDescription where
  protocol : Bytes
  cryptos : List CryptoParams
  deriving DecidableEq

/-- A content, and whether the description of its transport is secure. -/
structure ContentInfo where
  isMediaContent : Bool
  description : Option MediaContentDescription
  secure : Bool
  deriving DecidableEq

abbrev SessionDescription := Bytes → Option ContentInfo

def kMediaProtocolRtpPrefix : Bytes := [82, 84, 80, 47]

namespace SessionDescription

variable (sdesc : SessionDescription)

def isRtpContent (contentName : Bytes) : Bool :=
  match sdesc contentName with
  | some ⟨true, some media, _⟩ =>
    media.protocol = [] || kMediaProtocolRtpPrefix.isPrefixOf media.protocol
  | _ => false

def getCryptosByName (contentName : Bytes) : Option (List CryptoParams) :=
  match sdesc contentName with
  | some ⟨true, some media, _⟩ => some media.cryptos
  | _ => none

def isSecure (contentName : Bytes) : Bool :=
  (sdesc contentName).any ContentInfo.secure

def pruneCryptos (filter targetCryptos : List CryptoParams) : List CryptoParams :=
  targetCryptos.filter fun crypto => filter.any fun other => other.cipherSuite = crypto.cipherSuite

/-- The first loop, with the value that is returned if it is left early. -/
def commonCryptos : (begins : Bool) → List Bytes → (commonCryptosNeeded : Bool) →
    List CryptoParams → Except Bool (Bool × List CryptoParams)
  | _, [], needed, common => .ok (needed, common)
  | begins, name :: names, needed, common =>
    if !sdesc.isRtpContent name then commonCryptos false names needed common
    else
      let needed := needed || !sdesc.isSecure name
      match sdesc.getCryptosByName name with
      | none => .error false
      | some cryptos =>
        if begins then
          if cryptos = [] then .error true else commonCryptos false names needed cryptos
        else commonCryptos false names needed (pruneCryptos cryptos common)

/-- The second loop. -/
def setCryptos (contentNames : List Bytes) (common : List CryptoParams) : SessionDescription :=
  fun name => if name ∈ contentNames ∧ sdesc.isRtpContent name then
      (sdesc name).map fun content => { content with
          description := content.description.map fun media => { media with cryptos := common } }
    else sdesc name

def updateCryptoParamsForBundle (contentNames : List Bytes) : Bool × SessionDescription :=
  if contentNames = [] then (false, sdesc)
  else
    match sdesc.commonCryptos true contentNames false [] with
    | .error result => (result, sdesc)
    | .ok (needed, common) =>
      if common = [] ∧ needed then (false, sdesc)
      else (true, sdesc.setCryptos contentNames common)

/-! ## The property -/

/-- A content has cryptos for a suite. -/
def Offers (name suite : Bytes) : Prop :=
  ∃ cryptos ∈ sdesc.getCryptosByName name, ∃ crypto ∈ cryptos, crypto.cipherSuite = suite

def IsCommon (contentNames : List Bytes) (suite : Bytes) : Prop :=
  ∀ name ∈ contentNames, sdesc.isRtpContent name → sdesc.Offers name suite

/-- The update succeeds if the contents have a suite in common or do not need one, leaves them with
the common suites, and comes to the same for every order of the group. -/
structure Intersects (contentNames : List Bytes) : Prop where
  result : (sdesc.updateCryptoParamsForBundle contentNames).1 = true ↔
    (∃ suite, sdesc.IsCommon contentNames suite) ∨
      ∀ name ∈ contentNames, sdesc.isRtpContent name → sdesc.isSecure name
  suites : (sdesc.updateCryptoParamsForBundle contentNames).1 = true →
    ∀ name ∈ contentNames, sdesc.isRtpContent name → ∀ suite,
      (sdesc.updateCryptoParamsForBundle contentNames).2.Offers name suite ↔
        sdesc.IsCommon contentNames suite
  order : ∀ others, List.Perm others contentNames → (sdesc.updateCryptoParamsForBundle others).1 =
        (sdesc.updateCryptoParamsForBundle contentNames).1 ∧
      ∀ name suite, (sdesc.updateCryptoParamsForBundle others).2.Offers name suite ↔
        (sdesc.updateCryptoParamsForBundle contentNames).2.Offers name suite

/-- All contents of the group are RTP, or none is, or those that are have no suite in common. -/
def Uniform (contentNames : List Bytes) : Prop :=
  contentNames ≠ [] ∧ ((∀ name ∈ contentNames, sdesc.isRtpContent name) ∨
      (∀ name ∈ contentNames, ¬sdesc.isRtpContent name) ∨
      ¬∃ suite, sdesc.IsCommon contentNames suite)

/-! ## The first loop -/

variable {sdesc} {names : List Bytes} {name : Bytes}

theorem exists_getCryptosByName (rtp : sdesc.isRtpContent name = true) :
    ∃ cryptos, sdesc.getCryptosByName name = some cryptos := by
  rw [isRtpContent.eq_def] at rtp
  rw [getCryptosByName.eq_def]
  split at rtp
  next => exact ⟨_, rfl⟩
  next => cases rtp

/-- Some crypto is for a suite. -/
def HasSuite (cryptos : List CryptoParams) (suite : Bytes) : Prop :=
  ∃ crypto ∈ cryptos, crypto.cipherSuite = suite

theorem hasSuite_pruneCryptos {filter target : List CryptoParams} {suite : Bytes} :
    HasSuite (pruneCryptos filter target) suite ↔ HasSuite target suite ∧ HasSuite filter suite := by
  constructor
  · rintro ⟨crypto, member, rfl⟩
    rcases mem_filter.mp member with ⟨inTarget, found⟩
    rcases List.any_eq_true.mp found with ⟨other, inFilter, same⟩
    exact ⟨⟨crypto, inTarget, rfl⟩, other, inFilter, of_decide_eq_true same⟩
  · rintro ⟨⟨crypto, inTarget, rfl⟩, other, inFilter, same⟩
    exact ⟨crypto, mem_filter.mpr ⟨inTarget, List.any_eq_true.mpr
      ⟨other, inFilter, decide_eq_true same⟩⟩, rfl⟩

theorem commonCryptos_later :
    ∀ {needed : Bool} {common : List CryptoParams}, ∃ found,
      sdesc.commonCryptos false names needed common =
        .ok (needed || names.any fun name => sdesc.isRtpContent name && !sdesc.isSecure name,
          found) ∧
      ∀ suite, HasSuite found suite ↔ HasSuite common suite ∧ sdesc.IsCommon names suite := by
  induction names with
  | nil =>
    intro needed common
    rw [commonCryptos, any_nil, Bool.or_false]
    exact ⟨common, rfl, fun suite => (and_iff_left nofun).symm⟩
  | cons name names induction =>
    intro needed common
    rw [commonCryptos, any_cons]
    cases rtp : sdesc.isRtpContent name with
    | false =>
      rcases @induction needed common with ⟨found, result, suites⟩
      refine ⟨found, result, fun suite => ?_⟩
      rw [suites, IsCommon, IsCommon, forall_mem_cons, rtp]
      simp
    | true =>
      rcases exists_getCryptosByName rtp with ⟨cryptos, known⟩
      rcases @induction (needed || !sdesc.isSecure name) (pruneCryptos cryptos common) with
        ⟨found, result, suites⟩
      refine ⟨found, ?_, fun suite => ?_⟩
      · rw [if_neg (by decide), known]
        dsimp only
        rw [if_neg Bool.false_ne_true, result, Bool.true_and, Bool.or_assoc]
      · rw [suites, hasSuite_pruneCryptos, IsCommon, IsCommon, forall_mem_cons, rtp, Offers, known]
        simp [HasSuite, and_assoc]

/-- A suite is in the common set after the first loop. -/
def Kept (sdesc : SessionDescription) (contentNames : List Bytes) (suite : Bytes) : Prop :=
  (∃ name ∈ contentNames.head?, sdesc.isRtpContent name) ∧ sdesc.IsCommon contentNames suite

theorem commonCryptos_first (named : names ≠ [])
    (offering : ∀ name ∈ names, sdesc.isRtpContent name → sdesc.getCryptosByName name ≠ some []) :
    ∃ found, sdesc.commonCryptos true names false [] =
        .ok (names.any fun name => sdesc.isRtpContent name && !sdesc.isSecure name, found) ∧
      ∀ suite, HasSuite found suite ↔ Kept sdesc names suite := by
  cases names with
  | nil => exact absurd rfl named
  | cons name names =>
    rw [commonCryptos, any_cons]
    cases rtp : sdesc.isRtpContent name with
    | false =>
      rcases @commonCryptos_later sdesc names false [] with ⟨found, result, suites⟩
      refine ⟨found, result, fun suite => ?_⟩
      rw [suites]
      simp [HasSuite, Kept, rtp]
    | true =>
      rcases exists_getCryptosByName rtp with ⟨cryptos, known⟩
      have filled : cryptos ≠ [] := fun empty => offering name mem_cons_self rtp (empty ▸ known)
      rcases @commonCryptos_later sdesc names (false || !sdesc.isSecure name) cryptos with
        ⟨found, result, suites⟩
      refine ⟨found, ?_, fun suite => ?_⟩
      · rw [if_neg (by decide), known]
        dsimp only
        rw [if_pos rfl, if_neg filled, result, Bool.false_or, Bool.true_and]
      · rw [suites, Kept, IsCommon, IsCommon, forall_mem_cons, Offers, known]
        simp [HasSuite, rtp]

theorem offers_setCryptos {common : List CryptoParams} {suite : Bytes} :
    (sdesc.setCryptos names common).Offers name suite ↔
      if name ∈ names ∧ sdesc.isRtpContent name then HasSuite common suite
      else sdesc.Offers name suite := by
  by_cases updated : name ∈ names ∧ sdesc.isRtpContent name = true
  · have rtp := updated.2
    rw [if_pos updated, Offers, getCryptosByName, setCryptos, if_pos updated]
    rw [isRtpContent.eq_def] at rtp
    split at rtp
    next found =>
      rw [found]
      simp [HasSuite]
    next => cases rtp
  · rw [if_neg updated, Offers, Offers, getCryptosByName, getCryptosByName, setCryptos,
      if_neg updated]

/-! ## The update -/

theorem updateCryptoParamsForBundle_outcome (named : names ≠ [])
    (offering : ∀ name ∈ names, sdesc.isRtpContent name → sdesc.getCryptosByName name ≠ some []) :
    ((sdesc.updateCryptoParamsForBundle names).1 = true ↔ (∃ suite, Kept sdesc names suite) ∨
          ∀ name ∈ names, sdesc.isRtpContent name → sdesc.isSecure name) ∧
      ∀ name suite, (sdesc.updateCryptoParamsForBundle names).2.Offers name suite ↔
        if (sdesc.updateCryptoParamsForBundle names).1 = true ∧ name ∈ names ∧
            sdesc.isRtpContent name then Kept sdesc names suite
        else sdesc.Offers name suite := by
  rcases commonCryptos_first named offering with ⟨found, result, suites⟩
  have secure : (names.any fun name => sdesc.isRtpContent name && !sdesc.isSecure name) = false ↔
      ∀ name ∈ names, sdesc.isRtpContent name → sdesc.isSecure name := by
    simp [List.any_eq_false]
  have kept : (∃ suite, Kept sdesc names suite) ↔ found ≠ [] := by
    simp only [← suites]
    cases found <;> simp [HasSuite]
  have update : sdesc.updateCryptoParamsForBundle names = if found = [] ∧
          (names.any fun name => sdesc.isRtpContent name && !sdesc.isSecure name) = true then
        (false, sdesc)
      else (true, sdesc.setCryptos names found) := by
    rw [updateCryptoParamsForBundle, if_neg named, result]
  rw [kept, ← secure]
  by_cases refused : found = [] ∧
      (names.any fun name => sdesc.isRtpContent name && !sdesc.isSecure name) = true
  · simp only [update.trans (if_pos refused), refused.1, refused.2]
    simp
  · simp only [update.trans (if_neg refused)]
    rw [not_and_or, Bool.not_eq_true] at refused
    refine ⟨iff_of_true trivial refused, fun name suite => ?_⟩
    rw [offers_setCryptos, suites]
    simp only [true_and]

theorem Uniform.outcome (uniform : sdesc.Uniform names)
    (offering : ∀ name ∈ names, sdesc.isRtpContent name → sdesc.getCryptosByName name ≠ some []) :
    ((sdesc.updateCryptoParamsForBundle names).1 = true ↔ (∃ suite, sdesc.IsCommon names suite) ∨
          ∀ name ∈ names, sdesc.isRtpContent name → sdesc.isSecure name) ∧
      ∀ name suite, (sdesc.updateCryptoParamsForBundle names).2.Offers name suite ↔
        if (sdesc.updateCryptoParamsForBundle names).1 = true ∧ name ∈ names ∧
            sdesc.isRtpContent name then sdesc.IsCommon names suite
        else sdesc.Offers name suite := by
  rcases uniform with ⟨named, group⟩
  rcases updateCryptoParamsForBundle_outcome named offering with ⟨result, offers⟩
  rcases group with rtp | other | none
  · -- the first name is an RTP content, so that what is kept is what is common
    have same : ∀ suite, Kept sdesc names suite ↔ sdesc.IsCommon names suite := fun suite =>
      and_iff_right ⟨names.head named, List.head?_eq_some_head named, rtp _ (head_mem named)⟩
    simp only [same] at result offers
    exact ⟨result, offers⟩
  · refine ⟨result.trans (iff_of_true (Or.inr fun name member isRtp =>
      absurd isRtp (other name member)) (Or.inr fun name member isRtp =>
      absurd isRtp (other name member))), fun name suite => ?_⟩
    have outside : ¬((sdesc.updateCryptoParamsForBundle names).1 = true ∧ name ∈ names ∧
        sdesc.isRtpContent name = true) := fun inside => other name inside.2.1 inside.2.2
    rw [offers, if_neg outside, if_neg outside]
  · have same : ∀ suite, Kept sdesc names suite ↔ sdesc.IsCommon names suite := fun suite =>
      ⟨And.right, fun common => absurd ⟨suite, common⟩ none⟩
    simp only [same] at result offers
    exact ⟨result, offers⟩

theorem isCommon_perm {others : List Bytes} (same : List.Perm others names) {suite : Bytes} :
    sdesc.IsCommon others suite ↔ sdesc.IsCommon names suite := by
  simp only [IsCommon, same.mem_iff]

theorem Uniform.perm {others : List Bytes} (same : List.Perm others names)
    (uniform : sdesc.Uniform names) : sdesc.Uniform others := by
  rw [Uniform] at uniform ⊢
  simp only [isCommon_perm same, same.mem_iff]
  exact ⟨fun empty => uniform.1 (nil_perm.mp (empty ▸ same)), uniform.2⟩

theorem Intersects.uniform (intersects : sdesc.Intersects names)
    (offering : ∀ name ∈ names, sdesc.isRtpContent name →
      sdesc.getCryptosByName name ≠ some []) : sdesc.Uniform names := by
  have named : names ≠ [] := by
    rintro rfl
    exact absurd (intersects.result.mpr (Or.inr nofun)) (by simp [updateCryptoParamsForBundle])
  refine ⟨named, ?_⟩
  by_contra mixed
  simp only [not_or, not_forall, not_not] at mixed
  rcases mixed with ⟨⟨other, otherMember, notRtp⟩, ⟨content, member, rtp⟩, suite, common⟩
  -- with the other content in front nothing is kept
  have same := (perm_cons_erase otherMember).symm
  rcases @updateCryptoParamsForBundle_outcome sdesc _
    (cons_ne_nil other (names.erase other))
    (fun name member => offering name (same.mem_iff.mp member)) with ⟨_, offers⟩
  have none : ¬Kept sdesc (other :: names.erase other) suite := fun kept => by
    rcases kept.1 with ⟨name, first, isRtp⟩
    cases Option.mem_some.mp first
    exact notRtp isRtp
  have succeeds := intersects.result.mpr (Or.inl ⟨suite, common⟩)
  have offered := (intersects.suites succeeds content member rtp suite).mpr common
  rcases intersects.order _ same with ⟨results, suites⟩
  rw [← suites, offers, if_pos ⟨results.trans succeeds, same.mem_iff.mpr member, rtp⟩] at offered
  exact none offered

/-- An offer of audio with one suite, and of data without cryptos. -/
def audioAndData : SessionDescription := fun name =>
  if name = [97] then some ⟨true, some ⟨[], [⟨1, [49], [], []⟩]⟩, false⟩
  else if name = [100] then some ⟨true, some ⟨[68], []⟩, false⟩
  else none

end SessionDescription

end ZyWebRtc.Srtp
