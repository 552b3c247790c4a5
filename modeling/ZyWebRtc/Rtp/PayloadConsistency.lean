import ZyWebRtc.Foundation.Run
import ZyWebRtc.Rtp.PayloadRegistry

namespace ZyWebRtc.Rtp.RegisteredPayloads

/-! The RED payload type of a registry against the payloads that are registered, and the
payloads of audio codecs against each other, over all runs of registrations. -/

open PayloadName RTPPayloadStrategy

section

variable (registry : RegisteredPayloads)

def RegisteredRed (payloadType : PayloadType) : Prop :=
  ∃ payload, registry.payloadTypeMap payloadType = some payload ∧ payload.name.IsRed

/-- The payload type is registered for audio under the name and with the codec. -/
def Carries (payloadType : PayloadType) (name : PayloadName)
    (codec : AudioPayload) : Prop :=
  ∃ payload, registry.payloadTypeMap payloadType = some payload ∧
    payload.name.sameAs name = true ∧ payload.typeSpecific = .audio codec

/-- What is registered agrees with itself. -/
structure Consistent (registry : RegisteredPayloads) : Prop where
  isRed : ∀ header, registry.isRed header = true ↔
    ∃ payloadType : PayloadType, payloadType.val = header.payloadType.toNat ∧
      registry.RegisteredRed payloadType
  unique : ∀ first second name codec, registry.Carries first name codec →
    registry.Carries second name codec → first = second

/-- A payload of the type is replaced when the name and the codec are registered. -/
def Replaceable (name : PayloadName) (codec : AudioPayload)
    (payloadType : PayloadType) : Prop :=
  ∃ payload, registry.payloadTypeMap payloadType = some payload ∧
    registry.replaces name codec payload = true

/-- Names that begin with "red" are "red", no other type of a video registry has that name, and
a payload of the same codec is the first one to be replaced. -/
def AddsConsistently (name : PayloadName)
    (codec : AudioPayload) : Prop :=
  (name.startsWith "red" = true → name.IsRed ∧ (registry.rtpPayloadStrategy = .video →
      ∀ other, ¬ registry.RegisteredRed other)) ∧
  ∀ other, registry.Carries other name codec →
    ∀ before < other, ¬ registry.Replaceable name codec before

/-- The operation leaves a consistent registry consistent: the type of RED is not deregistered,
a new rate makes no two payloads equal, and a new payload is added consistently. -/
def KeepsConsistent : Operation → Prop
  | .deregister payloadType => ¬ registry.RegisteredRed payloadType
  | .register name payloadType codec =>
    isReserved payloadType = false →
      (∀ payload, registry.payloadTypeMap payloadType = some payload →
        payload.name.sameAs name = true →
        registry.rtpPayloadStrategy.payloadIsCompatible codec payload.typeSpecific = true →
        ∀ other ≠ payloadType, ¬ registry.Carries other name codec) ∧
      (registry.payloadTypeMap payloadType = none → registry.AddsConsistently name codec)

/-- A name of an audio payload in an audio registry. -/
def AudioName (name : PayloadName) : Prop :=
  registry.rtpPayloadStrategy = .audio ∧ name.startsWith "red" = false ∧
    name.startsWith "ulpfec" = false

/-- Audio payloads are registered in audio registries only, and not for RED or ULPFEC. -/
def Kept : Prop :=
  ∀ payloadType payload codec, registry.payloadTypeMap payloadType = some payload →
    payload.typeSpecific = .audio codec → registry.AudioName payload.name

end

variable {registry : RegisteredPayloads}

/-- The kept type of RED is the only one under its name. -/
def RedCached (registry : RegisteredPayloads) : Prop :=
  ∀ payloadType, registry.redPayloadType = some payloadType ↔ registry.RegisteredRed payloadType

def Unique (registry : RegisteredPayloads) : Prop :=
  ∀ first second name codec, registry.Carries first name codec →
    registry.Carries second name codec → first = second

theorem isRed_iff (header : RTPHeader) :
    registry.isRed header = true ↔
      ∃ payloadType : PayloadType, payloadType.val = header.payloadType.toNat ∧
        registry.redPayloadType = some payloadType := by
  rw [isRed]
  cases registry.redPayloadType with
  | none => simp
  | some payloadType => simp [eq_comm]

def headerOf (payloadType : PayloadType) : RTPHeader where
  markerBit := false
  payloadType := UInt8.ofNat payloadType
  sequenceNumber := 0
  timestamp := 0
  ssrc := 0
  numCSRCs := 0
  arrOfCSRCs := Vector.replicate _ 0
  paddingLength := 0
  headerLength := 0
  extension := { transmissionTimeOffset := 0, absoluteSendTime := 0 }

theorem headerOf_payloadType (payloadType : PayloadType) :
    (headerOf payloadType).payloadType.toNat = payloadType := by
  change (UInt8.ofNat payloadType).toNat = payloadType
  rw [UInt8.toNat_ofNat']
  omega

theorem consistent_iff : registry.Consistent ↔ registry.RedCached ∧ registry.Unique := by
  constructor
  · intro consistent
    refine ⟨fun payloadType => ?_, consistent.unique⟩
    have here := (isRed_iff (headerOf payloadType)).symm.trans
      (consistent.isRed (headerOf payloadType))
    simp only [headerOf_payloadType, Fin.val_inj, exists_eq_left] at here
    exact here
  · rintro ⟨cached, unique⟩
    refine ⟨fun header => ?_, unique⟩
    rw [isRed_iff]
    apply exists_congr
    intro payloadType
    rw [cached payloadType]

/-! ## Changes of the map -/

section Map

variable {name : PayloadName} {codec : AudioPayload} {payloadType other : PayloadType}
  {payload : NamedPayload}

section

variable (payload : Option NamedPayload)

@[simp] theorem setPayload_redPayloadType :
    (registry.setPayload payloadType payload).redPayloadType = registry.redPayloadType := rfl

theorem setPayload_map_of_ne (different : other ≠ payloadType) :
    (registry.setPayload payloadType payload).payloadTypeMap other =
      registry.payloadTypeMap other :=
  Function.update_of_ne different _ _

@[simp] theorem setPayload_map_self :
    (registry.setPayload payloadType payload).payloadTypeMap payloadType = payload :=
  Function.update_self _ _ _

theorem registeredRed_setPayload_iff (different : other ≠ payloadType) :
    (registry.setPayload payloadType payload).RegisteredRed other ↔
      registry.RegisteredRed other := by
  rw [RegisteredRed, RegisteredRed, setPayload_map_of_ne payload different]

theorem carries_setPayload_iff (different : other ≠ payloadType) :
    (registry.setPayload payloadType payload).Carries other name codec ↔
      registry.Carries other name codec := by
  rw [Carries, Carries, setPayload_map_of_ne payload different]

end

theorem not_registeredRed_removed :
    ¬ (registry.setPayload payloadType none).RegisteredRed payloadType := by
  rintro ⟨payload, found, -⟩
  rw [setPayload_map_self] at found
  cases found

theorem not_carries_removed :
    ¬ (registry.setPayload payloadType none).Carries payloadType name codec := by
  rintro ⟨payload, found, -⟩
  rw [setPayload_map_self] at found
  cases found

theorem registeredRed_set_iff :
    (registry.setPayload payloadType (some payload)).RegisteredRed payloadType ↔
      payload.name.IsRed := by
  rw [RegisteredRed, setPayload_map_self]
  simp

theorem carries_set_iff :
    (registry.setPayload payloadType (some payload)).Carries payloadType name codec ↔
      payload.name.sameAs name = true ∧ payload.typeSpecific = .audio codec := by
  rw [Carries, setPayload_map_self]
  simp

theorem Kept.setPayload (kept : registry.Kept)
    (audio : ∀ codec, payload.typeSpecific = .audio codec → registry.AudioName payload.name) :
    (registry.setPayload payloadType (some payload)).Kept := by
  intro other found codec stored isAudio
  by_cases same : other = payloadType
  · rw [same, setPayload_map_self] at stored
    cases stored
    exact audio codec isAudio
  · rw [setPayload_map_of_ne _ same] at stored
    exact kept other found codec stored isAudio

theorem Kept.remove (kept : registry.Kept) : (registry.setPayload payloadType none).Kept := by
  intro other found codec stored isAudio
  by_cases same : other = payloadType
  · rw [same, setPayload_map_self] at stored
    cases stored
  · rw [setPayload_map_of_ne _ same] at stored
    exact kept other found codec stored isAudio

theorem Unique.remove (unique : registry.Unique) :
    (registry.setPayload payloadType none).Unique := by
  intro first second name codec firstCarries secondCarries
  have firstOther : first ≠ payloadType := fun same => not_carries_removed (same ▸ firstCarries)
  have secondOther : second ≠ payloadType := fun same => not_carries_removed (same ▸ secondCarries)
  exact unique first second name codec
    ((carries_setPayload_iff none firstOther).mp firstCarries)
    ((carries_setPayload_iff none secondOther).mp secondCarries)

theorem unique_set_iff (unique : registry.Unique)
    (same : payload.name.sameAs name = true) (audio : payload.typeSpecific = .audio codec) :
    (registry.setPayload payloadType (some payload)).Unique ↔
      ∀ other ≠ payloadType, ¬ registry.Carries other name codec := by
  have here : (registry.setPayload payloadType (some payload)).Carries payloadType name codec :=
    carries_set_iff.mpr ⟨same, audio⟩
  constructor
  · intro uniqueAfter other different carries
    exact different (uniqueAfter other payloadType name codec
      ((carries_setPayload_iff _ different).mpr carries) here)
  · intro none first second otherName otherCodec firstCarries secondCarries
    have only {third : PayloadType} (different : third ≠ payloadType)
        (third : (registry.setPayload payloadType (some payload)).Carries third otherName
          otherCodec) :
        ¬ (registry.setPayload payloadType (some payload)).Carries payloadType otherName
          otherCodec := by
      intro equal
      rw [carries_set_iff, audio, TypeSpecific.audio.injEq] at equal
      rcases (carries_setPayload_iff _ different).mp third with ⟨found, stored, named, coded⟩
      refine none _ different ⟨found, stored, ?_, coded.trans (by rw [equal.2])⟩
      rw [sameAs_iff] at named same equal ⊢
      exact named.trans (equal.1.symm.trans same)
    by_cases firstHere : first = payloadType <;> by_cases secondHere : second = payloadType
    · exact firstHere.trans secondHere.symm
    · exact absurd (firstHere ▸ firstCarries) (only secondHere secondCarries)
    · exact absurd (secondHere ▸ secondCarries) (only firstHere firstCarries)
    · exact unique first second otherName otherCodec
        ((carries_setPayload_iff _ firstHere).mp firstCarries)
        ((carries_setPayload_iff _ secondHere).mp secondCarries)

theorem Unique.setVideo (unique : registry.Unique) {video : VideoPayload}
    (isVideo : payload.typeSpecific = .video video) :
    (registry.setPayload payloadType (some payload)).Unique := by
  have other {third : PayloadType} {name : PayloadName} {codec : AudioPayload}
      (carries : (registry.setPayload payloadType (some payload)).Carries third name codec) :
      third ≠ payloadType := by
    rintro rfl
    rw [carries_set_iff, isVideo] at carries
    cases carries.2
  intro first second name codec firstCarries secondCarries
  exact unique first second name codec
    ((carries_setPayload_iff _ (other firstCarries)).mp firstCarries)
    ((carries_setPayload_iff _ (other secondCarries)).mp secondCarries)

theorem redCached_removed_iff (cached : registry.RedCached) :
    (registry.setPayload payloadType none).RedCached ↔ ¬ registry.RegisteredRed payloadType := by
  constructor
  · intro cachedAfter red
    exact not_registeredRed_removed
      ((cachedAfter payloadType).mp ((cached payloadType).mpr red))
  · intro notRed other
    rw [setPayload_redPayloadType, cached other]
    by_cases same : other = payloadType
    · rw [same]
      exact iff_of_false notRed not_registeredRed_removed
    · exact (registeredRed_setPayload_iff none same).symm

theorem RedCached.set (cached : registry.RedCached)
    (fresh : registry.payloadTypeMap payloadType = none) (notRed : ¬ payload.name.IsRed) :
    (registry.setPayload payloadType (some payload)).RedCached := by
  intro other
  rw [setPayload_redPayloadType, cached other]
  by_cases same : other = payloadType
  · rw [same, registeredRed_set_iff]
    refine iff_of_false ?_ notRed
    rintro ⟨found, stored, -⟩
    rw [fresh] at stored
    cases stored
  · exact (registeredRed_setPayload_iff _ same).symm

theorem RedCached.update (cached : registry.RedCached) {stored : NamedPayload}
    (used : registry.payloadTypeMap payloadType = some stored)
    (same : payload.name = stored.name) :
    (registry.setPayload payloadType (some payload)).RedCached := by
  intro other
  rw [setPayload_redPayloadType, cached other]
  by_cases here : other = payloadType
  · rw [here, registeredRed_set_iff, RegisteredRed, used, same]
    simp
  · exact (registeredRed_setPayload_iff _ here).symm

theorem redCached_setRed_iff (fresh : registry.payloadTypeMap payloadType = none) :
    ({ registry with redPayloadType := some payloadType }.setPayload payloadType
      (some payload)).RedCached ↔
      payload.name.IsRed ∧ ∀ other, ¬ registry.RegisteredRed other := by
  have elsewhere {other : PayloadType} (different : other ≠ payloadType) :
      ({ registry with redPayloadType := some payloadType }.setPayload payloadType
        (some payload)).RegisteredRed other ↔ registry.RegisteredRed other :=
    registeredRed_setPayload_iff _ different
  constructor
  · intro cached
    refine ⟨registeredRed_set_iff.mp ((cached payloadType).mp rfl), fun other red => ?_⟩
    have different : other ≠ payloadType := by
      rintro rfl
      rcases red with ⟨found, stored, -⟩
      rw [fresh] at stored
      cases stored
    have kept := (cached other).mpr ((elsewhere different).mpr red)
    exact different (Option.some.inj kept).symm
  · rintro ⟨red, alone⟩ other
    by_cases here : other = payloadType
    · rw [here]
      exact iff_of_true rfl (registeredRed_set_iff.mpr red)
    · rw [elsewhere here]
      exact iff_of_false (fun same => here (Option.some.inj same).symm) (alone other)

end Map

/-! ## What a registration removes -/

section Removal

variable {name : PayloadName} {codec : AudioPayload} {payloadType other : PayloadType}

theorem deregister_cases (registry : RegisteredPayloads) (name : PayloadName)
    (codec : AudioPayload) :
    ((∀ payloadType, ¬ registry.Replaceable name codec payloadType) ∧
      registry.deregisterAudioCodecOrRedType name codec = registry) ∨
    ∃ payloadType, registry.Replaceable name codec payloadType ∧
      (∀ before < payloadType, ¬ registry.Replaceable name codec before) ∧
      registry.deregisterAudioCodecOrRedType name codec = registry.setPayload payloadType none := by
  have found (payloadType : PayloadType) :
      (registry.payloadTypeMap payloadType).any (registry.replaces name codec) = true ↔
        registry.Replaceable name codec payloadType := by
    rw [Option.any_eq_true_iff_get, Replaceable]
    cases registry.payloadTypeMap payloadType <;> simp
  rw [deregisterAudioCodecOrRedType]
  split
  · next payloadType first =>
      rw [List.find?_eq_some_iff_append] at first
      rcases first with ⟨here, before, after, all, earlier⟩
      refine .inr ⟨payloadType, (found payloadType).mp here, fun other less replaceable => ?_, rfl⟩
      have member : other ∈ before ++ payloadType :: after := all ▸ List.mem_finRange other
      have ordered : (before ++ payloadType :: after).Pairwise (· < ·) :=
        all ▸ List.pairwise_lt_finRange 128
      rcases List.mem_append.mp member with inBefore | inRest
      · have missed := earlier other inBefore
        rw [(found other).mpr replaceable] at missed
        cases missed
      · rcases List.mem_cons.mp inRest with same | inAfter
        · exact absurd same (Fin.ne_of_lt less)
        · have later := (List.pairwise_cons.mp (List.pairwise_append.mp ordered).2.1).1 other
            inAfter
          exact absurd less (Fin.lt_asymm later)
  · next none =>
      refine .inl ⟨fun payloadType replaceable => ?_, rfl⟩
      have missed := List.find?_eq_none.mp none payloadType (List.mem_finRange payloadType)
      exact missed ((found payloadType).mpr replaceable)

theorem deregister_removes (registry : RegisteredPayloads) (name : PayloadName)
    (codec : AudioPayload) {result : RegisteredPayloads}
    (removed : registry.deregisterAudioCodecOrRedType name codec = result) :
    ∀ other, (result.payloadTypeMap other = registry.payloadTypeMap other ∧
        (registry.Replaceable name codec other →
          ∃ before < other, registry.Replaceable name codec before)) ∨
      (result.payloadTypeMap other = none ∧ registry.Replaceable name codec other ∧
        ∀ before < other, ¬ registry.Replaceable name codec before) := by
  intro other
  rcases deregister_cases registry name codec with ⟨none, same⟩ | ⟨first, here, earlier, same⟩
  · rw [same] at removed
    exact .inl ⟨by rw [removed], fun replaceable => absurd replaceable (none other)⟩
  · rw [same] at removed
    by_cases isFirst : other = first
    · rw [isFirst, ← removed]
      exact .inr ⟨setPayload_map_self none, here, earlier⟩
    · rw [← removed]
      refine .inl ⟨setPayload_map_of_ne none isFirst, fun replaceable => ⟨first, ?_, here⟩⟩
      by_contra notLess
      exact earlier other (lt_of_le_of_ne (not_lt.mp notLess) isFirst) replaceable

theorem deregister_map_of_none (fresh : registry.payloadTypeMap other = none) :
    (registry.deregisterAudioCodecOrRedType name codec).payloadTypeMap other = none := by
  rcases deregister_removes registry name codec rfl other with ⟨same, -⟩ | ⟨gone, -⟩
  · exact same.trans fresh
  · exact gone

theorem deregister_strategy :
    (registry.deregisterAudioCodecOrRedType name codec).rtpPayloadStrategy =
      registry.rtpPayloadStrategy := by
  rcases deregister_cases registry name codec with ⟨-, same⟩ | ⟨_, -, -, same⟩
  · rw [same]
  · rw [same]
    rfl

theorem deregister_kept (kept : registry.Kept) :
    (registry.deregisterAudioCodecOrRedType name codec).Kept := by
  rcases deregister_cases registry name codec with ⟨-, same⟩ | ⟨_, -, -, same⟩
  · rwa [same]
  · rw [same]
    exact kept.remove

theorem deregister_unique (unique : registry.Unique) :
    (registry.deregisterAudioCodecOrRedType name codec).Unique := by
  rcases deregister_cases registry name codec with ⟨-, same⟩ | ⟨_, -, -, same⟩
  · rwa [same]
  · rw [same]
    exact unique.remove

theorem deregister_redCached (cached : registry.RedCached)
    (other : name.startsWith "red" = false) :
    (registry.deregisterAudioCodecOrRedType name codec).RedCached := by
  rcases deregister_cases registry name codec with ⟨-, same⟩ | ⟨first, here, -, same⟩
  · rwa [same]
  · rw [same, redCached_removed_iff cached]
    rintro ⟨payload, stored, red⟩
    rcases here with ⟨found, storedHere, replaced⟩
    rw [stored] at storedHere
    cases storedHere
    rw [replaces, Bool.and_eq_true] at replaced
    have begins := red.startsWith
    rw [startsWith_eq_of_sameAs replaced.1, other] at begins
    cases begins

theorem deregister_red (kept : registry.Kept) (cached : registry.RedCached) (red : name.IsRed) :
    ∀ other, ¬ (registry.deregisterAudioCodecOrRedType name codec).RegisteredRed other := by
  have replaceable {other : PayloadType} (registered : registry.RegisteredRed other) :
      registry.Replaceable name codec other := by
    rcases registered with ⟨payload, stored, isRed⟩
    refine ⟨payload, stored, ?_⟩
    rw [replaces, Bool.and_eq_true]
    refine ⟨(sameAs_iff _ _).mpr (isRed.trans red.symm), ?_⟩
    cases specific : payload.typeSpecific with
    | audio found =>
      have begins := (kept other payload found stored specific).2.1
      rw [isRed.startsWith] at begins
      cases begins
    | video _ => exact red.startsWith
  rcases deregister_cases registry name codec with ⟨none, same⟩ | ⟨first, here, -, same⟩
  · rw [same]
    exact fun other registered => none other (replaceable registered)
  · rw [same]
    have firstRed : registry.RegisteredRed first := by
      rcases here with ⟨payload, stored, replaced⟩
      rw [replaces, Bool.and_eq_true] at replaced
      exact ⟨payload, stored, (isRed_iff_of_sameAs replaced.1).mpr red⟩
    intro other registered
    by_cases isFirst : other = first
    · exact not_registeredRed_removed (isFirst ▸ registered)
    · have registeredBefore := (registeredRed_setPayload_iff none isFirst).mp registered
      have cachedFirst := (cached first).mpr firstRed
      rw [(cached other).mpr registeredBefore] at cachedFirst
      exact isFirst (Option.some.inj cachedFirst)

theorem deregister_codec_iff (kept : registry.Kept)
    (fresh : registry.payloadTypeMap payloadType = none) :
    (∀ other ≠ payloadType,
        ¬ (registry.deregisterAudioCodecOrRedType name codec).Carries other name codec) ↔
      ∀ other, registry.Carries other name codec →
        ∀ before < other, ¬ registry.Replaceable name codec before := by
  have removes := deregister_removes registry name codec rfl
  constructor
  · intro none other carries before less replaceable
    have different : other ≠ payloadType := by
      rintro rfl
      rcases carries with ⟨payload, stored, -⟩
      rw [fresh] at stored
      cases stored
    apply none other different
    rcases removes other with ⟨same, -⟩ | ⟨-, -, earlier⟩
    · rw [Carries, same]
      exact carries
    · exact absurd replaceable (earlier before less)
  · intro first other _ carries
    rcases removes other with ⟨same, onwards⟩ | ⟨gone, -⟩
    · rw [Carries, same] at carries
      rcases carries with ⟨payload, stored, named, coded⟩
      have strategy := (kept other payload codec stored coded).1
      have replaceable : registry.Replaceable name codec other := by
        refine ⟨payload, stored, ?_⟩
        rw [replaces, named, coded, strategy]
        simp [payloadIsCompatible]
      rcases onwards replaceable with ⟨before, less, earlier⟩
      exact first other ⟨payload, stored, named, coded⟩ before less earlier
    · rcases carries with ⟨payload, stored, -⟩
      rw [gone] at stored
      cases stored

end Removal

/-! ## Steps -/

section Steps

variable {name : PayloadName} {codec : AudioPayload} {payloadType : PayloadType}

theorem not_carries_of_name (kept : registry.Kept) (notAudio : ¬ registry.AudioName name)
    (other : PayloadType) : ¬ registry.Carries other name codec := by
  rintro ⟨payload, stored, named, coded⟩
  apply notAudio
  have audioName := kept other payload codec stored coded
  rw [AudioName, startsWith_eq_of_sameAs named, startsWith_eq_of_sameAs named] at audioName
  exact audioName

theorem addPayload_red (begins : name.startsWith "red" = true)
    (unique : registry.Unique) (fresh : registry.payloadTypeMap payloadType = none) :
    (registry.addPayload name payloadType codec).2.Consistent ↔
      name.IsRed ∧ ∀ other, ¬ registry.RegisteredRed other := by
  rw [consistent_iff, addPayload]
  simp only [begins, if_true]
  have uniqueAfter : (registry.setPayload payloadType (some (.cleared name))).Unique :=
    unique.setVideo rfl
  constructor
  · intro consistent
    exact (redCached_setRed_iff fresh).mp consistent.1
  · intro alone
    exact ⟨(redCached_setRed_iff fresh).mpr alone, uniqueAfter⟩

theorem addPayload_other (begins : name.startsWith "red" = false)
    (cached : registry.RedCached) (unique : registry.Unique)
    (fresh : registry.payloadTypeMap payloadType = none) :
    (registry.addPayload name payloadType codec).2.Consistent ↔ (registry.AudioName name →
        ∀ other ≠ payloadType, ¬ registry.Carries other name codec) := by
  have notRed : ¬ name.IsRed := by
    intro red
    rw [red.startsWith] at begins
    cases begins
  rw [consistent_iff, addPayload]
  simp only [begins, Bool.false_eq_true, if_false]
  cases fec : name.startsWith "ulpfec" with
  | true =>
    have cachedAfter : (registry.setPayload payloadType (some (.cleared name))).RedCached :=
      cached.set fresh notRed
    have uniqueAfter : (registry.setPayload payloadType (some (.cleared name))).Unique :=
      unique.setVideo rfl
    apply iff_of_true ⟨cachedAfter, uniqueAfter⟩
    rintro ⟨-, -, notFec⟩
    rw [fec] at notFec
    cases notFec
  | false =>
    simp only [Bool.false_eq_true, if_false]
    have cachedAfter : (registry.setPayload payloadType
        (some (registry.rtpPayloadStrategy.createPayloadType name codec))).RedCached := by
      apply cached.set fresh
      cases registry.rtpPayloadStrategy <;> exact notRed
    cases strategy : registry.rtpPayloadStrategy with
    | audio =>
      rw [strategy] at cachedAfter
      have itself : name.sameAs name = true := (sameAs_iff _ _).mpr rfl
      have uniqueAfter : (registry.setPayload payloadType
          (some (RTPPayloadStrategy.audio.createPayloadType name codec))).Unique ↔
          ∀ other ≠ payloadType, ¬ registry.Carries other name codec :=
        unique_set_iff unique itself rfl
      constructor
      · exact fun consistent _ => uniqueAfter.mp consistent.2
      · exact fun alone => ⟨cachedAfter, uniqueAfter.mpr (alone ⟨strategy, begins, fec⟩)⟩
    | video =>
      rw [strategy] at cachedAfter
      have uniqueAfter : (registry.setPayload payloadType
          (some (RTPPayloadStrategy.video.createPayloadType name codec))).Unique :=
        unique.setVideo rfl
      apply iff_of_true ⟨cachedAfter, uniqueAfter⟩
      intro audioName
      rw [AudioName, strategy] at audioName
      cases audioName.1

theorem addPayload_kept (kept : registry.Kept) :
    (registry.addPayload name payloadType codec).2.Kept := by
  have cleared (codec : AudioPayload)
      (audio : (NamedPayload.cleared name).typeSpecific = .audio codec) :
      registry.AudioName name := by cases audio
  rw [addPayload]
  cases red : name.startsWith "red" with
  | true => exact kept.setPayload cleared
  | false =>
    cases fec : name.startsWith "ulpfec" with
    | true => exact kept.setPayload cleared
    | false =>
      apply kept.setPayload
      intro found audio
      change (registry.rtpPayloadStrategy.createPayloadType name codec).typeSpecific = _ at audio
      cases strategy : registry.rtpPayloadStrategy with
      | audio => exact ⟨strategy, red, fec⟩
      | video =>
        rw [strategy] at audio
        cases audio

theorem makeRoom_audio (audio : registry.rtpPayloadStrategy = .audio) :
    registry.makeRoom name codec = registry.deregisterAudioCodecOrRedType name codec := by
  rw [makeRoom, audio]
  rfl

theorem makeRoom_video (video : registry.rtpPayloadStrategy = .video) :
    registry.makeRoom name codec = registry := by
  rw [makeRoom, video]
  rfl

section

variable (kept : registry.Kept)

include kept

theorem makeRoom_kept : (registry.makeRoom name codec).Kept := by
  rw [makeRoom]
  split
  · exact deregister_kept kept
  · exact kept

theorem addPayload_makeRoom_iff (consistent : registry.Consistent)
    (fresh : registry.payloadTypeMap payloadType = none) :
    ((registry.makeRoom name codec).addPayload name payloadType codec).2.Consistent ↔
      registry.AddsConsistently name codec := by
  rw [consistent_iff] at consistent
  rcases consistent with ⟨cached, unique⟩
  cases begins : name.startsWith "red" with
  | true =>
    have notAudio : ¬ registry.AudioName name := by
      rintro ⟨-, notRed, -⟩
      rw [begins] at notRed
      cases notRed
    rw [AddsConsistently]
    simp only [begins, true_imp_iff]
    cases strategy : registry.rtpPayloadStrategy with
    | audio =>
      rw [makeRoom_audio strategy, addPayload_red begins (deregister_unique unique)
        (deregister_map_of_none fresh)]
      constructor
      · rintro ⟨red, -⟩
        exact ⟨⟨red, nofun⟩,
          fun other carries => absurd carries (not_carries_of_name kept notAudio other)⟩
      · rintro ⟨⟨red, -⟩, -⟩
        exact ⟨red, deregister_red kept cached red⟩
    | video =>
      rw [makeRoom_video strategy, addPayload_red begins unique fresh]
      constructor
      · rintro ⟨red, alone⟩
        exact ⟨⟨red, fun _ => alone⟩,
          fun other carries => absurd carries (not_carries_of_name kept notAudio other)⟩
      · rintro ⟨⟨red, alone⟩, -⟩
        exact ⟨red, alone rfl⟩
  | false =>
    rw [AddsConsistently]
    simp only [begins, Bool.false_eq_true, false_imp_iff, true_and]
    cases strategy : registry.rtpPayloadStrategy with
    | audio =>
      rw [makeRoom_audio strategy, addPayload_other begins (deregister_redCached cached begins)
        (deregister_unique unique) (deregister_map_of_none fresh),
        deregister_codec_iff kept fresh, AudioName, deregister_strategy]
      by_cases audioName : registry.AudioName name
      · exact ⟨fun first => first audioName, fun first _ => first⟩
      · exact iff_of_true (fun isAudio => absurd isAudio audioName)
          fun other carries => absurd carries (not_carries_of_name kept audioName other)
    | video =>
      have notAudio : ¬ registry.AudioName name := by
        rintro ⟨audio, -⟩
        rw [strategy] at audio
        cases audio
      rw [makeRoom_video strategy, addPayload_other begins cached unique fresh]
      exact iff_of_true (fun isAudio => absurd isAudio notAudio)
        fun other carries => absurd carries (not_carries_of_name kept notAudio other)

theorem updateRate_consistent_iff (consistent : registry.Consistent)
    {payload : NamedPayload} (used : registry.payloadTypeMap payloadType = some payload)
    (same : payload.name.sameAs name = true)
    (compatible : registry.rtpPayloadStrategy.payloadIsCompatible codec payload.typeSpecific =
      true) :
    (registry.setPayload payloadType
      (some (updatePayloadRate codec.rate payload))).Consistent ↔
      ∀ other ≠ payloadType, ¬ registry.Carries other name codec := by
  rw [consistent_iff] at consistent ⊢
  rcases consistent with ⟨cached, unique⟩
  have named : (updatePayloadRate codec.rate payload).name = payload.name :=
    rfl
  rw [and_iff_right (cached.update used named)]
  cases specific : payload.typeSpecific with
  | audio stored =>
    apply unique_set_iff unique (named ▸ same)
    have strategy := (kept payloadType payload stored used specific).1
    rw [updatePayloadRate, specific]
    rw [strategy, specific] at compatible
    simp only [payloadIsCompatible, Bool.and_eq_true, Bool.or_eq_true,
      decide_eq_true_iff] at compatible
    rcases compatible with ⟨⟨frequency, channels⟩, -⟩
    change TypeSpecific.audio { stored with rate := codec.rate } = .audio codec
    rw [frequency, channels]
  | video stored =>
    have video : (updatePayloadRate codec.rate payload).typeSpecific =
        .video { stored with maxRate := codec.rate } := by
      rw [updatePayloadRate, specific]
    apply iff_of_true (unique.setVideo video)
    intro other _ carries
    rcases carries with ⟨found, storedOther, _, coded⟩
    have strategy := (kept other found codec storedOther coded).1
    rw [strategy, specific] at compatible
    cases compatible

theorem register_kept : (registry.registerReceivePayload name payloadType codec).2.Kept := by
  rw [registerReceivePayload]
  split
  · exact kept
  · split
    · next payload used =>
        split
        · apply kept.setPayload
          intro found audio
          cases specific : payload.typeSpecific with
          | audio stored => exact kept payloadType payload stored used specific
          | video _ =>
            rw [updatePayloadRate, specific] at audio
            cases audio
        · exact kept
    · exact addPayload_kept (makeRoom_kept kept)

theorem register_consistent_iff (consistent : registry.Consistent) :
    (registry.registerReceivePayload name payloadType codec).2.Consistent ↔
      registry.KeepsConsistent (.register name payloadType codec) := by
  rw [registerReceivePayload, KeepsConsistent]
  cases isReserved payloadType with
  | true => exact iff_of_true consistent nofun
  | false =>
    simp only [Bool.false_eq_true, if_false, true_imp_iff]
    cases used : registry.payloadTypeMap payloadType with
    | some payload =>
      simp only [Option.some.injEq, forall_eq', reduceCtorEq, false_imp_iff, and_true]
      by_cases same : payload.name.sameAs name = true
      · by_cases compatible : registry.rtpPayloadStrategy.payloadIsCompatible codec
            payload.typeSpecific = true
        · simp only [same, compatible, Bool.and_self, if_true, true_imp_iff]
          exact updateRate_consistent_iff kept consistent used same compatible
        · simp [same, compatible, consistent]
      · simp [same, consistent]
    | none =>
      simp only [reduceCtorEq, false_imp_iff, implies_true, true_and, true_imp_iff]
      exact addPayload_makeRoom_iff kept consistent used

theorem deRegister_kept : (registry.deRegisterReceivePayload payloadType).2.Kept := by
  rw [deRegisterReceivePayload]
  split
  · exact kept
  · exact kept.remove

end

theorem deRegister_consistent_iff (consistent : registry.Consistent) :
    (registry.deRegisterReceivePayload payloadType).2.Consistent ↔
      registry.KeepsConsistent (.deregister payloadType) := by
  rw [deRegisterReceivePayload, KeepsConsistent]
  cases used : registry.payloadTypeMap payloadType with
  | none =>
    apply iff_of_true consistent
    rintro ⟨payload, stored, -⟩
    rw [used] at stored
    cases stored
  | some payload =>
    rw [consistent_iff] at consistent ⊢
    rw [and_iff_left consistent.2.remove, redCached_removed_iff consistent.1]

end Steps

theorem new_kept (strategy : RTPPayloadStrategy) : (new strategy).Kept := by
  intro payloadType payload codec stored
  cases stored

theorem new_consistent (strategy : RTPPayloadStrategy) : (new strategy).Consistent := by
  rw [consistent_iff]
  constructor
  · intro payloadType
    apply iff_of_false nofun
    rintro ⟨payload, stored, -⟩
    cases stored
  · rintro first second name codec ⟨payload, stored, -⟩
    cases stored

def redRemoved : List Operation :=
  [.register ⟨"red".toList, by decide⟩ ⟨104, by decide⟩
      { frequency := 90000, channels := 0, rate := 0 },
    .deregister ⟨104, by decide⟩]

end ZyWebRtc.Rtp.RegisteredPayloads
