import ZyWebRtc.Foundation.Run

namespace ZyWebRtc.RtcWorker

/-! The engines of `webrtc_native_api` with their sub-APIs: how they are created and deleted, and
what a creation that fails leaves behind. -/

open List

/-- Engines are numbered in the order of their construction. -/
abbrev Engine := Nat

inductive VoiceApi
  | base
  | codec
  | file
  | netw
  | apm
  | volume
  | hardware
  | rtp
  deriving DecidableEq

inductive VideoApi
  | base
  | codec
  | netw
  | rtp
  | render
  | capture
  | externalCodec
  deriving DecidableEq

def VoiceApi.all : List VoiceApi := [.base, .codec, .file, .netw, .apm, .volume, .hardware, .rtp]

def VideoApi.all : List VideoApi :=
  [.base, .codec, .netw, .rtp, .render, .capture, .externalCodec]

/-- The sub-APIs that the engines were compiled with. -/
structure Build where
  voice : VoiceApi → Bool
  video : VideoApi → Bool

namespace Build

/-- `GetInterface` of the other sub-APIs does not depend on the build. -/
def givesVoice (build : Build) : VoiceApi → Bool
  | .base | .netw => true
  | api => build.voice api

def givesVideo (build : Build) : VideoApi → Bool
  | .base | .netw => true
  | api => build.video api

end Build

/-- Each sub-API is a pointer to an engine, which may be one that was deleted. -/
structure VoiceEngineData where
  ve : Option Engine
  api : VoiceApi → Option Engine

structure VideoEngineData where
  vie : Option Engine
  api : VideoApi → Option Engine

/-- `references` counts the references of each voice engine, `users` those of each sub-API of the
video engine. -/
structure Engines where
  voeData : VoiceEngineData
  vieData : VideoEngineData
  count : Nat
  references : Engine → Nat
  users : VideoApi → Int
  deleted : List Engine

namespace Engines

def start : Engines where
  voeData := ⟨none, fun _ => none⟩
  vieData := ⟨none, fun _ => none⟩
  count := 0
  references := fun _ => 0
  users := fun _ => 0
  deleted := []

variable (build : Build) (engines : Engines)

/-- `VoiceEngineImpl::Release`, with the number of references that are left. -/
def release (engine : Engine) (engines : Engines) : Nat × Engines :=
  let left := engines.references engine - 1
  (left, { engines with
    references := Function.update engines.references engine left
    deleted := if left = 0 then engine :: engines.deleted else engines.deleted })

/-- The pointer is kept when `Release` does not return zero. -/
def releaseSubApi (engines : Engines) (api : VoiceApi) : Engines :=
  match engines.voeData.api api with
  | none => engines
  | some engine =>
    let (left, engines) := engines.release engine
    if left ≠ 0 then engines
    else
      { engines with
        voeData.api := Function.update engines.voeData.api api none }

def veReleaseSubApis : Engines := VoiceApi.all.foldl releaseSubApi engines

/-- Every sub-API is asked for, whatever the others give. -/
def veGetSubApis (engine : Engine) (engines : Engines) : Bool × Engines :=
  (VoiceApi.all.all build.givesVoice, { engines with
    voeData.api := fun api => if build.givesVoice api then some engine else none
    references := Function.update engines.references engine
      (engines.references engine + VoiceApi.all.countP build.givesVoice) })

/-- `VoiceEngine::Delete`, which takes away the engine from its owner. -/
def voiceEngineDelete (engine : Engine) (engines : Engines) : Engines :=
  { (engines.release engine).2 with voeData.ve := none }

/-- `creates` says whether there is an engine from `VoiceEngine::Create`. -/
def voECreate (creates : Bool) : Bool × Engines :=
  if engines.voeData.ve.isSome then (false, engines)
  else if !creates then (false, engines)
  else
    let engine := engines.count
    let created := { engines with
      voeData.ve := some engine
      count := engine + 1
      references := Function.update engines.references engine 1 }
    let (getOk, asked) := created.veGetSubApis build engine
    if !getOk then (false, asked.veReleaseSubApis.voiceEngineDelete engine)
    else (true, asked)

def voEDelete : Bool × Engines :=
  match engines.voeData.ve with
  | none => (false, engines)
  | some engine => (true, engines.veReleaseSubApis.voiceEngineDelete engine)

/-- The sub-APIs are asked for until one is not there. -/
def getVideoSubApis (engine : Engine) : List VideoApi → Engines → Int × Engines
  | [], engines => (0, engines)
  | api :: rest, engines =>
    if build.givesVideo api then
      getVideoSubApis engine rest { engines with
        vieData.api := Function.update engines.vieData.api api (some engine)
        users := Function.update engines.users api (engines.users api + 1) }
    else
      (-1, { engines with vieData.api := Function.update engines.vieData.api api none })

def getVideoEngine (creates : Bool) : Int × Engines :=
  if engines.vieData.vie.isSome then (0, engines)
  else if !creates then (-1, engines)
  else
    let engine := engines.count
    getVideoSubApis build engine VideoApi.all { engines with
      vieData.vie := some engine
      count := engine + 1
      users := fun _ => 0 }

/-- The sub-APIs are released, and the engine is deleted when none has users left. -/
def terminate : Int × Engines :=
  match engines.vieData.vie with
  | none => (-1, engines)
  | some engine =>
    let released := { engines with
      users := fun api =>
        if (engines.vieData.api api).isSome then engines.users api - 1 else engines.users api }
    if VideoApi.all.any fun api => released.users api > 0 then (-1, released)
    else
      (0, { released with
        vieData := ⟨none, fun _ => none⟩
        deleted := engine :: released.deleted })

/-! ## Runs -/

inductive Call
  | voECreate (creates : Bool)
  | voEDelete
  | getVideoEngine (creates : Bool)
  | terminate
  deriving DecidableEq

def step (engines : Engines) : Call → Engines
  | .voECreate creates => (engines.voECreate build creates).2
  | .voEDelete => engines.voEDelete.2
  | .getVideoEngine creates => (engines.getVideoEngine build creates).2
  | .terminate => engines.terminate.2

def CreationFails : Call → Prop
  | .voECreate creates => (engines.voECreate build creates).1 = false
  | .getVideoEngine creates => (engines.getVideoEngine build creates).1 ≠ 0
  | .voEDelete | .terminate => False

/-- A creation that fails leaves the data of both engines as they were, and no engine was deleted
twice. -/
def Retryable (call : Call) : Prop :=
  (engines.CreationFails build call → (engines.step build call).voeData = engines.voeData ∧
    (engines.step build call).vieData = engines.vieData) ∧
  (engines.step build call).deleted.Nodup

/-- There is an engine already, none is created, or it has all the sub-APIs. -/
def Completes : Call → Prop
  | .voECreate creates =>
    engines.voeData.ve ≠ none ∨ creates = false ∨ ∀ api, build.givesVoice api
  | .getVideoEngine creates =>
    engines.vieData.vie ≠ none ∨ creates = false ∨ ∀ api, build.givesVideo api
  | .voEDelete | .terminate => True

/-! ## What the calls do -/

theorem release_eq {engine : Engine} {left : Nat} {engines : Engines}
    (counted : engines.references engine = left + 1) :
    engines.release engine = (left, { engines with
      references := Function.update engines.references engine left
      deleted := if left = 0 then engine :: engines.deleted else engines.deleted }) := by
  simp only [release, counted, Nat.add_sub_cancel]

/-- The engine keeps the reference of its creation, so no sub-API is its last one, and none is
forgotten. -/
theorem foldl_releaseSubApi {engine : Engine} {known : Nat} (positive : known ≠ 0)
    (apis : List VoiceApi) :
    ∀ {engines : Engines},
      (∀ api, engines.voeData.api api = none ∨ engines.voeData.api api = some engine) →
      engines.references engine =
        known + apis.countP (fun api => (engines.voeData.api api).isSome) →
      apis.foldl releaseSubApi engines =
        { engines with references := Function.update engines.references engine known } := by
  induction apis with
  | nil =>
    intro engines _ counted
    have same : engines.references engine = known := counted
    rw [foldl_nil, ← same, Function.update_eq_self]
  | cons api rest induction =>
    intro engines own counted
    rw [foldl_cons]
    rcases own api with absent | held
    · rw [countP_cons_of_neg (by rw [absent]; decide)] at counted
      rw [releaseSubApi, absent]
      exact induction own counted
    · rw [countP_cons_of_pos (by rw [held]; rfl)] at counted
      rw [← Nat.add_assoc] at counted
      have others : known + rest.countP (fun api => (engines.voeData.api api).isSome) ≠ 0 := by
        omega
      rw [releaseSubApi, held]
      dsimp only
      rw [release_eq counted]
      dsimp only
      rw [if_pos others, if_neg others, induction (by exact own)]
      · dsimp only
        rw [Function.update_idem]
      · exact Function.update_self _ _ _

theorem delete_released {engine : Engine}
    (own : ∀ api, engines.voeData.api api = none ∨ engines.voeData.api api = some engine)
    (counted : engines.references engine =
      1 + VoiceApi.all.countP (fun api => (engines.voeData.api api).isSome)) :
    engines.veReleaseSubApis.voiceEngineDelete engine = { engines with
      voeData.ve := none
      references := Function.update engines.references engine 0
      deleted := engine :: engines.deleted } := by
  rw [veReleaseSubApis, foldl_releaseSubApi one_ne_zero VoiceApi.all own counted,
    voiceEngineDelete, @release_eq engine 0 _ (Function.update_self _ _ _)]
  dsimp only
  rw [Function.update_idem]
  rfl

theorem all_givesVoice_iff :
    VoiceApi.all.all build.givesVoice = true ↔ ∀ api, build.givesVoice api := by
  rw [List.all_eq_true]
  exact ⟨fun all api => all api (by cases api <;> decide), fun all api _ => all api⟩

theorem voECreate_new {engines : Engines} (absent : engines.voeData.ve = none) :
    let api := fun api => if build.givesVoice api then some engines.count else none
    engines.voECreate build true = if VoiceApi.all.all build.givesVoice then
        (true, { engines with
          voeData := ⟨some engines.count, api⟩
          count := engines.count + 1
          references := Function.update engines.references engines.count
            (1 + VoiceApi.all.countP fun name => (api name).isSome) })
      else
        (false, { engines with
          voeData := ⟨none, api⟩
          count := engines.count + 1
          references := Function.update engines.references engines.count 0
          deleted := engines.count :: engines.deleted }) := by
  intro api
  have given : build.givesVoice = fun name => (api name).isSome := by
    funext name
    change _ = (if build.givesVoice name then some engines.count else none).isSome
    cases build.givesVoice name <;> rfl
  rw [voECreate, absent]
  dsimp only
  rw [if_neg (by decide), if_neg (by decide), veGetSubApis]
  dsimp only
  rw [Function.update_self, Function.update_idem]
  cases VoiceApi.all.all build.givesVoice with
  | true =>
    rw [← given, if_pos rfl, if_neg (by decide), Function.update_idem]
  | false =>
    rw [if_pos Bool.not_false, if_neg Bool.false_ne_true, delete_released]
    · dsimp only
      rw [Function.update_idem, Function.update_idem]
    · intro name
      dsimp only
      split
      · exact .inr rfl
      · exact .inl rfl
    · exact (Function.update_self _ _ _).trans
        (congrArg (fun gives => 1 + VoiceApi.all.countP gives) given)

theorem getVideoSubApis_kept {engine : Engine} (apis : List VideoApi) :
    ∀ {engines : Engines}, ∃ api users, (getVideoSubApis build engine apis engines).2 =
        { engines with vieData := ⟨engines.vieData.vie, api⟩, users } ∧
      ((getVideoSubApis build engine apis engines).1 = 0 ↔ ∀ api ∈ apis, build.givesVideo api) := by
  induction apis with
  | nil => exact fun {engines} => ⟨_, _, rfl, iff_of_true rfl (by simp)⟩
  | cons api rest induction =>
    intro engines
    rw [getVideoSubApis]
    by_cases gives : build.givesVideo api = true
    · rw [if_pos gives, forall_mem_cons, and_iff_right gives]
      rcases @induction { engines with
          vieData.api := Function.update engines.vieData.api api (some engine)
          users := Function.update engines.users api (engines.users api + 1) } with
        ⟨last, users, result, code⟩
      exact ⟨last, users, result, code⟩
    · rw [if_neg gives, forall_mem_cons]
      exact ⟨_, _, rfl, iff_of_false (by simp) fun all => gives all.1⟩

/-! ## Every run -/

/-- What holds of the engines between the calls. -/
structure Sound : Prop where
  nodup : engines.deleted.Nodup
  known : ∀ engine ∈ engines.deleted, engine < engines.count
  voice : ∀ engine, engines.voeData.ve = some engine →
    engine < engines.count ∧ engine ∉ engines.deleted ∧
    (∀ api, engines.voeData.api api = none ∨ engines.voeData.api api = some engine) ∧
    engines.references engine =
      1 + VoiceApi.all.countP (fun api => (engines.voeData.api api).isSome)
  video : ∀ engine, engines.vieData.vie = some engine →
    engine < engines.count ∧ engine ∉ engines.deleted ∧ engines.voeData.ve ≠ some engine
  pointers : ∀ api engine, engines.voeData.api api = some engine → engine < engines.count

variable {engines}

theorem Sound.fresh (sound : engines.Sound) : engines.count ∉ engines.deleted :=
  fun member => lt_irrefl _ (sound.known _ member)

theorem Sound.voECreate (sound : engines.Sound) (creates : Bool) :
    (engines.voECreate build creates).2.Sound := by
  by_cases absent : engines.voeData.ve = none
  · cases creates with
    | false =>
      rw [Engines.voECreate, absent]
      exact sound
    | true =>
      rw [voECreate_new build absent]
      have known (api : VoiceApi) (engine : Engine)
          (points : (if build.givesVoice api then some engines.count else none) = some engine) :
          engine < engines.count + 1 := by
        split at points
        · cases points
          exact Nat.lt_succ_self _
        · cases points
      split
      · refine ⟨sound.nodup, fun engine member => ?_, ?_, fun engine has => ?_, known⟩
        · exact (sound.known engine member).trans (Nat.lt_succ_self _)
        · rintro _ ⟨⟩
          refine ⟨Nat.lt_succ_self _, sound.fresh, fun api => ?_, Function.update_self _ _ _⟩
          dsimp only
          split
          · exact .inr rfl
          · exact .inl rfl
        · rcases sound.video engine has with ⟨within, kept, _⟩
          exact ⟨within.trans (Nat.lt_succ_self _), kept, fun same =>
            within.ne (Option.some.inj same).symm⟩
      · refine ⟨nodup_cons.mpr ⟨sound.fresh, sound.nodup⟩, fun engine member => ?_,
          nofun, fun engine has => ?_, known⟩
        · rcases mem_cons.mp member with rfl | member
          · exact Nat.lt_succ_self _
          · exact (sound.known engine member).trans (Nat.lt_succ_self _)
        · rcases sound.video engine has with ⟨within, kept, _⟩
          refine ⟨within.trans (Nat.lt_succ_self _), fun member => ?_, nofun⟩
          rcases mem_cons.mp member with same | member
          · exact within.ne same
          · exact kept member
  · rw [Engines.voECreate, if_pos (Option.isSome_iff_ne_none.mpr absent)]
    exact sound

theorem Sound.voEDelete (sound : engines.Sound) : engines.voEDelete.2.Sound := by
  rw [Engines.voEDelete]
  cases present : engines.voeData.ve with
  | none => exact sound
  | some engine =>
    rcases sound.voice engine present with ⟨within, alive, own, counted⟩
    dsimp only
    rw [delete_released engines own counted]
    refine ⟨nodup_cons.mpr ⟨alive, sound.nodup⟩, fun other member => ?_, nofun,
      fun other has => ?_, sound.pointers⟩
    · rcases mem_cons.mp member with rfl | member
      · exact within
      · exact sound.known other member
    · rcases sound.video other has with ⟨within, kept, different⟩
      refine ⟨within, fun member => ?_, nofun⟩
      rcases mem_cons.mp member with rfl | member
      · exact different present
      · exact kept member

theorem Sound.getVideoEngine (sound : engines.Sound) (creates : Bool) :
    (engines.getVideoEngine build creates).2.Sound := by
  rw [Engines.getVideoEngine]
  split
  · exact sound
  · split
    · exact sound
    · rcases @getVideoSubApis_kept build engines.count VideoApi.all { engines with
          vieData.vie := some engines.count
          count := engines.count + 1
          users := fun _ => 0 } with ⟨api, users, result, _⟩
      dsimp only
      rw [result]
      have later {engine : Engine} (within : engine < engines.count) : engine < engines.count + 1 :=
        within.trans (Nat.lt_succ_self _)
      refine ⟨sound.nodup, fun engine member => later (sound.known engine member),
        fun engine has => ?_, ?_, fun api engine points => later (sound.pointers api engine points)⟩
      · rcases sound.voice engine has with ⟨within, held⟩
        exact ⟨later within, held⟩
      · rintro _ ⟨⟩
        exact ⟨Nat.lt_succ_self _, sound.fresh, fun same => lt_irrefl _ (sound.voice _ same).1⟩

theorem Sound.terminate (sound : engines.Sound) : engines.terminate.2.Sound := by
  rw [Engines.terminate]
  cases present : engines.vieData.vie with
  | none => exact sound
  | some engine =>
    rcases sound.video engine present with ⟨within, alive, different⟩
    dsimp only
    split
    · exact ⟨sound.nodup, sound.known, sound.voice, sound.video, sound.pointers⟩
    · refine ⟨nodup_cons.mpr ⟨alive, sound.nodup⟩, fun other member => ?_,
        fun other has => ?_, nofun, sound.pointers⟩
      · rcases mem_cons.mp member with rfl | member
        · exact within
        · exact sound.known other member
      · rcases sound.voice other has with ⟨within, kept, held⟩
        refine ⟨within, fun member => ?_, held⟩
        rcases mem_cons.mp member with rfl | member
        · exact different has
        · exact kept member

theorem Sound.step (sound : engines.Sound) (call : Call) : (engines.step build call).Sound := by
  cases call with
  | voECreate creates => exact sound.voECreate build creates
  | voEDelete => exact sound.voEDelete
  | getVideoEngine creates => exact sound.getVideoEngine build creates
  | terminate => exact sound.terminate

theorem start_sound : start.Sound := ⟨nodup_nil, nofun, nofun, nofun, nofun⟩

def run (calls : List Call) : Engines := Run.final (step build) start calls

theorem run_sound (calls : List Call) : (run build calls).Sound :=
  Run.invariant_final (step build) (fun _ call sound _ => sound.step build call) start_sound
    (Run.allowed_true (step build) start calls)

/-- After every run, a creation leaves nothing behind exactly when it does not come to a sub-API
that is missing. -/
theorem retryable_iff_completes (calls : List Call) (call : Call) :
    (run build calls).Retryable build call ↔ (run build calls).Completes build call := by
  have sound := run_sound build calls
  rw [Retryable, and_iff_left (sound.step build call).nodup]
  generalize run build calls = engines at sound ⊢
  cases call with
  | voEDelete => exact iff_of_true nofun trivial
  | terminate => exact iff_of_true nofun trivial
  | voECreate creates =>
    rw [CreationFails, Completes, step]
    by_cases absent : engines.voeData.ve = none
    · cases creates with
      | false =>
        rw [Engines.voECreate, absent]
        exact iff_of_true (fun _ => ⟨rfl, rfl⟩) (.inr (.inl rfl))
      | true =>
        rw [voECreate_new build absent, ← all_givesVoice_iff]
        split
        next all => exact iff_of_true nofun (.inr (.inr all))
        next lacks =>
          refine iff_of_false (fun kept => ?_) ?_
          · -- the base API of the new engine was given
            have base := congrArg (VoiceEngineData.api · .base) (kept rfl).1
            exact lt_irrefl _ (sound.pointers .base _ base.symm)
          · rintro (present | none | all)
            · exact present absent
            · cases none
            · exact lacks all
    · rw [Engines.voECreate, if_pos (Option.isSome_iff_ne_none.mpr absent)]
      exact iff_of_true (fun _ => ⟨rfl, rfl⟩) (.inl absent)
  | getVideoEngine creates =>
    rw [CreationFails, Completes, step]
    by_cases absent : engines.vieData.vie = none
    · cases creates with
      | false =>
        rw [Engines.getVideoEngine, absent]
        exact iff_of_true (fun _ => ⟨rfl, rfl⟩) (.inr (.inl rfl))
      | true =>
        rw [Engines.getVideoEngine, absent, if_neg (by decide), if_neg (by decide)]
        rcases @getVideoSubApis_kept build engines.count VideoApi.all { engines with
            vieData.vie := some engines.count
            count := engines.count + 1
            users := fun _ => 0 } with ⟨api, users, result, code⟩
        have every : (∀ api ∈ VideoApi.all, build.givesVideo api) ↔ ∀ api, build.givesVideo api :=
          ⟨fun all api => all api (by cases api <;> decide), fun all api _ => all api⟩
        rw [every] at code
        dsimp only
        rw [result, ne_eq, code]
        constructor
        · intro kept
          refine .inr (.inr ?_)
          by_contra lacks
          have vie := congrArg VideoEngineData.vie (kept lacks).2
          rw [absent] at vie
          cases vie
        · rintro (present | none | all)
          · exact absurd rfl present
          · cases none
          · exact fun lacks => absurd all lacks
    · rw [Engines.getVideoEngine, if_pos (Option.isSome_iff_ne_none.mpr absent)]
      exact iff_of_true (fun fails => absurd rfl fails) (.inl absent)

/-- A build without the API for rendering: the first attempt leaves an engine behind, which the
second one takes for complete. -/
theorem not_retryable_withoutRender :
    ¬start.Retryable ⟨fun _ => true, fun api => api ≠ .render⟩ (.getVideoEngine true) := by
  rintro ⟨kept, _⟩
  have vie := congrArg VideoEngineData.vie (kept (by rw [CreationFails]; decide)).2
  revert vie
  decide

end Engines

end ZyWebRtc.RtcWorker
