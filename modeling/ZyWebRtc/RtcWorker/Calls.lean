import ZyWebRtc.RtcWorker.Engines

namespace ZyWebRtc.RtcWorker

/-! The calls of `ZYRTCMediaEngineAPI`: its channels and the flags that say whether they run. -/

open List Engines

inductive CaptureType
  | back
  | front
  deriving DecidableEq

/-- A channel id that was passed to a native stop or delete call, with the channels of its kind
that existed then. -/
structure Stop where
  channel : Int
  existing : List Int
  deriving DecidableEq

/-- The last three fields are the channels that were created and not deleted, and what was
stopped. -/
structure MediaEngine where
  engines : Engines
  voiceChannel : Int
  videoChannel : Int
  voERunning : Bool
  viERunning : Bool
  currentCapture : CaptureType
  camID : Int
  voiceChannels : List Int
  videoChannels : List Int
  stopped : List Stop

/-- Each event comes with the return codes of the native calls, as far as they are looked at. -/
inductive Event
  | stratMediaEngine (createsVoice : Bool) (voEInit : Int) (createsVideo : Bool)
  | startCall (voiceEnable videoEnable videoSendEnable : Bool) (voECreateChannel : Int)
      (viECreateChannel channel camera : Int)
  | switchCapture (camera : Int)
  | stopAll (viEDeleteChannel : Int)
  deriving DecidableEq

namespace MediaEngine

def init : MediaEngine where
  engines := .start
  voiceChannel := -1
  videoChannel := -1
  voERunning := false
  viERunning := false
  currentCapture := .back
  camID := 0
  voiceChannels := []
  videoChannels := []
  stopped := []

variable (build : Build) (media : MediaEngine)

def hasVoiceBase : Bool := (media.engines.voeData.api .base).isSome

def hasVideoEngine : Bool := media.engines.vieData.vie.isSome

def stratMediaEngine (createsVoice : Bool) (voEInit : Int) (createsVideo : Bool) : MediaEngine :=
  let media := { media with engines := (media.engines.voECreate build createsVoice).2 }
  if media.hasVoiceBase ∧ voEInit = 0 then
    { media with engines := (media.engines.getVideoEngine build createsVideo).2 }
  else media

def voECreateChannel (code : Int) : Int := if media.hasVoiceBase then code else -1

def startVoiceEngine (code : Int) : MediaEngine :=
  let channel := media.voECreateChannel code
  if 0 > channel then { media with voiceChannel := channel }
  else
    { media with
      voiceChannel := channel
      voiceChannels := channel :: media.voiceChannels
      voERunning := true }

/-- The id of a new channel, when there is one. -/
def createChannel (code channel : Int) : Option Int :=
  if media.hasVideoEngine ∧ code = 0 then some channel else none

def startCamera (camera : Int) : Int := if media.hasVideoEngine then camera else -1

def startVideo (videoSendEnable : Bool) (code channel camera : Int) : MediaEngine :=
  let created := media.createChannel code channel
  let media := { media with
    videoChannel := created.getD (-1)
    videoChannels := created.toList ++ media.videoChannels
    viERunning := true }
  if videoSendEnable then
    { media with currentCapture := .front, camID := media.startCamera camera }
  else media

def startCall (voiceEnable videoEnable videoSendEnable : Bool) (voECreateChannel : Int)
    (viECreateChannel channel camera : Int) : MediaEngine :=
  let media := if voiceEnable then media.startVoiceEngine voECreateChannel else media
  if videoEnable then media.startVideo videoSendEnable viECreateChannel channel camera else media

def switchCapture (camera : Int) : MediaEngine :=
  { media with
    camID := media.startCamera camera
    currentCapture := if media.currentCapture = .front then .back else .front }

def deleteChannel (code channel : Int) (channels : List Int) : List Int :=
  if code = 0 then channels.filter (· ≠ channel) else channels

/-- Three calls that stop the channel and one that deletes it. Whatever that does, `VoE_Terminate`
deletes all channels. -/
def stopVoiceEngine : MediaEngine :=
  { media with
    voERunning := false
    stopped := media.stopped ++ List.replicate 4 ⟨media.voiceChannel, media.voiceChannels⟩
    voiceChannel := -1
    voiceChannels := if media.hasVoiceBase then [] else media.voiceChannels }

/-- `ViE_DeleteChannel` asks for the base API of the voice engine. Without a video engine it then
uses a null pointer. -/
def viEDeleteChannel (code : Int) : Option (List Int) :=
  if !media.hasVoiceBase then some media.videoChannels
  else if !media.hasVideoEngine then none
  else some (deleteChannel code media.videoChannel media.videoChannels)

def stopVideoEngine (code : Int) : Option MediaEngine := do
  let videoChannels ← media.viEDeleteChannel code
  let (left, engines) := media.engines.terminate
  pure { media with
    viERunning := false
    stopped := media.stopped ++ List.replicate 4 ⟨media.videoChannel, media.videoChannels⟩
    videoChannel := -1
    engines
    videoChannels := if left = 0 then [] else videoChannels }

def stopAll (viEDeleteChannel : Int) : Option MediaEngine :=
  let media := if media.voERunning then media.stopVoiceEngine else media
  if media.viERunning then media.stopVideoEngine viEDeleteChannel else some media

def step (media : MediaEngine) : Event → Option MediaEngine
  | .stratMediaEngine createsVoice voEInit createsVideo =>
    some (media.stratMediaEngine build createsVoice voEInit createsVideo)
  | .startCall voiceEnable videoEnable videoSendEnable voECreateChannel viECreateChannel channel
      camera =>
      some (media.startCall voiceEnable videoEnable videoSendEnable voECreateChannel
        viECreateChannel channel camera)
  | .switchCapture camera => some (media.switchCapture camera)
  | .stopAll viEDeleteChannel => media.stopAll viEDeleteChannel

/-! ## The property -/

/-- A channel exists while its flag is set, and every channel that was stopped existed. -/
structure Truthful : Prop where
  voice : media.voERunning = true → media.voiceChannels ≠ []
  video : media.viERunning = true → media.videoChannels ≠ []
  stopped : ∀ stop ∈ media.stopped, stop.channel ∈ stop.existing

/-- The flags are right in every state of a run. -/
def TruthfulThroughout (events : List Event) : Prop :=
  ∀ count last, Run.reached (step build) init (events.take count) = some last → last.Truthful

/-- A call is started with channels that can be created, or its voice channel fails while none
runs. -/
def Permits : Event → Prop
  | .startCall voiceEnable videoEnable _ voECreateChannel viECreateChannel _ _ =>
    (voiceEnable = true → (media.hasVoiceBase = true ∧ 0 ≤ voECreateChannel) ∨
      media.voERunning = false) ∧
    (videoEnable = true → media.hasVideoEngine = true ∧ viECreateChannel = 0)
  | _ => True

instance : ∀ event, Decidable (media.Permits event)
  | .startCall .. => inferInstanceAs (Decidable (_ ∧ _))
  | .stratMediaEngine .. | .switchCapture _ | .stopAll .. => .isTrue trivial

/-! ## Every run -/

/-- What the flags mean for the channels. -/
structure Kept : Prop where
  voice : media.voERunning = true → media.voiceChannel ∈ media.voiceChannels
  video : media.viERunning = true → media.videoChannel ∈ media.videoChannels
  stopped : ∀ stop ∈ media.stopped, stop.channel ∈ stop.existing

variable {media}

theorem Kept.truthful (kept : media.Kept) : media.Truthful where
  voice running := ne_nil_of_mem (kept.voice running)
  video running := ne_nil_of_mem (kept.video running)
  stopped := kept.stopped

theorem stopped_append {stopped : List Stop} {stop : Stop}
    (before : ∀ stop ∈ stopped, stop.channel ∈ stop.existing) (existed : stop.channel ∈ stop.existing) :
    ∀ other ∈ stopped ++ List.replicate 4 stop, other.channel ∈ other.existing := by
  intro other member
  rcases mem_append.mp member with earlier | now
  · exact before other earlier
  · rw [eq_of_mem_replicate now]
    exact existed

theorem Kept.stratMediaEngine (kept : media.Kept) (createsVoice : Bool) (voEInit : Int)
    (createsVideo : Bool) :
    (media.stratMediaEngine build createsVoice voEInit createsVideo).Kept := by
  rw [MediaEngine.stratMediaEngine]
  dsimp only
  split
  · exact ⟨kept.voice, kept.video, kept.stopped⟩
  · exact ⟨kept.voice, kept.video, kept.stopped⟩

theorem Kept.startVoiceEngine (kept : media.Kept) {code : Int}
    (allowed : (media.hasVoiceBase = true ∧ 0 ≤ code) ∨ media.voERunning = false) :
    (media.startVoiceEngine code).Kept ∧
      (media.startVoiceEngine code).hasVideoEngine = media.hasVideoEngine := by
  rw [MediaEngine.startVoiceEngine]
  split
  next failed =>
    refine ⟨⟨fun running => ?_, kept.video, kept.stopped⟩, rfl⟩
    rcases allowed with ⟨base, positive⟩ | idle
    · rw [voECreateChannel, if_pos base] at failed
      exact absurd positive (not_le.mpr failed)
    · exact absurd running (Bool.eq_false_iff.mp idle)
  next => exact ⟨⟨fun _ => mem_cons_self, kept.video, kept.stopped⟩, rfl⟩

theorem Kept.startVideo (kept : media.Kept) {code : Int}
    (allowed : media.hasVideoEngine = true ∧ code = 0) (videoSendEnable : Bool)
    (channel camera : Int) : (media.startVideo videoSendEnable code channel camera).Kept := by
  rw [MediaEngine.startVideo, createChannel, if_pos allowed]
  dsimp only
  split
  · exact ⟨kept.voice, fun _ => mem_cons_self, kept.stopped⟩
  · exact ⟨kept.voice, fun _ => mem_cons_self, kept.stopped⟩

theorem Kept.stopAll (kept : media.Kept) {code : Int} {next : MediaEngine}
    (stops : media.stopAll code = some next) : next.Kept := by
  have voice : (if media.voERunning then media.stopVoiceEngine else media).Kept := by
    split
    next running =>
      exact ⟨nofun, kept.video, stopped_append kept.stopped (kept.voice running)⟩
    next => exact kept
  rw [MediaEngine.stopAll] at stops
  generalize (if media.voERunning then media.stopVoiceEngine else media) = quiet at voice stops
  split at stops
  next running =>
    simp only [stopVideoEngine, Option.bind_eq_bind, Option.bind_eq_some_iff] at stops
    rcases stops with ⟨videoChannels, deleted, result⟩
    cases result
    exact ⟨voice.voice, nofun, stopped_append voice.stopped (voice.video running)⟩
  next =>
    cases stops
    exact voice

theorem Kept.step (kept : media.Kept) {event : Event} (permitted : media.Permits event)
    {next : MediaEngine} (stepped : media.step build event = some next) : next.Kept := by
  cases event with
  | stratMediaEngine createsVoice voEInit createsVideo =>
    cases stepped
    exact kept.stratMediaEngine build createsVoice voEInit createsVideo
  | startCall voiceEnable videoEnable videoSendEnable voiceCode videoCode channel camera =>
    cases stepped
    rcases permitted with ⟨voiceAllowed, videoAllowed⟩
    have voice : (if voiceEnable then media.startVoiceEngine voiceCode else media).Kept ∧
        (if voiceEnable then media.startVoiceEngine voiceCode else media).hasVideoEngine =
          media.hasVideoEngine := by
      split
      next enabled => exact kept.startVoiceEngine (voiceAllowed enabled)
      next => exact ⟨kept, rfl⟩
    rw [startCall]
    split
    next enabled =>
      rw [← voice.2] at videoAllowed
      exact voice.1.startVideo (videoAllowed enabled) videoSendEnable channel camera
    next => exact voice.1
  | switchCapture camera =>
    cases stepped
    exact ⟨kept.voice, kept.video, kept.stopped⟩
  | stopAll => exact kept.stopAll stepped

theorem init_kept : init.Kept where
  voice running := absurd running Bool.false_ne_true
  video running := absurd running Bool.false_ne_true
  stopped _ member := absurd member not_mem_nil

/-- The flags are right in runs whose calls are started with channels that can be created. -/
theorem truthfulThroughout_of_permitted (events : List Event)
    (permitted : Run.Permitted (step build) Permits init events) :
    TruthfulThroughout build events := by
  intro count last run
  apply Kept.truthful
  exact Run.invariant_of_reached (step build)
    (fun _ _ _ kept allowed stepped => Kept.step build kept allowed stepped)
    init_kept (Run.permitted_take (step build) permitted count) run

theorem truthfulThroughout_of_permitted_call :
    TruthfulThroughout ⟨fun _ => true, fun _ => true⟩
      [.startCall true false false 0 0 0 0, .stratMediaEngine true 0 true,
        .startCall true true true 3 0 5 1, .switchCapture 2, .stopAll (-1)] :=
  truthfulThroughout_of_permitted _ _ (by decide)

/-- Without an engine a video call gets no channel, and runs. -/
theorem not_truthfulThroughout_withoutEngine :
    ¬TruthfulThroughout ⟨fun _ => true, fun _ => true⟩
      [.startCall false true false 0 0 0 0] :=
  fun truthful => (truthful 1 _ rfl).video rfl rfl

end MediaEngine

end ZyWebRtc.RtcWorker
