import SrcLink.Outputs.StartOutcome

/-! # The settings dialog of an output

Whenever the dialog builds its properties, it applies the output's own settings to them,
and the callback of the encoder list writes the encoder's defaults and its preset file
into the settings it is given. The other callbacks only read them.
-/

namespace SrcLink.EgressLinkOutput

open Json EarlyExit StepSystem QJsonObject

set_option autoImplicit false

/-- An OBS settings object: the values that are saved, and the defaults behind them. -/
structure ObsData where
  values : QJsonObject
  defaults : QJsonObject

def ObsData.getString (d : ObsData) (key : String) : String :=
  match d.values.value key with
  | .undefined => (d.defaults.value key).toString
  | v => v.toString

/-- OBS and the files of the plugin. -/
structure Environment where
  encoderDefaults : String → QJsonObject
  presetFile : String → Option QJsonObject
  /-- the callbacks of the encoder's own properties -/
  encoderModified : String → ObsData → ObsData

/-- Callbacks of properties change the properties, not the settings. -/
def ShowsOnly (env : Environment) : Prop :=
  ∀ encoderId settings, env.encoderModified encoderId settings = settings

def applyDefaults (dest : ObsData) (src : QJsonObject) : ObsData :=
  { dest with defaults := obsDataApply dest.defaults (src.filter fun item => !item.2.isNull) }

def loadPreset (env : Environment) (settings : ObsData) (encoderId : String) : ObsData :=
  match env.presetFile encoderId with
  | some presetData => { settings with values := obsDataApply settings.values presetData }
  | none => settings

def videoEncoderModified (env : Environment) (settings : ObsData) : ObsData :=
  let encoderId := settings.getString "video_encoder"
  let settings := applyDefaults settings (env.encoderDefaults encoderId)
  env.encoderModified encoderId (loadPreset env settings encoderId)

/-- An output and the defaults that its settings object carries. -/
structure Dialog where
  output : State
  defaults : QJsonObject

def Dialog.getSettings (d : Dialog) : ObsData where
  values := d.output.settings
  defaults := d.defaults

def reloadProperties (env : Environment) (d : Dialog) : Dialog :=
  let settings := videoEncoderModified env d.getSettings
  { output := { d.output with settings := settings.values }, defaults := settings.defaults }

inductive DialogEvent where
  | output (e : Event)
  /-- construction, show, or a source of OBS is created or removed -/
  | reloadProperties

def dialogStep (env : Environment) (d : Dialog) : DialogEvent → Option Dialog
  | .output e => some { d with output := apply d.output e }
  | .reloadProperties => some (reloadProperties env d)

def SameValues (o o' : QJsonObject) : Prop := ∀ key, o.value key = o'.value key

def keys (o : QJsonObject) : List String := o.map Prod.fst

/-- A default counts where no value is set. -/
def ObsData.value (d : ObsData) (key : String) : QJsonValue :=
  if key ∈ keys d.values then d.values.value key else d.defaults.value key

theorem value_obsDataApply (target data : QJsonObject) (key : String) :
    (obsDataApply target data).value key =
      if key ∈ keys data then data.value key else target.value key := by
  induction data with
  | nil => rfl
  | cons item data ih =>
    rw [value_cons, obsDataApply, List.foldr_cons]
    by_cases hKey : key = item.1
    · subst hKey
      rw [value_insert_self, if_pos rfl, if_pos (by simp [keys])]
    · rw [value_insert_of_ne _ _ hKey, if_neg hKey]
      simp only [keys, List.map_cons, List.mem_cons, hKey, false_or]
      exact ih

theorem sameValues_obsDataApply_iff (target data : QJsonObject) :
    SameValues (obsDataApply target data) target ↔
      ∀ key ∈ keys data, target.value key = data.value key := by
  constructor
  · intro hSame key hKey
    rw [← hSame key, value_obsDataApply, if_pos hKey]
  · intro hHeld key
    rw [value_obsDataApply]
    split
    · next hKey => exact (hHeld key hKey).symm
    · rfl

/-- Every value of the selected encoder's preset file is in the settings. -/
def PresetHeld (env : Environment) (settings : ObsData) : Prop :=
  ∀ presetData, env.presetFile (settings.getString "video_encoder") = some presetData →
    ∀ key ∈ keys presetData, settings.values.value key = presetData.value key

theorem reloadProperties_keeps_iff {env : Environment} (hShows : ShowsOnly env) (d : Dialog) :
    SameValues (reloadProperties env d).output.settings d.output.settings ↔
      PresetHeld env d.getSettings := by
  have hSettings : (reloadProperties env d).output.settings = (loadPreset env
      (applyDefaults d.getSettings
        (env.encoderDefaults (d.getSettings.getString "video_encoder")))
      (d.getSettings.getString "video_encoder")).values := by
    change (env.encoderModified _ _).values = _
    rw [hShows]
  rw [hSettings, loadPreset, PresetHeld]
  cases env.presetFile (d.getSettings.getString "video_encoder") with
  | none => exact iff_of_true (fun _ => rfl) fun _ hNone => by cases hNone
  | some presetData =>
    refine (sameValues_obsDataApply_iff _ _).trans ⟨?_, fun hHeld => hHeld _ rfl⟩
    rintro hHeld _ hFile
    exact Option.some.inj hFile ▸ hHeld

/-- Events other than `update`, `setVisible` and `setSourceUuid`. -/
def Event.keepsSettings : Event → Bool
  | .update _ _ => false
  | .setVisible _ => false
  | .setSourceUuid _ => false
  | _ => true

section Frame

variable {settings : QJsonObject}

theorem keepsSettings_of_view {b : Block State} {Q R : PipelineView → State → Prop}
    (h : ∀ w, Triple (fun s => s.view = w) b (Q w) (R w))
    (hQ : ∀ w s, Q w s → s.settings = w.settings) (hR : ∀ w s, R w s → s.settings = w.settings) :
    Keeps (fun s => s.settings = settings) b := by
  rintro s rfl
  have hEnds := h s.view s rfl
  cases hEnd : b s with
  | ok t =>
    rw [hEnd] at hEnds
    exact hQ _ t hEnds
  | error t =>
    rw [hEnd] at hEnds
    exact hR _ t hEnds

theorem settings_of_view {s : State} {w : PipelineView} (h : s.view = w) :
    s.settings = w.settings :=
  congrArg PipelineView.settings h

@[simp] theorem settings_setStatus (value : EgressLinkOutputStatus) (s : State) :
    (setStatus value s).settings = s.settings :=
  settings_of_view (view_setStatus value s)

theorem keepsSettings_createStreamingOutput (obs : Obs) :
    Keeps (fun s => s.settings = settings) (createStreamingOutput obs) := by
  apply Triple.andThen (Q := fun s => s.settings = settings)
  · exact fun s h => Ends.answer (fun _ => h) fun _ => h
  · exact fun s h => Ends.answer (fun _ => h) fun _ => h

theorem keepsSettings_ensureAudioEncoder (obs : Obs) :
    Keeps (fun s => s.settings = settings) (ensureAudioEncoder obs) := by
  have hCreate (uuid : String) : Keeps (fun s => s.settings = settings)
      ((createAudio obs uuid).andThen (createAudioEncoder obs)) := by
    apply Triple.andThen (Q := fun s => s.settings = settings)
    · intro s h
      unfold createAudio
      split
      · exact Ends.answer (fun _ => h) fun _ => h
      · split
        · split
          · exact h
          · split <;> exact h
        · exact Ends.answer (fun _ => h) fun _ => h
    · exact fun s h => Ends.answer (fun _ => h) fun _ => h
  apply Keeps.whenever
  apply (Triple.choose audioSourceUuid hCreate).handle (Triple.exit _)
  exact fun _ h => by rwa [settings_setStatus]

theorem keepsSettings_buildPipeline (obs : Obs) (uuid : String)
    (reconstructPipeline streaming recording : Bool) :
    Keeps (fun s => s.settings = settings)
      (buildPipeline obs uuid reconstructPipeline streaming recording) := by
  have hFailed : Keeps (fun s : State => s.settings = settings)
      (Block.step (setStatus .error)) := Triple.step fun _ h => by rwa [settings_setStatus]
  apply Triple.andThen
  · apply Keeps.whenever
    exact keepsSettings_of_view (fun w => triple_reconstruct_view obs uuid w)
      (fun _ _ => settings_of_view) fun _ _ h => (settings_of_view h.1 :)
  apply Triple.andThen
    (Keeps.whenever (Triple.step fun _ h => by rwa [settings_setStatus]))
  apply Triple.andThen (Keeps.require fun _ h => h)
  apply Triple.andThen (Keeps.require fun _ h => by rwa [settings_setStatus])
  apply Triple.andThen (Keeps.require fun _ h => by rwa [settings_setStatus])
  apply Triple.andThen
  · exact keepsSettings_of_view (fun w => triple_ensureVideoEncoder_view obs uuid w)
      (fun _ _ h => (settings_of_view h.1 :)) fun _ _ h => (settings_of_view h.1 :)
  apply Triple.andThen (keepsSettings_ensureAudioEncoder obs)
  apply Triple.andThen (Keeps.whenever ((keepsSettings_createStreamingOutput obs).handle hFailed))
  apply Triple.andThen (Q := fun s => s.settings = settings)
  · apply Keeps.whenever
    apply Triple.handle (S := fun s => s.settings = settings)
    · exact fun s h => Ends.answer (fun _ => h) fun _ => h
    · exact Triple.step fun _ h => h
  apply Triple.andThen (Keeps.require fun _ h => h)
  apply Keeps.whenever (Triple.step fun s h => ?_)
  have hRecording := settings_of_view (view_activateRecording s)
  exact ((settings_of_view (view_activateStreaming obs _) :).trans hRecording).trans h

theorem settings_destroyPipeline (nextStatus : EgressLinkOutputStatus)
    (nextRecordingStatus : RecordingOutputStatus) (s : State) :
    (destroyPipeline nextStatus nextRecordingStatus s).settings = s.settings := by
  rw [destroyPipeline_eq]

theorem settings_stop (s : State) : (stop s).settings = s.settings :=
  settings_destroyPipeline .inactive .inactive s

theorem settings_start (obs : Obs) (s : State) : (start obs s).settings = s.settings := by
  change (startPipeline obs s).settings = s.settings
  unfold startPipeline
  split
  · exact settings_destroyPipeline ..
  · exact Keeps.body (keepsSettings_buildPipeline obs s.getSourceUuid _ _ _) rfl

theorem settings_startStreaming (obs : Obs) (s : State) :
    (startStreaming obs s).settings = s.settings := by
  unfold startStreaming
  simp only [incShowing_eq]
  split
  · split
    · exact settings_setStatus ..
    · exact settings_setStatus ..
  · rfl

theorem settings_startRecording (obs : Obs) (s : State) :
    (startRecording obs s).settings = s.settings := by
  unfold startRecording
  simp only [incShowing_eq]
  split
  · split <;> rfl
  · rfl

theorem settings_restartStreaming (obs : Obs) (s : State) :
    (restartStreaming obs s).settings = s.settings := by
  unfold restartStreaming
  simp only
  split
  · exact settings_setStatus ..
  · rfl

theorem settings_restartRecording (obs : Obs) (s : State) :
    (restartRecording obs s).settings = s.settings := rfl

theorem keepsSettings_monitorOutput (obs : Obs) (alive : Bool) :
    Keeps (fun s => s.settings = settings) (monitorOutput obs alive) := by
  have hStop : ∀ s : State, s.settings = settings → (stop s).settings = settings :=
    fun s h => (settings_stop s).trans h
  apply Triple.andThen (Keeps.require hStop)
  apply Triple.andThen (Keeps.require fun s h => (settings_start obs s).trans h)
  apply Triple.andThen (Q := fun s => s.settings = settings)
  · intro s h
    unfold changeSettings
    split
    · simp only
      split
      · exact h
      · exact (settings_setStatus ..).trans h
    · exact h
  apply Triple.andThen
    (Keeps.whenever (Triple.step fun s h => (settings_restartRecording obs s).trans h))
  apply Triple.andThen (Keeps.require fun s h => (settings_restartStreaming obs s).trans h)
  apply Triple.andThen
    (Keeps.whenever (Triple.step fun s h => (settings_setStatus _ s).trans h))
  exact Keeps.require hStop

theorem settings_onMonitoringTimerTimeout (obs : Obs) (s : State) :
    (onMonitoringTimerTimeout obs s).settings = s.settings := by
  apply onMonitoringTimerTimeout_keeps (P := fun t => t.settings = s.settings) rfl
    (settings_start obs s) (settings_startStreaming obs s)
  · exact fun t h => (settings_startRecording obs t).trans h
  · exact fun _ => (keepsSettings_monitorOutput obs _).body rfl

theorem settings_apply (s : State) {e : Event} (hKeeps : e.keepsSettings = true) :
    (apply s e).settings = s.settings := by
  cases e with
  | monitoringTimerTimeout obs => exact settings_onMonitoringTimerTimeout obs s
  | start obs => exact settings_start obs s
  | stop | shutdown => exact settings_stop s
  | startStreaming obs => exact settings_startStreaming obs s
  | startRecording obs => exact settings_startRecording obs s
  | update | setVisible | setSourceUuid => cases hKeeps
  | uplinkReady uplink =>
    exact onUplinkReady_keeps (P := fun t => t.settings = s.settings) rfl fun _ => rfl

end Frame

/-- Nobody changes the settings on purpose, and the dialog finds its preset in them. -/
def Undisturbing (env : Environment) (d : Dialog) : DialogEvent → Prop
  | .output e => e.keepsSettings = true
  | .reloadProperties => PresetHeld env d.getSettings

theorem sameValues_of_undisturbing {env : Environment} (hShows : ShowsOnly env) {d d' : Dialog}
    (h : Reachable (dialogStep env) (Undisturbing env) (· = d) d') :
    SameValues d'.output.settings d.output.settings := by
  induction h with
  | start hStart =>
    subst hStart
    exact fun _ => rfl
  | @next t t' e _ hGuard hStep ih =>
    cases e with
    | output e =>
      obtain rfl := Option.some.inj hStep
      intro key
      rw [← ih key]
      exact congrArg (value · key) (settings_apply t.output hGuard)
    | reloadProperties =>
      obtain rfl := Option.some.inj hStep
      exact fun key => ((reloadProperties_keeps_iff hShows t).mpr hGuard key).trans (ih key)

/-- What the user has saved stays saved. -/
structure KeepsSaved (env : Environment) : Prop where
  reload : ∀ d : Dialog,
    SameValues (reloadProperties env d).output.settings d.output.settings ↔
      PresetHeld env d.getSettings
  run : ∀ (d d' : Dialog) (newSettings : ObsData),
    Reachable (dialogStep env) (Undisturbing env)
        (· = { d with output := update newSettings.defaults newSettings.values d.output }) d' →
      ∀ key, key ∈ keys newSettings.values ∨ key ∈ keys newSettings.defaults →
        d'.output.settings.value key = newSettings.value key

theorem keepsSaved {env : Environment} (hShows : ShowsOnly env) : KeepsSaved env where
  reload := reloadProperties_keeps_iff hShows
  run d d' newSettings hRun key hKey := by
    rw [sameValues_of_undisturbing hShows hRun key]
    refine (value_obsDataApply ..).trans (ite_congr rfl (fun _ => rfl) fun hDefault => ?_)
    exact (value_obsDataApply ..).trans (if_pos (hKey.resolve_left hDefault))

/-- `presets/obs_x264.json` -/
def x264Preset : QJsonObject :=
  [("bitrate", .double 10000), ("max_bitrate", .double 10000), ("keyint_sec", .double 1),
    ("cqp", .double 20), ("rate_control", .string "CBR"), ("preset2", .string "p5"),
    ("multipass", .string "disabled"), ("tune", .string "zerolatency"),
    ("profile", .string "baseline"), ("psycho_aq", .bool true), ("gpu", .double 0),
    ("bf", .double 0), ("repeat_headers", .bool false), ("target_quality", .double 20),
    ("device", .double (-1)), ("preset", .string "ultrafast"),
    ("adaptive_quantization", .bool true), ("lookahead", .bool false),
    ("force_cuda_tex", .bool false), ("disable_scenecut", .bool false),
    ("use_bufsize", .bool false), ("buffer_size", .double 2500), ("crf", .double 23),
    ("x264opts", .string "")]

def x264Environment : Environment where
  encoderDefaults _ := []
  presetFile encoderId := if encoderId = "obs_x264" then some x264Preset else none
  encoderModified _ settings := settings

def freshDialog : Dialog where
  output := mainOutput
  defaults := [("video_encoder", .string "obs_x264")]

/-- The user saves a bitrate of 5000. -/
def savedSettings : QJsonObject :=
  [("video_encoder", .string "obs_x264"), ("bitrate", .double 5000)]

def savedDialog : Dialog :=
  { freshDialog with output := update [] savedSettings freshDialog.output }

theorem keepsSaved_x264 : KeepsSaved x264Environment := keepsSaved fun _ _ => rfl

/-- The preset's bitrate takes the place of the saved one when the dialog is shown. -/
theorem preset_replaces_saved :
    ¬ ∀ env, ShowsOnly env → ∀ d : Dialog,
      SameValues (reloadProperties env d).output.settings d.output.settings := by
  intro hAll
  have hBitrate := hAll x264Environment (fun _ _ => rfl) savedDialog "bitrate"
  exact absurd (congrArg QJsonValue.toInt hBitrate) (by decide +kernel)

end SrcLink.EgressLinkOutput
