import Mathlib.Data.List.Induction
import SrcLink.Outputs.OutputDialog

/-! # The saved settings of an output

The settings of an output are kept in a file of its name. A new output starts from the
defaults of the machine, with the preset of the default encoder, and lays the file over
them. `update`, `setSourceUuid` and `setVisible` write the file, the settings dialog
does not.
-/

namespace SrcLink.SavedSettings

open Json EgressLinkOutput StepSystem QJsonObject

set_option autoImplicit false

/-- An encoder of `obs_enum_encoder_types`. -/
structure EncoderType where
  id : String
  deprecated : Bool
  internal : Bool
  isVideo : Bool

/-- The profile of the frontend; what is missing reads as empty, zero and false. -/
structure ProfileConfig where
  getString : String → String → String
  getUint : String → String → Int
  getBool : String → String → Bool

/-- All that the constructor of an output reads besides its file. -/
structure Machine where
  env : Environment
  config : ProfileConfig
  encoderTypes : List EncoderType
  preferHardwareEncoder : Bool
  showsOnly : ShowsOnly env

def defaultVideoEncoder : String := "obs_x264"

/-- Lower priority -> Higher priority -/
def priorityHardwareEncoders : List String :=
  ["obs_qsv11_hevc", "h265_texture_amf", "jim_hevc_nvenc", "obs_nvenc_hevc_tex",
    "obs_qsv11_v2", "h264_texture_amf", "jim_nvenc", "obs_nvenc_h264_tex"]

/-- -1 if it is not listed -/
def priority (encoderId : String) : Int :=
  match priorityHardwareEncoders.idxOf? encoderId with
  | some index => index
  | none => -1

/-- `hwEncoderIndex` and `videoEncoderId` after another encoder. -/
def pickEncoder (picked : Int × String) (encoder : EncoderType) : Int × String :=
  -- Ignore deprecated and internal
  if encoder.deprecated || encoder.internal then picked
  else if !encoder.isVideo then picked
  else if priority encoder.id > picked.1 then (priority encoder.id, encoder.id)
  else picked

/-- Choose hardware encoder if available. -/
def chooseVideoEncoder (m : Machine) : String :=
  if m.preferHardwareEncoder then
    (m.encoderTypes.foldl pickEncoder (-1, defaultVideoEncoder)).2
  else defaultVideoEncoder

def setDefault (key : String) (v : QJsonValue) (d : ObsData) : ObsData :=
  { d with defaults := d.defaults.insert key v }

structure RecordingDefaults where
  path : String
  recFormat : String
  fileNameWithoutSpace : Bool
  recSplitFile : Bool := false
  recSplitFileType : String := "Time"
  recSplitFileTimeMins : Int := 15
  recSplitFileSizeMb : Int := 2048

def recordingDefaults (config : ProfileConfig) : RecordingDefaults :=
  let mode := config.getString "Output" "Mode"
  if mode = "Advanced" || mode = "advanced" then
    let ffmpegRecording := (config.getString "AdvOut" "RecType").toLower = "ffmpeg" &&
      config.getBool "AdvOut" "FFOutputToFile"
    { path := config.getString "AdvOut" (if ffmpegRecording then "FFFilePath" else "RecFilePath")
      recFormat := config.getString "AdvOut" "RecFormat2"
      fileNameWithoutSpace := config.getBool "AdvOut" "RecFileNameWithoutSpace"
      recSplitFile := config.getBool "AdvOut" "RecSplitFile"
      recSplitFileTimeMins := config.getUint "AdvOut" "RecSplitFileTime"
      recSplitFileSizeMb := config.getUint "AdvOut" "RecSplitFileSize" }
  else
    { path := config.getString "SimpleOutput" "FilePath"
      recFormat := config.getString "SimpleOutput" "RecFormat2"
      fileNameWithoutSpace := config.getBool "SimpleOutput" "FileNameWithoutSpace" }

def splitFileValue (r : RecordingDefaults) : String :=
  if r.recSplitFile && r.recSplitFileType ≠ "Manual" then
    if r.recSplitFileType = "Size" then "by_size" else "by_time"
  else ""

def getDefaults (m : Machine) (d : ObsData) : ObsData :=
  let r := recordingDefaults m.config
  let d := setDefault "video_encoder" (.string (chooseVideoEncoder m)) d
  let d := setDefault "bitrate" (.double 10000) d
  let d := setDefault "audio_encoder" (.string "ffmpeg_aac") d
  let d := setDefault "audio_bitrate" (.double 160) d
  let d := setDefault "audio_source" (.string "") d
  let d := setDefault "visible" (.bool true) d
  let d := setDefault "path" (.string r.path) d
  let d := setDefault "rec_format" (.string r.recFormat) d
  let d := setDefault "use_profile_recording_path" (.bool false) d
  let d := setDefault "no_space_filename" (.bool r.fileNameWithoutSpace) d
  let d := setDefault "split_file" (.string (splitFileValue r)) d
  let d := setDefault "split_file_time_mins" (.double r.recSplitFileTimeMins) d
  let d := setDefault "split_file_size_mb" (.double r.recSplitFileSizeMb) d
  let d := setDefault "filename_formatting"
    (.string ("%1 " ++ m.config.getString "Output" "FilenameFormatting")) d
  applyDefaults d (m.env.encoderDefaults (chooseVideoEncoder m))

/-- The defaults become values, then come the preset of their encoder and the file. -/
def loadSettings (m : Machine) (file : Option QJsonObject) : ObsData :=
  let settings := getDefaults m ⟨[], []⟩
  let settings := { settings with values := obsDataApply settings.values settings.defaults }
  let settings := loadPreset m.env settings (settings.getString "video_encoder")
  match file with
  | some data => { settings with values := obsDataApply settings.values data }
  | none => settings

/-- The members that the constructor leaves as they are in memory. -/
structure Unset where
  connectionAttemptingAt : UInt64
  width : Int
  height : Int

def construct (m : Machine) (file : Option QJsonObject) (name : String) (unset : Unset) :
    Dialog where
  output :=
    { name := name, settings := (loadSettings m file).values, connection := []
      service := none, streamingOutput := none, recordingOutput := none, videoEncoder := none
      audioEncoder := none, source := none, sourceView := none, audioSilence := none
      audioSource := none, status := .inactive, recordingStatus := .inactive
      activeSourceUuid := "", storedSettingsRev := if file.isSome then 1 else 0
      activeSettingsRev := 0, connectionAttemptingAt := unset.connectionAttemptingAt
      width := unset.width, height := unset.height, nextHandle := 0, calls := [] }
  defaults := (loadSettings m file).defaults

/-- As a JSON document is. -/
def Defined (o : QJsonObject) : Prop := ∀ m ∈ o, m.2 ≠ .undefined

structure World where
  machine : Machine
  dialog : Dialog
  /-- the settings file, once there is one -/
  file : Option QJsonObject

inductive Event where
  | update (defaults newSettings : QJsonObject)
    (hDefined : Defined defaults ∧ Defined newSettings)
  | setVisible (value : Bool)
  | setSourceUuid (value : String)
  | other (e : EgressLinkOutput.Event) (hKeeps : e.keepsSettings = true)
  | reloadProperties
  /-- encoders, presets, the profile or the preference for hardware are others now -/
  | machineChanged (m : Machine)
  | restart (unset : Unset)

namespace World

def apply (w : World) (e : EgressLinkOutput.Event) : World :=
  { w with dialog := { w.dialog with output := EgressLinkOutput.apply w.dialog.output e } }

def saveSettings (w : World) : World := { w with file := some w.dialog.output.settings }

end World

def step (w : World) : Event → Option World
  | .update defaults newSettings _ => some (w.apply (.update defaults newSettings)).saveSettings
  | .setVisible value => some (w.apply (.setVisible value)).saveSettings
  | .setSourceUuid value =>
    if value = w.dialog.output.getSourceUuid then some w
    else some (w.apply (.setSourceUuid value)).saveSettings
  | .other e _ => some (w.apply e)
  | .reloadProperties =>
    some { w with dialog := EgressLinkOutput.reloadProperties w.machine.env w.dialog }
  | .machineChanged m => some { w with machine := m }
  | .restart unset =>
    some { w with dialog := construct w.machine w.file w.dialog.output.name unset }

/-- An output that has just been constructed, with a file that is a document. -/
structure Started (w : World) : Prop where
  constructed : ∃ name unset, w.dialog = construct w.machine w.file name unset
  file : ∀ data, w.file = some data → Defined data

/-- An output that was constructed now would have the present settings. -/
def Restores (w : World) : Prop :=
  SameValues (loadSettings w.machine w.file).values w.dialog.output.settings

/-- The settings without a file. -/
def base (m : Machine) : QJsonObject := (loadSettings m none).values

/-- The dialog finds its preset in the settings, and the machine changes no value that the file
does not have. -/
def Harmless (w : World) : Event → Prop
  | .reloadProperties => PresetHeld w.machine.env w.dialog.getSettings
  | .machineChanged m =>
    ∀ key, key ∉ keys (w.file.getD []) → (base m).value key = (base w.machine).value key
  | _ => True

section Encoder

variable {encoders : List EncoderType} {encoder : EncoderType} {id : String}

def EncoderType.usable (e : EncoderType) : Bool := !e.deprecated && !e.internal && e.isVideo

def available (encoders : List EncoderType) (id : String) : Bool :=
  encoders.any fun e => e.usable && e.id = id

theorem pickEncoder_eq (picked : Int × String) (e : EncoderType) :
    pickEncoder picked e =
      if e.usable ∧ priority e.id > picked.1 then (priority e.id, e.id) else picked := by
  obtain ⟨id, deprecated, internal, isVideo⟩ := e
  cases deprecated <;> cases internal <;> cases isVideo <;> simp [pickEncoder, EncoderType.usable]

/-- `picked` is the best of these encoders, or the default one if none has a priority. -/
structure Picked (encoders : List EncoderType) (picked : Int × String) : Prop where
  best : ∀ e ∈ encoders, e.usable → priority e.id ≤ picked.1
  found : picked = (-1, defaultVideoEncoder) ∨
    available encoders picked.2 ∧ priority picked.2 = picked.1 ∧ 0 ≤ picked.1

theorem Picked.append {picked : Int × String} (h : Picked encoders picked) (e : EncoderType) :
    Picked (encoders ++ [e]) (pickEncoder picked e) := by
  have hLater {id : String} (hOld : available encoders id) : available (encoders ++ [e]) id := by
    rw [available, List.any_append, Bool.or_eq_true]
    exact .inl hOld
  have hLow : -1 ≤ picked.1 := by
    rcases h.found with hNone | ⟨-, -, hPos⟩
    · rw [hNone]
    · omega
  rw [pickEncoder_eq]
  split
  · next hPicked =>
    refine ⟨fun e' he hUsable => ?_, .inr ⟨?_, rfl, by omega⟩⟩
    · rcases List.mem_append.mp he with hOld | hNew
      · exact (h.best e' hOld hUsable).trans hPicked.2.le
      · exact (List.mem_singleton.mp hNew ▸ le_rfl)
    · simp [available, hPicked.1]
  · next hNot =>
    refine ⟨fun e' he hUsable => ?_, h.found.imp_right fun hFound => ⟨hLater hFound.1, hFound.2⟩⟩
    rcases List.mem_append.mp he with hOld | hNew
    · exact h.best e' hOld hUsable
    · obtain rfl := List.mem_singleton.mp hNew
      exact not_lt.mp fun hBetter => hNot ⟨hUsable, hBetter⟩

theorem picked_foldl (encoders : List EncoderType) :
    Picked encoders (encoders.foldl pickEncoder (-1, defaultVideoEncoder)) := by
  induction encoders using List.reverseRecOn with
  | nil => exact ⟨fun e he => absurd he List.not_mem_nil, .inl rfl⟩
  | append_singleton encoders e ih =>
    rw [List.foldl_append]
    exact ih.append e

theorem priority_of_mem : ∀ id ∈ priorityHardwareEncoders,
    priority id = priorityHardwareEncoders.idxOf id := by
  decide

theorem mem_of_priority_nonneg (h : 0 ≤ priority id) : id ∈ priorityHardwareEncoders := by
  by_contra hMissing
  rw [priority, List.idxOf?_eq_none_iff.mpr hMissing] at h
  exact absurd h (by decide)

/-- Of two listed encoders the search from the end finds the one with the higher priority. -/
theorem priority_le_of_find {p : String → Bool} {found : String}
    (hFound : priorityHardwareEncoders.reverse.find? p = some found)
    (hId : id ∈ priorityHardwareEncoders) (hp : p id = true) : priority id ≤ priority found := by
  obtain ⟨-, before, after, hSplit, hBefore⟩ := List.find?_eq_some_iff_append.mp hFound
  have hList : priorityHardwareEncoders = after.reverse ++ found :: before.reverse := by
    rw [← List.reverse_reverse priorityHardwareEncoders, hSplit]
    simp
  have hNodup : (after.reverse ++ found :: before.reverse).Nodup := hList ▸ by decide
  have hMem : found ∈ priorityHardwareEncoders := hList ▸ by simp
  rw [priority_of_mem _ hId, priority_of_mem _ hMem]
  have hNotAfter : found ∉ after.reverse := fun hAfter =>
    (List.nodup_append.mp hNodup).2.2 _ hAfter _ List.mem_cons_self rfl
  rw [hList] at hId ⊢
  rw [List.idxOf_append_of_notMem hNotAfter, List.idxOf_cons_self]
  rcases List.mem_append.mp hId with hAfter | hRest
  · rw [List.idxOf_append_of_mem hAfter]
    exact_mod_cast (List.idxOf_lt_length_of_mem hAfter).le
  · rcases List.mem_cons.mp hRest with rfl | hEarlier
    · rw [List.idxOf_append_of_notMem hNotAfter, List.idxOf_cons_self]
    · have hNot := hBefore id (List.mem_reverse.mp hEarlier)
      rw [hp] at hNot
      cases hNot

/-- Whatever the order in which OBS lists its encoders, the default is the last one of the
priority list that is available. -/
theorem chooseVideoEncoder_eq_find (m : Machine) :
    chooseVideoEncoder m =
      if m.preferHardwareEncoder then
        (priorityHardwareEncoders.reverse.find? (available m.encoderTypes)).getD defaultVideoEncoder
      else defaultVideoEncoder := by
  unfold chooseVideoEncoder
  split
  · obtain ⟨hBest, hFound⟩ := picked_foldl m.encoderTypes
    generalize m.encoderTypes.foldl pickEncoder (-1, defaultVideoEncoder) = picked at hBest hFound ⊢
    cases hFind : priorityHardwareEncoders.reverse.find? (available m.encoderTypes) with
    | none =>
      rcases hFound with hNone | ⟨hAvailable, hPriority, hPos⟩
      · rw [hNone]
        rfl
      · have hMem := mem_of_priority_nonneg (hPriority ▸ hPos)
        exact absurd hAvailable (List.find?_eq_none.mp hFind _ (List.mem_reverse.mpr hMem))
    | some found =>
      have hMem : found ∈ priorityHardwareEncoders :=
        List.mem_reverse.mp (List.mem_of_find?_eq_some hFind)
      have hAvailable : available m.encoderTypes found = true := List.find?_some hFind
      obtain ⟨e, he, hBoth⟩ := List.any_eq_true.mp hAvailable
      obtain ⟨hUsable, hId⟩ := Bool.and_eq_true_iff.mp hBoth
      obtain rfl : e.id = found := of_decide_eq_true hId
      have hLe : priority e.id ≤ picked.1 := hBest e he hUsable
      have hPos : 0 ≤ priority e.id := by
        rw [priority_of_mem _ hMem]
        exact Int.natCast_nonneg _
      rcases hFound with hNone | ⟨hPicked, hPriority, hPickedPos⟩
      · rw [hNone] at hLe
        omega
      · have hPickedMem := mem_of_priority_nonneg (hPriority ▸ hPickedPos)
        have hGe := priority_le_of_find hFind hPickedMem hPicked
        have hSame : priority picked.2 = priority e.id := by omega
        rw [priority_of_mem _ hMem, priority_of_mem _ hPickedMem] at hSame
        exact (List.idxOf_inj hPickedMem).mp (by exact_mod_cast hSame)
  · rfl

end Encoder

section Documents

variable {o : QJsonObject}

theorem Defined.insert (h : Defined o) (key : String) (v : QJsonValue) :
    Defined (o.insert key v) := by
  have hRemoved : Defined (o.remove key) := fun m hm => h m (List.mem_of_mem_filter hm)
  cases v with
  | undefined => exact hRemoved
  | _ => exact List.forall_mem_cons.mpr ⟨(by simp), hRemoved⟩

theorem Defined.obsDataApply (h : Defined o) (data : QJsonObject) :
    Defined (obsDataApply o data) := by
  induction data with
  | nil => exact h
  | cons item data ih => exact ih.insert item.1 item.2

theorem Defined.value_ne_undefined (h : Defined o) {key : String} (hKey : key ∈ keys o) :
    o.value key ≠ .undefined := by
  induction o with
  | nil => cases hKey
  | cons m o ih =>
    obtain ⟨hFirst, hRest⟩ := List.forall_mem_cons.mp h
    rw [value_cons]
    split
    · exact hFirst
    · next hOther => exact ih hRest ((List.mem_cons.mp hKey).resolve_left hOther)

theorem value_of_not_mem_keys {key : String} (hKey : key ∉ keys o) : o.value key = .undefined := by
  induction o with
  | nil => rfl
  | cons m o ih =>
    obtain ⟨hFirst, hRest⟩ := not_or.mp fun hMem => hKey (List.mem_cons.mpr hMem)
    rw [value_cons, if_neg hFirst]
    exact ih hRest

end Documents

section Load

theorem value_loadSettings (m : Machine) (file : Option QJsonObject) (key : String) :
    (loadSettings m file).values.value key =
      if key ∈ keys (file.getD []) then (file.getD []).value key else (base m).value key := by
  cases file with
  | none => exact (if_neg List.not_mem_nil).symm
  | some data => exact value_obsDataApply ..

theorem defined_loadSettings (m : Machine) (file : Option QJsonObject) :
    Defined (loadSettings m file).values := by
  have hBase : Defined (base m) := by
    have hDefaults : Defined (obsDataApply [] (getDefaults m ⟨[], []⟩).defaults) :=
      Defined.obsDataApply (fun _ hm => absurd hm List.not_mem_nil) _
    simp only [base, loadSettings, loadPreset]
    split
    · exact hDefaults.obsDataApply _
    · exact hDefaults
  cases file with
  | none => exact hBase
  | some data => exact hBase.obsDataApply data

/-- Saved settings are loaded as they are, if no default of the machine is missing in them. -/
theorem sameValues_loadSettings_some {m : Machine} {settings : QJsonObject}
    (hCovers : ∀ key, (base m).value key ≠ .undefined → settings.value key ≠ .undefined) :
    SameValues (loadSettings m (some settings)).values settings := by
  intro key
  rw [value_loadSettings, Option.getD_some]
  split
  · rfl
  · next hMissing =>
    have hNone := value_of_not_mem_keys hMissing
    rw [hNone]
    exact not_not.mp fun hDefault => hCovers key hDefault hNone

end Load

section Steps

variable {w w' : World}

structure Documents (w : World) : Prop where
  settings : Defined w.dialog.output.settings
  file : Defined (w.file.getD [])

theorem documents_reloadProperties (env : Environment) (hShows : ShowsOnly env) {d : Dialog}
    (h : Defined d.output.settings) :
    Defined (EgressLinkOutput.reloadProperties env d).output.settings := by
  change Defined (env.encoderModified _ _).values
  rw [hShows, loadPreset]
  split
  · exact h.obsDataApply _
  · exact h

theorem settings_setSourceUuid {s : State} {value : String} (hOther : value ≠ s.getSourceUuid) :
    (EgressLinkOutput.apply s (.setSourceUuid value)).settings =
      s.settings.insert "source_uuid" (.string value) := by
  change (EgressLinkOutput.setSourceUuid value s).settings = _
  rw [EgressLinkOutput.setSourceUuid, if_neg hOther]

theorem step_documents {e : Event} (h : Documents w) (hStep : step w e = some w') :
    Documents w' := by
  have hSaved (e : EgressLinkOutput.Event)
      (hSettings : Defined (w.apply e).dialog.output.settings) :
      Documents (w.apply e).saveSettings := ⟨hSettings, hSettings⟩
  cases e with
  | update defaults newSettings hDefined =>
    obtain rfl := Option.some.inj hStep
    exact hSaved _ ((h.settings.obsDataApply defaults).obsDataApply newSettings)
  | setVisible value =>
    obtain rfl := Option.some.inj hStep
    have hVisible : Defined (w.apply (.setVisible value)).dialog.output.settings :=
      h.settings.insert "visible" (.bool value)
    exact hSaved _ hVisible
  | setSourceUuid value =>
    simp only [step] at hStep
    split at hStep
    · exact Option.some.inj hStep ▸ h
    · next hOther =>
      obtain rfl := Option.some.inj hStep
      refine hSaved _ ?_
      change Defined (EgressLinkOutput.apply w.dialog.output (.setSourceUuid value)).settings
      rw [settings_setSourceUuid hOther]
      exact h.settings.insert _ _
  | other e hKeeps =>
    obtain rfl := Option.some.inj hStep
    refine ⟨?_, h.file⟩
    change Defined (EgressLinkOutput.apply w.dialog.output e).settings
    rw [settings_apply _ hKeeps]
    exact h.settings
  | reloadProperties =>
    obtain rfl := Option.some.inj hStep
    exact ⟨documents_reloadProperties _ w.machine.showsOnly h.settings, h.file⟩
  | machineChanged m =>
    obtain rfl := Option.some.inj hStep
    exact ⟨h.settings, h.file⟩
  | restart unset =>
    obtain rfl := Option.some.inj hStep
    exact ⟨defined_loadSettings w.machine w.file, h.file⟩

/-- No value is taken away. -/
def Keeps (o o' : QJsonObject) : Prop := ∀ key, o.value key ≠ .undefined → o'.value key ≠ .undefined

theorem keeps_insert (o : QJsonObject) (key : String) {v : QJsonValue} (hDefined : v ≠ .undefined) :
    Keeps o (o.insert key v) := by
  intro key' hValue
  rcases eq_or_ne key' key with rfl | hOther
  · rw [value_insert_self]
    exact hDefined
  · rw [value_insert_of_ne o v hOther]
    exact hValue

theorem keeps_obsDataApply (o : QJsonObject) {data : QJsonObject} (hDefined : Defined data) :
    Keeps o (obsDataApply o data) := by
  intro key hValue
  rw [value_obsDataApply]
  split
  · next hKey => exact hDefined.value_ne_undefined hKey
  · exact hValue

/-- If the settings could be restored, then after they have been saved they can be. -/
theorem restores_saveSettings (hDocuments : Documents w) (h : Restores w)
    {e : EgressLinkOutput.Event}
    (hKeeps : Keeps w.dialog.output.settings (w.apply e).dialog.output.settings) :
    Restores (w.apply e).saveSettings := by
  refine sameValues_loadSettings_some fun key hDefault => hKeeps key ?_
  rw [← h key, value_loadSettings]
  split
  · next hKey => exact hDocuments.file.value_ne_undefined hKey
  · exact hDefault

theorem restores_machineChanged_iff (h : Restores w) (m : Machine) :
    Restores { w with machine := m } ↔ Harmless w (.machineChanged m) := by
  have hBoth (key : String) : (loadSettings m w.file).values.value key =
      w.dialog.output.settings.value key ↔
        (key ∉ keys (w.file.getD []) → (base m).value key = (base w.machine).value key) := by
    rw [← h key, value_loadSettings, value_loadSettings]
    split
    · next hKey => exact iff_of_true rfl fun hNot => absurd hKey hNot
    · next hKey => exact ⟨fun hSame _ => hSame, fun hSame => hSame hKey⟩
  exact forall_congr' hBoth

theorem step_restores_iff {e : Event} (hDocuments : Documents w) (h : Restores w)
    (hStep : step w e = some w') : Restores w' ↔ Harmless w e := by
  cases e with
  | machineChanged m =>
    obtain rfl := Option.some.inj hStep
    exact restores_machineChanged_iff h m
  | reloadProperties =>
    obtain rfl := Option.some.inj hStep
    -- the file is what it was, and it is the settings that may change
    refine Iff.trans ?_ (reloadProperties_keeps_iff w.machine.showsOnly w.dialog)
    exact forall_congr' fun key =>
      ⟨fun hNew => hNew.symm.trans (h key), fun hSame => (h key).trans hSame.symm⟩
  | update defaults newSettings hDefined =>
    obtain rfl := Option.some.inj hStep
    refine iff_of_true (restores_saveSettings hDocuments h fun key hValue => ?_) trivial
    exact keeps_obsDataApply _ hDefined.2 key (keeps_obsDataApply _ hDefined.1 key hValue)
  | setVisible value =>
    obtain rfl := Option.some.inj hStep
    have hKept : Keeps w.dialog.output.settings
        (w.dialog.output.settings.insert "visible" (.bool value)) := keeps_insert _ _ (by simp)
    exact iff_of_true (restores_saveSettings hDocuments h hKept) trivial
  | setSourceUuid value =>
    refine iff_of_true ?_ trivial
    simp only [step] at hStep
    split at hStep
    · exact Option.some.inj hStep ▸ h
    · next hOther =>
      obtain rfl := Option.some.inj hStep
      refine restores_saveSettings hDocuments h ?_
      change Keeps _ (EgressLinkOutput.apply w.dialog.output (.setSourceUuid value)).settings
      rw [settings_setSourceUuid hOther]
      exact keeps_insert _ _ (by simp)
  | other e hKeeps =>
    obtain rfl := Option.some.inj hStep
    refine iff_of_true ?_ trivial
    change SameValues _ (EgressLinkOutput.apply w.dialog.output e).settings
    rw [settings_apply _ hKeeps]
    exact h
  | restart unset =>
    obtain rfl := Option.some.inj hStep
    exact iff_of_true (fun _ => rfl) trivial

end Steps

/-- Whenever the output were constructed again, it would have the settings that it has, exactly if
the dialog always finds its preset in them and the machine changes no value without the file. -/
theorem restores_iff_harmless (x : Execution step) (hStart : Started (x.state 0)) :
    (∀ n, Restores (x.state n)) ↔ ∀ n e, x.event n = some e → Harmless (x.state n) e := by
  obtain ⟨⟨name, unset, hConstructed⟩, hFile⟩ := hStart
  have hDocuments : ∀ n, Documents (x.state n) := by
    refine x.always Documents ⟨?_, ?_⟩ fun _ _ _ => step_documents
    · rw [hConstructed]
      exact defined_loadSettings _ _
    · cases hSome : (x.state 0).file with
      | none => exact fun _ hm => absurd hm List.not_mem_nil
      | some data => exact hFile data hSome
  have hInitial : Restores (x.state 0) := by
    rw [Restores, hConstructed]
    exact fun _ => rfl
  exact x.always_iff hInitial fun n e hEvent hn =>
    step_restores_iff (hDocuments n) hn (x.next_of_event hEvent)

def x264Machine : Machine where
  env := x264Environment
  config := ⟨fun _ _ => "", fun _ _ => 0, fun _ _ => false⟩
  encoderTypes := [⟨"obs_x264", false, false, true⟩]
  preferHardwareEncoder := true
  showsOnly _ _ := rfl

def freshOutput : World where
  machine := x264Machine
  dialog := construct x264Machine none "main" ⟨0, 0, 0⟩
  file := none

/-- The saved bitrate of 5000 is kept over the one of the preset. -/
def savedAndRestarted : List Event :=
  [.update [] savedSettings ⟨fun _ hm => absurd hm List.not_mem_nil, by simp [Defined, savedSettings]⟩,
    .restart ⟨0, 0, 0⟩]

def savedAndRestartedRun : Execution step := .ofRun step freshOutput savedAndRestarted (by decide +kernel)

theorem restores_iff_harmless_savedAndRestarted :
    ((base x264Machine).value "bitrate").toInt = 10000 ∧
      ((savedAndRestartedRun.state 2).dialog.output.settings.value "bitrate").toInt = 5000 ∧
      ∀ n, Restores (savedAndRestartedRun.state n) := by
  refine ⟨by decide +kernel, by decide +kernel, ?_⟩
  have hStart : Started (savedAndRestartedRun.state 0) :=
    ⟨⟨"main", ⟨0, 0, 0⟩, rfl⟩, fun _ hFile => by cases hFile⟩
  refine (restores_iff_harmless savedAndRestartedRun hStart).mpr fun n e hEvent => ?_
  match n with
  | 0 => exact Option.some.inj hEvent ▸ trivial
  | 1 => exact Option.some.inj hEvent ▸ trivial
  | n + 2 => cases hEvent

end SrcLink.SavedSettings
