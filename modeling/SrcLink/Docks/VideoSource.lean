import SrcLink.Library.ComboBox
import SrcLink.Library.Since
import SrcLink.Outputs.SavedSettings

/-! # The video source of an output

`EgressLinkConnectionWidget` offers the sources of OBS in a combo box, for its output and
beside the output's settings dialog. The list is filled again by calls that the signals of
OBS queue, and when the output reports an error; a source that is not offered any more is
dropped. The dialog is modal and has settings of its own, which it copies when it is shown.
-/

namespace SrcLink.EgressLinkConnectionWidget

open Json EgressLinkOutput StepSystem QJsonObject SavedSettings

set_option autoImplicit false

inductive SourceType where
  | input
  | filter
  | transition
  | scene
  deriving DecidableEq

/-- What the widget asks of a source of OBS. -/
structure Source where
  uuid : String
  type : SourceType
  /-- `OBS_SOURCE_VIDEO` is among its flags -/
  video : Bool
  /-- `isSourceAvailable` -/
  available : Bool

/-- What `obs_enum_sources` and `obs_enum_scenes` go through. -/
structure Sources where
  sources : List Source := []
  scenes : List Source := []

/-- The user data of the items. -/
def Sources.rows (s : Sources) : List String :=
  let inputs := s.sources.filter fun source =>
    source.video && source.type = .input && source.available
  let scenes := s.scenes.filter fun source => source.type = .scene && source.available
  "" :: "program" :: (inputs.map Source.uuid ++ scenes.map Source.uuid)

/-- No preset and no encoder has a video source of its own. -/
structure NamesNoSource (env : Environment) : Prop where
  presets : ∀ id data, env.presetFile id = some data → "source_uuid" ∉ keys data
  defaults : ∀ id, "source_uuid" ∉ keys (env.encoderDefaults id)

structure State where
  machine : Machine
  namesNoSource : NamesNoSource machine.env
  output : Dialog
  /-- the dialog's own settings -/
  form : ObsData
  dialogShown : Bool := false
  videoSourceComboBox : ComboBox String := {}
  sources : Sources
  /-- queued calls of `updateSourceList` -/
  queued : Nat := 0
  /-- the signals of OBS are connected -/
  connected : Bool := true

namespace State

def sourceUuid (s : State) : String := s.output.output.getSourceUuid

def apply (s : State) (e : EgressLinkOutput.Event) : State :=
  { s with output := { s.output with output := EgressLinkOutput.apply s.output.output e } }

def onVideoSourceChanged (s : State) : State :=
  s.apply (.setSourceUuid (s.videoSourceComboBox.currentData.getD ""))

/-- The signals of the combo box are blocked. -/
def updateSourceList (s : State) : State :=
  let selected := s.sourceUuid
  let comboBox := ComboBox.ofItems s.sources.rows
  match comboBox.findData selected with
  | some index => { s with videoSourceComboBox := comboBox.setCurrentIndex (some index) }
  | none =>
    -- Select "disabled" defaultly
    onVideoSourceChanged { s with videoSourceComboBox := comboBox.setFirst }

/-- `currentIndexChanged` is emitted for another index only. -/
def setCurrentIndex (index : Nat) (s : State) : State :=
  let comboBox := s.videoSourceComboBox.setCurrentIndex (some index)
  let chosen : State := { s with videoSourceComboBox := comboBox }
  if comboBox.currentIndex ≠ s.videoSourceComboBox.currentIndex then chosen.onVideoSourceChanged
  else chosen

/-- The properties are built from the settings of the output. -/
def reloadProperties (s : State) : State :=
  { s with output := EgressLinkOutput.reloadProperties s.machine.env s.output }

/-- `showEvent` -/
def showDialog (s : State) : State :=
  let s := s.reloadProperties
  { s with
    form := { s.form with values := obsDataApply s.form.values s.output.output.settings }
    dialogShown := true }

def accept (s : State) : State :=
  { s.apply (.update s.form.defaults s.form.values) with dialogShown := false }

end State

/-- The dialog is constructed before the list is filled. -/
def withDialog (m : Machine) (hNames : NamesNoSource m.env) (output : Dialog)
    (sources : Sources) : State where
  machine := m
  namesNoSource := hNames
  output := output
  form :=
    { getDefaults m ⟨[], []⟩ with
      values := obsDataApply (getDefaults m ⟨[], []⟩).values output.output.settings }
  sources := sources

/-- The list is filled, and the source of the output is selected. -/
def create (m : Machine) (hNames : NamesNoSource m.env) (output : Dialog) (sources : Sources) :
    State :=
  let s := (withDialog m hNames output sources).updateSourceList
  let index :=
    if s.sourceUuid = "" then some 0 else s.videoSourceComboBox.findData s.sourceUuid
  { s with videoSourceComboBox := s.videoSourceComboBox.setCurrentIndex index }

inductive Event where
  /-- the user chooses a row -/
  | setCurrentIndex (index : Nat)
  | visibilityChanged (value : Bool)
  | settingsButtonClick
  /-- a property of the dialog is changed -/
  | setProperty (key : String) (v : QJsonValue) (hOther : key ≠ "source_uuid")
  /-- the dialog's list of encoders loads the preset of the chosen one -/
  | videoEncoderModified
  | accept
  | reject
  /-- sources come, go, or become available; `signalled` if OBS emits a signal for it -/
  | sourcesChanged (sources : Sources) (signalled : Bool)
  /-- a queued call -/
  | updateSourceList
  | reloadProperties
  /-- what the output does on its own -/
  | output (e : EgressLinkOutput.Event) (hKeeps : e.keepsSettings = true)
  /-- `onOutputStatusChanged` with an error, while that is the status -/
  | errorReported
  | scriptingShutdown

open State in
/-- The dialog is modal. -/
def step (s : State) : Event → Option State
  | .setCurrentIndex index =>
    if s.dialogShown ∨ s.videoSourceComboBox.items.length ≤ index then none
    else some (s.setCurrentIndex index)
  | .visibilityChanged value => if s.dialogShown then none else some (s.apply (.setVisible value))
  | .settingsButtonClick => if s.dialogShown then none else some s.showDialog
  | .setProperty key v _ =>
    if s.dialogShown then
      some { s with form := { s.form with values := s.form.values.insert key v } }
    else none
  | .videoEncoderModified =>
    if s.dialogShown then
      some { s with form := EgressLinkOutput.videoEncoderModified s.machine.env s.form }
    else none
  | .accept => if s.dialogShown then some s.accept else none
  | .reject => if s.dialogShown then some { s with dialogShown := false } else none
  | .sourcesChanged sources signalled =>
    some { s with
      sources := sources
      queued := if signalled && s.connected then s.queued + 1 else s.queued }
  | .updateSourceList =>
    if s.queued = 0 then none else some { s.updateSourceList with queued := s.queued - 1 }
  | .reloadProperties => some s.reloadProperties
  | .output e _ => some (s.apply e)
  | .errorReported =>
    if s.output.output.status = .error then some s.updateSourceList else none
  | .scriptingShutdown => some { s with connected := false }

def Started (s : State) : Prop :=
  ∃ m hNames output sources, s = create m hNames output sources

/-- The row that is shown is the source of the output. -/
def Shows (s : State) : Prop := s.videoSourceComboBox.currentData = some s.sourceUuid

/-- The list is filled again and has the source of the output no more. -/
def DropsSource (s : State) : Event → Prop
  | .updateSourceList | .errorReported => s.sourceUuid ∉ s.sources.rows
  | _ => False

/-- A source has been dropped while the dialog is shown. -/
def DroppedUnderDialog (x : Execution step) (n : Nat) : Prop :=
  x.Since (fun s => s.dialogShown = true) DropsSource n

section Documents

variable {o : QJsonObject} {key : String}

theorem not_mem_keys_insert {other : String} (h : key ∉ keys o) (hOther : key ≠ other)
    (v : QJsonValue) : key ∉ keys (o.insert other v) := by
  have hRemoved : key ∉ keys (o.remove other) := by
    intro hKey
    obtain ⟨m, hm, rfl⟩ := List.mem_map.mp hKey
    exact h (List.mem_map_of_mem (List.mem_of_mem_filter hm))
  cases v with
  | undefined => exact hRemoved
  | _ => exact fun hKey => (List.mem_cons.mp hKey).elim hOther hRemoved

theorem not_mem_keys_obsDataApply {data : QJsonObject} (h : key ∉ keys o)
    (hData : key ∉ keys data) : key ∉ keys (obsDataApply o data) := by
  induction data with
  | nil => exact h
  | cons item data ih =>
    obtain ⟨hFirst, hRest⟩ := not_or.mp fun hMem => hData (List.mem_cons.mpr hMem)
    exact not_mem_keys_insert (ih hRest) hFirst item.2

theorem not_mem_keys_filter {p : String × QJsonValue → Bool} (h : key ∉ keys o) :
    key ∉ keys (o.filter p) := by
  intro hKey
  obtain ⟨m, hm, rfl⟩ := List.mem_map.mp hKey
  exact h (List.mem_map_of_mem (List.mem_of_mem_filter hm))

theorem value_obsDataApply_of_not_mem (o : QJsonObject) {data : QJsonObject}
    (hData : key ∉ keys data) : (obsDataApply o data).value key = o.value key := by
  rw [value_obsDataApply, if_neg hData]

end Documents

section Settings

variable {m : Machine} {env : Environment}

theorem getDefaults_defaults (hNames : NamesNoSource m.env) :
    "source_uuid" ∉ keys (getDefaults m ⟨[], []⟩).defaults := by
  have hNone : "source_uuid" ∉ keys [] := List.not_mem_nil
  simp only [getDefaults, setDefault, applyDefaults]
  apply not_mem_keys_obsDataApply
  · repeat' apply not_mem_keys_insert
    all_goals first | exact hNone | decide
  · exact not_mem_keys_filter (hNames.defaults _)

theorem value_loadPreset (hNames : NamesNoSource env) (d : ObsData) (encoderId : String) :
    (loadPreset env d encoderId).values.value "source_uuid" = d.values.value "source_uuid" := by
  unfold loadPreset
  split
  · next presetData hFile => exact value_obsDataApply_of_not_mem _ (hNames.presets _ _ hFile)
  · rfl

theorem videoEncoderModified_values (hShows : ShowsOnly env) (hNames : NamesNoSource env)
    (d : ObsData) : (videoEncoderModified env d).values.value "source_uuid" =
      d.values.value "source_uuid" := by
  unfold videoEncoderModified
  simp only
  rw [hShows]
  exact value_loadPreset hNames _ _

theorem videoEncoderModified_defaults (hShows : ShowsOnly env) (hNames : NamesNoSource env)
    {d : ObsData} (h : "source_uuid" ∉ keys d.defaults) :
    "source_uuid" ∉ keys (videoEncoderModified env d).defaults := by
  have hApplied : "source_uuid" ∉ keys
      (applyDefaults d (env.encoderDefaults (d.getString "video_encoder"))).defaults :=
    not_mem_keys_obsDataApply h (not_mem_keys_filter (hNames.defaults _))
  unfold videoEncoderModified
  simp only
  rw [hShows]
  unfold loadPreset
  split
  · exact hApplied
  · exact hApplied

end Settings

section Steps

variable {s t : State} {e : Event}

/-- The source that the dialog has in its settings. -/
def State.formSource (s : State) : String := (s.form.values.value "source_uuid").toString

theorem sourceUuid_onVideoSourceChanged (s : State) :
    s.onVideoSourceChanged.sourceUuid = s.videoSourceComboBox.currentData.getD "" := by
  change (EgressLinkOutput.setSourceUuid _ s.output.output).getSourceUuid = _
  unfold EgressLinkOutput.setSourceUuid
  split
  · next hSame => exact hSame.symm
  · unfold EgressLinkOutput.State.getSourceUuid
    rw [value_insert_self]
    rfl

/-- What filling the list does: the source is found again, or dropped. -/
structure Listed (s t : State) : Prop where
  items : t.videoSourceComboBox.items = s.sources.rows
  source : t.sourceUuid = if s.sourceUuid ∈ s.sources.rows then s.sourceUuid else ""
  shows : Shows t
  settings : t.output.output.settings.value "source_uuid" = .undefined →
    s.output.output.settings.value "source_uuid" = .undefined
  form : t.form = s.form
  dialogShown : t.dialogShown = s.dialogShown
  sources : t.sources = s.sources
  connected : t.connected = s.connected

theorem settings_onVideoSourceChanged (s : State)
    (h : s.onVideoSourceChanged.output.output.settings.value "source_uuid" = .undefined) :
    s.output.output.settings.value "source_uuid" = .undefined := by
  change (EgressLinkOutput.setSourceUuid _ s.output.output).settings.value _ = _ at h
  unfold EgressLinkOutput.setSourceUuid at h
  split at h
  · exact h
  · rw [value_insert_self] at h
    cases h

theorem listed_updateSourceList (s : State) : Listed s s.updateSourceList := by
  unfold State.updateSourceList
  simp only
  split
  · next index hFound =>
    have hItem := ComboBox.getElem?_of_findData hFound
    have hMem : s.sourceUuid ∈ s.sources.rows := List.mem_of_getElem? hItem
    refine ⟨rfl, (if_pos hMem).symm, ?_, id, rfl, rfl, rfl, rfl⟩
    exact (ComboBox.currentData_setCurrentIndex _ _).trans hItem
  · next hMissing =>
    have hFirst : (ComboBox.ofItems s.sources.rows).setFirst.currentData = some "" :=
      ComboBox.currentData_setFirst _
    have hSource := sourceUuid_onVideoSourceChanged
      { s with videoSourceComboBox := (ComboBox.ofItems s.sources.rows).setFirst }
    rw [hFirst, Option.getD_some] at hSource
    refine ⟨rfl, ?_, ?_, settings_onVideoSourceChanged _, rfl, rfl, rfl, rfl⟩
    · have hGone : s.sourceUuid ∉ s.sources.rows := ComboBox.findData_eq_none_iff.mp hMissing
      rw [if_neg hGone]
      exact hSource
    · exact hFirst.trans (congrArg some hSource.symm)

/-- How many calls are queued is another matter. -/
theorem Listed.queued {n : Nat} (h : Listed s t) : Listed s { t with queued := n } where
  items := h.items
  source := h.source
  shows := h.shows
  settings := h.settings
  form := h.form
  dialogShown := h.dialogShown
  sources := h.sources
  connected := h.connected

theorem shows_create (m : Machine) (hNames : NamesNoSource m.env) (output : Dialog)
    (sources : Sources) : Shows (create m hNames output sources) := by
  unfold create
  simp only
  have h := listed_updateSourceList (withDialog m hNames output sources)
  generalize (withDialog m hNames output sources).updateSourceList = t at h ⊢
  change (t.videoSourceComboBox.setCurrentIndex _).currentData = some t.sourceUuid
  rw [ComboBox.currentData_setCurrentIndex]
  split
  · next hEmpty =>
    rw [hEmpty, h.items]
    rfl
  · obtain ⟨index, hIndex⟩ := Option.ne_none_iff_exists'.mp fun hNone =>
      ComboBox.findData_eq_none_iff.mp hNone (ComboBox.mem_of_currentData h.shows)
    rw [hIndex]
    exact ComboBox.getElem?_of_findData hIndex

/-- Steps that leave the source of the output and the one of the dialog alone. -/
structure Quiet (s t : State) : Prop where
  settings : t.output.output.settings.value "source_uuid" =
    s.output.output.settings.value "source_uuid"
  form : t.form.values.value "source_uuid" = s.form.values.value "source_uuid"
  defaults : "source_uuid" ∉ keys s.form.defaults → "source_uuid" ∉ keys t.form.defaults
  dialogShown : t.dialogShown = s.dialogShown
  videoSourceComboBox : t.videoSourceComboBox = s.videoSourceComboBox

theorem Quiet.sourceUuid (h : Quiet s t) : t.sourceUuid = s.sourceUuid :=
  congrArg QJsonValue.toString h.settings

theorem Quiet.formSource (h : Quiet s t) : t.formSource = s.formSource :=
  congrArg QJsonValue.toString h.form

def Event.quiet : Event → Bool
  | .visibilityChanged _ | .setProperty .. | .videoEncoderModified | .sourcesChanged ..
  | .reloadProperties | .output .. | .scriptingShutdown => true
  | _ => false

theorem value_reloadProperties (s : State) :
    s.reloadProperties.output.output.settings.value "source_uuid" =
      s.output.output.settings.value "source_uuid" :=
  videoEncoderModified_values s.machine.showsOnly s.namesNoSource s.output.getSettings

theorem quiet_of_step (hQuiet : e.quiet = true) (hStep : step s e = some t) : Quiet s t := by
  cases e with
  | visibilityChanged value =>
    obtain ⟨-, ⟨⟩⟩ := Option.ite_none_left_eq_some.mp hStep
    refine ⟨?_, rfl, id, rfl, rfl⟩
    exact value_insert_of_ne s.output.output.settings (.bool value) (by decide)
  | setProperty key v hOther =>
    obtain ⟨-, ⟨⟩⟩ := Option.ite_none_right_eq_some.mp hStep
    exact ⟨rfl, value_insert_of_ne _ _ hOther.symm, id, rfl, rfl⟩
  | videoEncoderModified =>
    obtain ⟨-, ⟨⟩⟩ := Option.ite_none_right_eq_some.mp hStep
    exact ⟨rfl, videoEncoderModified_values s.machine.showsOnly s.namesNoSource s.form,
      videoEncoderModified_defaults s.machine.showsOnly s.namesNoSource, rfl, rfl⟩
  | sourcesChanged sources signalled =>
    obtain rfl := Option.some.inj hStep
    exact ⟨rfl, rfl, id, rfl, rfl⟩
  | reloadProperties =>
    obtain rfl := Option.some.inj hStep
    exact ⟨value_reloadProperties s, rfl, id, rfl, rfl⟩
  | output e hKeeps =>
    obtain rfl := Option.some.inj hStep
    exact ⟨congrArg (value · "source_uuid") (settings_apply _ hKeeps), rfl, id, rfl, rfl⟩
  | scriptingShutdown =>
    obtain rfl := Option.some.inj hStep
    exact ⟨rfl, rfl, id, rfl, rfl⟩
  | _ => cases hQuiet

/-- Nothing but the output has given the dialog its source. -/
structure FormFollows (s : State) : Prop where
  defaults : "source_uuid" ∉ keys s.form.defaults
  values : s.output.output.settings.value "source_uuid" = .undefined → s.formSource = ""

theorem FormFollows.of_quiet (h : FormFollows s) (hQuiet : Quiet s t) : FormFollows t := by
  refine ⟨hQuiet.defaults h.defaults, fun hNone => ?_⟩
  rw [hQuiet.formSource]
  exact h.values (hQuiet.settings ▸ hNone)

theorem FormFollows.of_listed (h : FormFollows s) (hListed : Listed s t) : FormFollows t := by
  refine ⟨hListed.form ▸ h.defaults, fun hNone => ?_⟩
  rw [State.formSource, hListed.form]
  exact h.values (hListed.settings hNone)

theorem value_accept (h : FormFollows s) :
    s.accept.output.output.settings.value "source_uuid" =
      if "source_uuid" ∈ keys s.form.values then s.form.values.value "source_uuid"
      else s.output.output.settings.value "source_uuid" := by
  change (obsDataApply (obsDataApply s.output.output.settings s.form.defaults)
    s.form.values).value "source_uuid" = _
  rw [value_obsDataApply, value_obsDataApply_of_not_mem _ h.defaults]

theorem sourceUuid_accept (h : FormFollows s) (hSource : s.formSource ≠ "") :
    s.accept.sourceUuid = s.formSource := by
  change (s.accept.output.output.settings.value "source_uuid").toString = _
  rw [value_accept h, if_pos]
  · rfl
  · by_contra hMissing
    apply hSource
    rw [State.formSource, value_of_not_mem_keys hMissing]
    rfl

theorem sourceUuid_accept_of_current (h : FormFollows s) (hCurrent : s.formSource = s.sourceUuid) :
    s.accept.sourceUuid = s.sourceUuid := by
  change (s.accept.output.output.settings.value "source_uuid").toString = _
  rw [value_accept h]
  split
  · exact hCurrent
  · rfl

theorem FormFollows.accept (h : FormFollows s) : FormFollows s.accept := by
  refine ⟨h.defaults, fun hNone => ?_⟩
  rw [value_accept h] at hNone
  split at hNone
  · exact congrArg QJsonValue.toString hNone
  · exact h.values hNone

/-- A dialog that is shown starts from the source of the output. -/
theorem formSource_showDialog (h : FormFollows s) :
    s.showDialog.formSource = s.showDialog.sourceUuid := by
  change ((obsDataApply s.form.values s.reloadProperties.output.output.settings).value
    "source_uuid").toString = (s.reloadProperties.output.output.settings.value _).toString
  rw [value_obsDataApply]
  split
  · rfl
  · next hMissing =>
    have hNone := value_of_not_mem_keys hMissing
    rw [hNone]
    exact h.values ((value_reloadProperties s).symm.trans hNone)

theorem FormFollows.showDialog (h : FormFollows s) : FormFollows s.showDialog := by
  refine ⟨h.defaults, fun hNone => ?_⟩
  rw [formSource_showDialog h]
  exact congrArg QJsonValue.toString hNone

theorem formFollows_setCurrentIndex (h : FormFollows s) (index : Nat) :
    FormFollows (s.setCurrentIndex index) ∧
      (s.setCurrentIndex index).dialogShown = s.dialogShown := by
  unfold State.setCurrentIndex
  simp only
  split
  · refine ⟨⟨h.defaults, fun hNone => ?_⟩, rfl⟩
    exact h.values (settings_onVideoSourceChanged
      { s with videoSourceComboBox := s.videoSourceComboBox.setCurrentIndex (some index) } hNone)
  · exact ⟨⟨h.defaults, h.values⟩, rfl⟩

theorem formFollows_create (m : Machine) (hNames : NamesNoSource m.env) (output : Dialog)
    (sources : Sources) : FormFollows (create m hNames output sources) := by
  have hFollows : FormFollows (withDialog m hNames output sources) := by
    refine ⟨getDefaults_defaults hNames, fun hNone => ?_⟩
    have hApplied : (obsDataApply [] output.output.settings).value "source_uuid" = .undefined := by
      rw [value_obsDataApply]
      split
      · exact hNone
      · rfl
    exact congrArg QJsonValue.toString hApplied
  have hListed := hFollows.of_listed (listed_updateSourceList _)
  exact ⟨hListed.defaults, hListed.values⟩

/-- While the dialog is shown it has the source of the output, until that is dropped. -/
structure Remembered (s : State) (dropped : Prop) : Prop where
  follows : FormFollows s
  shown : dropped → s.dialogShown = true
  current : s.dialogShown = true → ¬dropped → s.formSource = s.sourceUuid
  stale : dropped → s.sourceUuid = "" ∧ s.formSource ≠ ""

theorem Remembered.of_hidden (h : FormFollows t) (hHidden : t.dialogShown = false) {p : Prop} :
    Remembered t (t.dialogShown = true ∧ p) := by
  rw [hHidden]
  exact ⟨h, fun hDropped => absurd hDropped.1 Bool.false_ne_true,
    fun hShown => absurd (hHidden ▸ hShown) Bool.false_ne_true,
    fun hDropped => absurd hDropped.1 Bool.false_ne_true⟩

theorem Remembered.of_quiet {dropped : Prop} (h : Remembered s dropped) (hQuiet : Quiet s t) :
    Remembered t dropped := by
  refine ⟨h.follows.of_quiet hQuiet, fun hDropped => ?_, fun hShown hDropped => ?_,
    fun hDropped => ?_⟩
  · exact hQuiet.dialogShown.trans (h.shown hDropped)
  · rw [hQuiet.formSource, hQuiet.sourceUuid]
    exact h.current (hQuiet.dialogShown ▸ hShown) hDropped
  · rw [hQuiet.formSource, hQuiet.sourceUuid]
    exact h.stale hDropped

theorem empty_mem_rows (sources : Sources) : "" ∈ sources.rows := List.mem_cons_self

theorem Remembered.of_listed {dropped : Prop} (h : Remembered s dropped) (hListed : Listed s t) :
    Remembered t (t.dialogShown = true ∧
      (dropped ∨ s.dialogShown = true ∧ s.sourceUuid ∉ s.sources.rows)) := by
  have hForm : t.formSource = s.formSource := by
    rw [State.formSource, State.formSource, hListed.form]
  refine ⟨h.follows.of_listed hListed, And.left, fun hShown hKept => ?_, ?_⟩
  · have hNot := not_or.mp fun hDropped => hKept ⟨hShown, hDropped⟩
    rw [hListed.dialogShown] at hShown
    have hMem := not_not.mp fun hGone => hNot.2 ⟨hShown, hGone⟩
    rw [hForm, hListed.source, if_pos hMem]
    exact h.current hShown hNot.1
  · rintro ⟨-, hBefore | ⟨hShown, hGone⟩⟩
    · have hStale := h.stale hBefore
      rw [hForm, hListed.source, hStale.1, ite_self]
      exact ⟨rfl, hStale.2⟩
    · rw [hForm, hListed.source, if_neg hGone]
      refine ⟨rfl, fun hEmpty => hGone ?_⟩
      -- a source that was dropped before cannot be dropped again
      by_cases hBefore : dropped
      · exact (h.stale hBefore).1 ▸ empty_mem_rows _
      · rw [← h.current hShown hBefore, hEmpty]
        exact empty_mem_rows _

theorem step_remembered {dropped : Prop} (h : Remembered s dropped) (hStep : step s e = some t) :
    Remembered t (t.dialogShown = true ∧ (dropped ∨ s.dialogShown = true ∧ DropsSource s e)) := by
  by_cases hEvent : e.quiet = true
  · have hQuiet := quiet_of_step hEvent hStep
    have hSame : (t.dialogShown = true ∧ (dropped ∨ s.dialogShown = true ∧ DropsSource s e)) =
        dropped := by
      have hDrops : ¬DropsSource s e := by
        cases e <;> first | exact id | cases hEvent
      rw [hQuiet.dialogShown]
      exact propext ⟨fun hBoth => hBoth.2.resolve_right fun hNow => hDrops hNow.2,
        fun hDropped => ⟨h.shown hDropped, .inl hDropped⟩⟩
    rw [hSame]
    exact h.of_quiet hQuiet
  cases e with
  | setCurrentIndex index =>
    obtain ⟨hNot, ⟨⟩⟩ := Option.ite_none_left_eq_some.mp hStep
    have hHidden : s.dialogShown = false := Bool.eq_false_iff.mpr fun hShown => hNot (.inl hShown)
    obtain ⟨hFollows, hShown⟩ := formFollows_setCurrentIndex h.follows index
    exact .of_hidden hFollows (hShown.trans hHidden)
  | settingsButtonClick =>
    obtain ⟨hNot, ⟨⟩⟩ := Option.ite_none_left_eq_some.mp hStep
    have hNone : ¬(dropped ∨ s.dialogShown = true ∧ DropsSource s .settingsButtonClick) := by
      rintro (hBefore | ⟨hShown, -⟩)
      · exact hNot (h.shown hBefore)
      · exact hNot hShown
    exact ⟨h.follows.showDialog, And.left, fun _ _ => formSource_showDialog h.follows,
      fun hDropped => absurd hDropped.2 hNone⟩
  | accept =>
    obtain ⟨-, ⟨⟩⟩ := Option.ite_none_right_eq_some.mp hStep
    exact .of_hidden h.follows.accept rfl
  | reject =>
    obtain ⟨-, ⟨⟩⟩ := Option.ite_none_right_eq_some.mp hStep
    apply Remembered.of_hidden
    · exact ⟨h.follows.defaults, h.follows.values⟩
    · rfl
  | updateSourceList =>
    obtain ⟨-, ⟨⟩⟩ := Option.ite_none_left_eq_some.mp hStep
    exact h.of_listed (listed_updateSourceList s).queued
  | errorReported =>
    obtain ⟨-, ⟨⟩⟩ := Option.ite_none_right_eq_some.mp hStep
    exact h.of_listed (listed_updateSourceList s)
  | _ => exact absurd rfl hEvent

theorem shows_of_same (h : Shows s) (hBox : t.videoSourceComboBox = s.videoSourceComboBox)
    (hSource : t.sourceUuid = s.sourceUuid) : Shows t := by
  rw [Shows, hBox, hSource]
  exact h

theorem shows_setCurrentIndex (h : Shows s) {index : Nat}
    (hRange : index < s.videoSourceComboBox.items.length) : Shows (s.setCurrentIndex index) := by
  have hChosen : (s.videoSourceComboBox.setCurrentIndex (some index)).currentData =
      some s.videoSourceComboBox.items[index] :=
    ComboBox.currentData_setCurrentIndex_of_lt _ hRange
  unfold State.setCurrentIndex
  simp only
  split
  · have hSource := sourceUuid_onVideoSourceChanged
      { s with videoSourceComboBox := s.videoSourceComboBox.setCurrentIndex (some index) }
    rw [hChosen, Option.getD_some] at hSource
    exact hChosen.trans (congrArg some hSource.symm)
  · next hSame =>
    refine shows_of_same (s := s) h ?_ rfl
    exact congrArg (ComboBox.mk s.videoSourceComboBox.items) (not_not.mp hSame)

theorem step_shows (h : Shows s) (hOther : e ≠ .accept) (hStep : step s e = some t) :
    Shows t := by
  by_cases hEvent : e.quiet = true
  · have hQuiet := quiet_of_step hEvent hStep
    exact shows_of_same h hQuiet.videoSourceComboBox hQuiet.sourceUuid
  cases e with
  | setCurrentIndex index =>
    obtain ⟨hNot, ⟨⟩⟩ := Option.ite_none_left_eq_some.mp hStep
    exact shows_setCurrentIndex h (not_le.mp (not_or.mp hNot).2)
  | settingsButtonClick =>
    obtain ⟨-, ⟨⟩⟩ := Option.ite_none_left_eq_some.mp hStep
    exact shows_of_same h rfl (congrArg QJsonValue.toString (value_reloadProperties s))
  | accept => exact absurd rfl hOther
  | reject =>
    obtain ⟨-, ⟨⟩⟩ := Option.ite_none_right_eq_some.mp hStep
    exact shows_of_same h rfl rfl
  | updateSourceList =>
    obtain ⟨-, ⟨⟩⟩ := Option.ite_none_left_eq_some.mp hStep
    exact (listed_updateSourceList s).shows
  | errorReported =>
    obtain ⟨-, ⟨⟩⟩ := Option.ite_none_right_eq_some.mp hStep
    exact (listed_updateSourceList s).shows
  | _ => exact absurd rfl hEvent

theorem accept_shows_iff {dropped : Prop} (hRemembered : Remembered s dropped) (h : Shows s)
    (hStep : step s .accept = some t) : Shows t ↔ ¬dropped := by
  obtain ⟨hShown, ⟨⟩⟩ := Option.ite_none_right_eq_some.mp hStep
  constructor
  · intro hAccepted hDropped
    obtain ⟨hEmpty, hSource⟩ := hRemembered.stale hDropped
    have hBoth : some s.sourceUuid = some s.accept.sourceUuid := h.symm.trans hAccepted
    rw [sourceUuid_accept hRemembered.follows hSource, hEmpty] at hBoth
    exact hSource (Option.some.inj hBoth).symm
  · intro hKept
    have hCurrent := hRemembered.current hShown hKept
    exact shows_of_same h rfl (sourceUuid_accept_of_current hRemembered.follows hCurrent)

end Steps

section Executions

variable {x : Execution step}

theorem remembered_of_started (hStart : Started (x.state 0)) (n : Nat) :
    Remembered (x.state n) (DroppedUnderDialog x n) := by
  obtain ⟨m, hNames, output, sources, hCreated⟩ := hStart
  refine Execution.since_invariant ?_ (fun _ _ _ _ h hStep => step_remembered h hStep) n
  have hFollows : FormFollows (x.state 0) := hCreated ▸ formFollows_create m hNames output sources
  have hHidden : (x.state 0).dialogShown = false := by
    rw [hCreated]
    exact (listed_updateSourceList _).dialogShown
  exact ⟨hFollows, False.elim, fun hShown => absurd (hHidden ▸ hShown) Bool.false_ne_true,
    False.elim⟩

theorem shows_of_started (hStart : Started (x.state 0)) : Shows (x.state 0) := by
  obtain ⟨m, hNames, output, sources, hCreated⟩ := hStart
  exact hCreated ▸ shows_create m hNames output sources

theorem shows_of_notDropped (hStart : Started (x.state 0))
    (hKept : ∀ n, x.event n = some .accept → ¬DroppedUnderDialog x n) (n : Nat) :
    Shows (x.state n) := by
  refine x.holds_of_events (shows_of_started hStart) (fun n e hEvent h => ?_) n
  by_cases hAccept : e = .accept
  · subst hAccept
    exact (accept_shows_iff (remembered_of_started hStart n) h (x.next_of_event hEvent)).mpr
      (hKept n hEvent)
  · exact step_shows h hAccept (x.next_of_event hEvent)

end Executions

/-- The combo box shows the source of the output all the time exactly if no dialog is accepted
after a source has been dropped behind it. -/
theorem shows_iff_notDropped (x : Execution step) (hStart : Started (x.state 0)) :
    (∀ n, Shows (x.state n)) ↔ ∀ n, x.event n = some .accept → ¬DroppedUnderDialog x n := by
  refine ⟨fun hShows n hEvent => ?_, shows_of_notDropped hStart⟩
  have hNext := x.next_of_event hEvent
  exact (accept_shows_iff (remembered_of_started hStart n) (hShows n) hNext).mp (hShows (n + 1))

theorem x264NamesNoSource : NamesNoSource x264Machine.env where
  presets id data hFile := by
    obtain ⟨-, ⟨⟩⟩ := Option.ite_none_right_eq_some.mp hFile
    decide
  defaults _ := List.not_mem_nil

def camera : Source := ⟨"camera", .input, true, true⟩

/-- A widget whose output has the only camera for its source. -/
def cameraWidget : State :=
  create x264Machine x264NamesNoSource
    (construct x264Machine (some [("source_uuid", .string "camera")]) "main" ⟨0, 0, 0⟩)
    { sources := [camera] }

/-- The camera is unplugged behind the dialog, which is accepted. -/
def unpluggedBehindDialog : List Event :=
  [.settingsButtonClick, .sourcesChanged {} true, .updateSourceList, .accept]

def unpluggedRun : Execution step :=
  .ofRun step cameraWidget unpluggedBehindDialog (by decide +kernel)

/-- The camera is unplugged before the dialog is shown. -/
def unpluggedBeforeDialog : List Event :=
  [.sourcesChanged {} true, .updateSourceList, .settingsButtonClick, .accept]

def reopenedRun : Execution step :=
  .ofRun step cameraWidget unpluggedBeforeDialog (by decide +kernel)

theorem shows_iff_notDropped_unplugged :
    ((reopenedRun.state 4).sourceUuid = "" ∧ ∀ n, Shows (reopenedRun.state n)) ∧
      (unpluggedRun.state 3).sourceUuid = "" ∧ (unpluggedRun.state 4).sourceUuid = "camera" ∧
      ¬∀ n, Shows (unpluggedRun.state n) := by
  refine ⟨⟨by decide +kernel, ?_⟩, by decide +kernel, by decide +kernel, fun hShows => ?_⟩
  · have hStart : Started (reopenedRun.state 0) := ⟨_, _, _, _, rfl⟩
    apply (shows_iff_notDropped reopenedRun hStart).mpr
    rintro n hEvent ⟨m, hmn, ⟨e, hDrop, hDrops⟩, hShown⟩
    -- nothing is dropped from the click on
    have hHidden : (reopenedRun.state 1).dialogShown = false := by decide +kernel
    obtain rfl : n = 3 := by
      match n with
      | 0 | 1 | 2 => cases hEvent
      | 3 => rfl
      | n + 4 => cases hEvent
    obtain rfl | rfl | rfl : m = 0 ∨ m = 1 ∨ m = 2 := by omega
    · obtain rfl := Option.some.inj hDrop
      exact hDrops
    · exact absurd (hShown 1 le_rfl (by decide)) (by simp [hHidden])
    · obtain rfl := Option.some.inj hDrop
      exact hDrops
  · have hStart : Started (unpluggedRun.state 0) := ⟨_, _, _, _, rfl⟩
    have hDrops : (unpluggedRun.state 2).sourceUuid ∉ (unpluggedRun.state 2).sources.rows := by
      decide +kernel
    apply (shows_iff_notDropped unpluggedRun hStart).mp hShows 3 rfl
    refine ⟨2, by decide, ⟨.updateSourceList, rfl, hDrops⟩, fun k hFrom hTo => ?_⟩
    obtain rfl | rfl : k = 2 ∨ k = 3 := by omega
    · decide +kernel
    · decide +kernel

/-- What OBS offers no more is signalled. -/
def Signals (s : State) : Event → Prop
  | .sourcesChanged sources signalled => signalled = false → s.sources.rows ⊆ sources.rows
  | _ => True

/-- When no call is queued, OBS offers every row. -/
def Settled (s : State) : Prop :=
  s.connected = true → s.queued = 0 → s.videoSourceComboBox.items ⊆ s.sources.rows

section Offered

variable {s t : State} {e : Event}

theorem settled_of_listed (hListed : Listed s t) : Settled t := by
  intro _ _
  rw [hListed.items, hListed.sources]
  exact List.Subset.refl _

theorem step_settled (h : Settled s) (hSignals : Signals s e) (hStep : step s e = some t) :
    Settled t := by
  cases e with
  | setCurrentIndex index =>
    obtain ⟨-, ⟨⟩⟩ := Option.ite_none_left_eq_some.mp hStep
    unfold State.setCurrentIndex
    simp only
    split <;> exact h
  | visibilityChanged | settingsButtonClick =>
    obtain ⟨-, ⟨⟩⟩ := Option.ite_none_left_eq_some.mp hStep
    exact h
  | setProperty | videoEncoderModified | accept | reject =>
    obtain ⟨-, ⟨⟩⟩ := Option.ite_none_right_eq_some.mp hStep
    exact h
  | sourcesChanged sources signalled =>
    obtain rfl := Option.some.inj hStep
    intro hConnected hQueued
    have hConnected : s.connected = true := hConnected
    simp only [hConnected, Bool.and_true] at hQueued
    split at hQueued
    · exact absurd hQueued (Nat.succ_ne_zero _)
    · next hUnsignalled =>
      have hOffered := hSignals (Bool.eq_false_iff.mpr hUnsignalled)
      exact List.Subset.trans (h hConnected hQueued) hOffered
  | updateSourceList =>
    obtain ⟨-, ⟨⟩⟩ := Option.ite_none_left_eq_some.mp hStep
    exact settled_of_listed (listed_updateSourceList s).queued
  | errorReported =>
    obtain ⟨-, ⟨⟩⟩ := Option.ite_none_right_eq_some.mp hStep
    exact settled_of_listed (listed_updateSourceList s)
  | reloadProperties | output =>
    obtain rfl := Option.some.inj hStep
    exact h
  | scriptingShutdown =>
    obtain rfl := Option.some.inj hStep
    exact fun hConnected => absurd hConnected Bool.false_ne_true

theorem settled_create (m : Machine) (hNames : NamesNoSource m.env) (output : Dialog)
    (sources : Sources) : Settled (create m hNames output sources) := by
  have hListed := listed_updateSourceList (withDialog m hNames output sources)
  intro _ _
  change (withDialog m hNames output sources).updateSourceList.videoSourceComboBox.items ⊆
    (withDialog m hNames output sources).updateSourceList.sources.rows
  rw [hListed.items, hListed.sources]
  exact List.Subset.refl _

end Offered

/-- Whenever no call is queued and the signals of OBS are connected, OBS offers the source of the
output, or the output has none or the program. -/
theorem source_offered (x : Execution step) (hStart : Started (x.state 0))
    (hSignals : ∀ n e, x.event n = some e → Signals (x.state n) e)
    (hKept : ∀ n, x.event n = some .accept → ¬DroppedUnderDialog x n) (n : Nat)
    (hConnected : (x.state n).connected = true) (hQueued : (x.state n).queued = 0) :
    (x.state n).sourceUuid ∈ (x.state n).sources.rows := by
  have hSettled : Settled (x.state n) := by
    refine x.invariant hSignals ?_ (fun _ _ _ => step_settled) n
    obtain ⟨m, hNames, output, sources, hCreated⟩ := hStart
    exact hCreated ▸ settled_create m hNames output sources
  have hShown := ComboBox.mem_of_currentData (shows_of_notDropped hStart hKept n)
  exact hSettled hConnected hQueued hShown

/-- The camera is unplugged, and the list is filled again. -/
def unplugged : List Event := [.sourcesChanged {} true, .updateSourceList]

def unpluggedListRun : Execution step := .ofRun step cameraWidget unplugged (by decide +kernel)

theorem source_offered_unplugged :
    (unpluggedListRun.state 0).sourceUuid = "camera" ∧
      (unpluggedListRun.state 2).sourceUuid ∈ (unpluggedListRun.state 2).sources.rows := by
  refine ⟨by decide +kernel, ?_⟩
  apply source_offered unpluggedListRun ⟨_, _, _, _, rfl⟩ _ _ 2 (by decide +kernel)
  · decide +kernel
  · intro n e hEvent
    match n with
    | 0 => exact Option.some.inj hEvent ▸ fun hUnsignalled => by cases hUnsignalled
    | 1 => exact Option.some.inj hEvent ▸ trivial
    | n + 2 => cases hEvent
  · intro n hEvent
    match n with
    | 0 | 1 => cases hEvent
    | n + 2 => cases hEvent

end SrcLink.EgressLinkConnectionWidget
