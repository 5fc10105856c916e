import SrcLink.Document.Schema
import SrcLink.Library.Reconcile
import SrcLink.Library.StepSystem

/-! # The widgets of the dock

The dock shows one widget for each source of the stage, and each widget owns an output.
A widget is a pointer here, with the stored source of each pointer beside them, so that the
same widget can be told from one with the same source.
-/

namespace SrcLink.EgressLinkDock

open Json Json.TypedJsonArray Schema Schema.StageSource KeyedArray Reconcile StepSystem

set_option autoImplicit false

structure Dock where
  connectionWidgets : List ℕ
  source : ℕ → QJsonObject
  nextWidget : ℕ
  deleted : List ℕ
  allocated : ∀ widget ∈ connectionWidgets, widget < nextWidget
  nodup : connectionWidgets.Nodup

namespace Dock

def created : Dock where
  connectionWidgets := []
  source := fun _ => []
  nextWidget := 0
  deleted := []
  allocated := fun _ hMem => absurd hMem List.not_mem_nil
  nodup := .nil

def nameOf (d : Dock) (widget : ℕ) : String := getName (d.source widget)

def names (d : Dock) : List String := d.connectionWidgets.map d.nameOf

/-- A widget's own function; it deletes nothing and creates nothing. -/
def setSource (d : Dock) (widget : ℕ) (source : QJsonObject) : Dock :=
  { d with source := Function.update d.source widget source }

def removeWidget (d : Dock) (widget : ℕ) : Dock where
  connectionWidgets := d.connectionWidgets.erase widget
  source := d.source
  nextWidget := d.nextWidget
  deleted := d.deleted ++ [widget]
  allocated := fun w hMem => d.allocated w (List.mem_of_mem_erase hMem)
  nodup := d.nodup.erase widget

/-- The constructor of the widget calls `setSource`. -/
def appendWidget (d : Dock) (source : QJsonObject) : Dock where
  connectionWidgets := d.connectionWidgets ++ [d.nextWidget]
  source := (d.setSource d.nextWidget source).source
  nextWidget := d.nextWidget + 1
  deleted := d.deleted
  allocated := by
    intro w hMem
    rcases List.mem_append.mp hMem with hOld | hNew
    · exact Nat.lt_succ_of_lt (d.allocated w hOld)
    · exact (List.mem_singleton.mp hNew).symm ▸ d.nextWidget.lt_succ_self
  nodup := by
    apply d.nodup.append (List.nodup_singleton _)
    exact List.disjoint_singleton.mpr fun hMem => (d.allocated _ hMem).false

/-- Whether the stage still has the source of a widget. -/
def found (d : Dock) (stage : QJsonObject) (widget : ℕ) : Bool :=
  (values (Stage.getSources stage)).any fun source => d.nameOf widget = getName source

def newcomer (d : Dock) (source : QJsonObject) : Bool :=
  !d.connectionWidgets.any fun widget => d.nameOf widget = getName source

def dropUnlessFound (stage : QJsonObject) (d : Dock) (widget : ℕ) : Dock :=
  if d.found stage widget then d else d.removeWidget widget

def addIfNewcomer (d : Dock) (source : QJsonObject) : Dock :=
  if d.newcomer source then d.appendWidget source else d

/-- Qt's `foreach` runs over a copy of the list. -/
def dropWidgets (d : Dock) (stage : QJsonObject) : Dock :=
  d.connectionWidgets.foldl (dropUnlessFound stage) d

def addNewcomers (d : Dock) (stage : QJsonObject) : Dock :=
  (values (Stage.getSources stage)).foldl addIfNewcomer d

def updateConnections (d : Dock) (stage : QJsonObject) : Dock :=
  (d.dropWidgets stage).addNewcomers stage

def onUplinkReady (d : Dock) (uplink : QJsonObject) : Dock :=
  d.updateConnections (UplinkInfo.getStage uplink)

def onUplinkFailed (d : Dock) : Dock where
  connectionWidgets := []
  source := d.source
  nextWidget := d.nextWidget
  deleted := d.deleted ++ d.connectionWidgets
  allocated := fun _ hMem => absurd hMem List.not_mem_nil
  nodup := .nil

def clearConnections (d : Dock) : Dock := d.connectionWidgets.foldl removeWidget d

theorem foldl_eq_self {α : Type} (f : Dock → α → Dock) {d : Dock} {items : List α}
    (h : ∀ item ∈ items, f d item = d) : items.foldl f d = d := by
  induction items with
  | nil => rfl
  | cons item items ih =>
    rw [List.foldl_cons, h item List.mem_cons_self]
    exact ih fun other hOther => h other (List.mem_cons_of_mem _ hOther)

section Dropping

variable (stage : QJsonObject)

theorem source_dropUnlessFound (d : Dock) (widget : ℕ) :
    (dropUnlessFound stage d widget).source = d.source := by
  rw [dropUnlessFound]
  split <;> rfl

theorem connectionWidgets_dropUnlessFound (d : Dock) (widget : ℕ) :
    (dropUnlessFound stage d widget).connectionWidgets =
      if d.found stage widget then d.connectionWidgets else d.connectionWidgets.erase widget := by
  rw [dropUnlessFound]
  split <;> rfl

theorem deleted_dropUnlessFound (d : Dock) (widget : ℕ) :
    (dropUnlessFound stage d widget).deleted =
      d.deleted ++ [widget].filter fun w => !d.found stage w := by
  rw [dropUnlessFound]
  split
  · next hFound => simp [hFound]
  · next hGone => simp [hGone, removeWidget]

theorem found_eq_of_source {d d' : Dock} (h : d'.source = d.source) :
    d'.found stage = d.found stage := by
  funext widget
  have hName : d'.nameOf widget = d.nameOf widget := congrArg getName (congrFun h widget)
  rw [found, found, hName]

structure Drops (d d' : Dock) (copy : List ℕ) : Prop where
  source : d'.source = d.source
  nextWidget : d'.nextWidget = d.nextWidget
  connectionWidgets : d'.connectionWidgets =
    copy.foldl (fun ws w => if d.found stage w then ws else ws.erase w) d.connectionWidgets
  deleted : d'.deleted = d.deleted ++ copy.filter fun w => !d.found stage w

theorem drops_foldl (copy : List ℕ) (d : Dock) :
    Drops stage d (copy.foldl (dropUnlessFound stage) d) copy := by
  induction copy generalizing d with
  | nil => exact ⟨rfl, rfl, rfl, (List.append_nil _).symm⟩
  | cons w copy ih =>
    obtain ⟨hSource, hNext, hWidgets, hDeleted⟩ := ih (dropUnlessFound stage d w)
    have hFirst := source_dropUnlessFound stage d w
    rw [found_eq_of_source stage hFirst, connectionWidgets_dropUnlessFound] at hWidgets
    rw [found_eq_of_source stage hFirst, deleted_dropUnlessFound, List.append_assoc,
      ← List.filter_append] at hDeleted
    have hFirstNext : (dropUnlessFound stage d w).nextWidget = d.nextWidget := by
      rw [dropUnlessFound]
      split <;> rfl
    exact ⟨hSource.trans hFirst, hNext.trans hFirstNext, hWidgets, hDeleted⟩

theorem drops_dropWidgets (d : Dock) : Drops stage d (d.dropWidgets stage) d.connectionWidgets :=
  drops_foldl stage d.connectionWidgets d

theorem connectionWidgets_dropWidgets (d : Dock) :
    (d.dropWidgets stage).connectionWidgets = d.connectionWidgets.filter (d.found stage) :=
  (drops_dropWidgets stage d).connectionWidgets.trans (foldl_erase_self (d.found stage) d.nodup)

theorem nameOf_dropWidgets (d : Dock) : (d.dropWidgets stage).nameOf = d.nameOf := by
  funext widget
  exact congrArg getName (congrFun (drops_dropWidgets stage d).source widget)

theorem names_dropWidgets (d : Dock) :
    (d.dropWidgets stage).names = (d.connectionWidgets.filter (d.found stage)).map d.nameOf := by
  rw [names, nameOf_dropWidgets, connectionWidgets_dropWidgets]

end Dropping

structure Grows (d d' : Dock) (added : List ℕ) : Prop where
  connectionWidgets : d'.connectionWidgets = d.connectionWidgets ++ added
  source : ∀ widget < d.nextWidget, d'.source widget = d.source widget
  nextWidget : d.nextWidget ≤ d'.nextWidget
  fresh : ∀ widget ∈ added, d.nextWidget ≤ widget
  deleted : d'.deleted = d.deleted

theorem Grows.refl (d : Dock) : Grows d d [] where
  connectionWidgets := (List.append_nil _).symm
  source := fun _ _ => rfl
  nextWidget := le_rfl
  fresh := fun _ hMem => absurd hMem List.not_mem_nil
  deleted := rfl

theorem Grows.trans {d d' d'' : Dock} {added added' : List ℕ} (h : Grows d d' added)
    (h' : Grows d' d'' added') : Grows d d'' (added ++ added') where
  connectionWidgets := by
    rw [h'.connectionWidgets, h.connectionWidgets, List.append_assoc]
  source := fun widget hLt =>
    (h'.source widget (hLt.trans_le h.nextWidget)).trans (h.source widget hLt)
  nextWidget := h.nextWidget.trans h'.nextWidget
  fresh := by
    intro widget hMem
    rcases List.mem_append.mp hMem with hOld | hNew
    · exact h.fresh widget hOld
    · exact h.nextWidget.trans (h'.fresh widget hNew)
  deleted := h'.deleted.trans h.deleted

theorem Grows.source_of_mem {d d' : Dock} {added : List ℕ} (h : Grows d d' added) {widget : ℕ}
    (hMem : widget ∈ d.connectionWidgets) : d'.source widget = d.source widget :=
  h.source widget (d.allocated widget hMem)

theorem Grows.names {d d' : Dock} {added : List ℕ} (h : Grows d d' added) :
    d'.names = d.names ++ (added.map d'.source).map getName := by
  rw [Dock.names, h.connectionWidgets, List.map_append, List.map_map]
  congr 1
  apply List.map_congr_left
  intro widget hMem
  exact congrArg getName (h.source_of_mem hMem)

theorem grows_appendWidget (d : Dock) (source : QJsonObject) :
    Grows d (d.appendWidget source) [d.nextWidget] where
  connectionWidgets := rfl
  source := fun _ hLt => Function.update_of_ne hLt.ne _ _
  nextWidget := d.nextWidget.le_succ
  fresh := fun _ hMem => (List.mem_singleton.mp hMem).ge
  deleted := rfl

theorem source_appendWidget (d : Dock) (source : QJsonObject) :
    (d.appendWidget source).source d.nextWidget = source :=
  Function.update_self ..

theorem newcomer_iff (d : Dock) (source : QJsonObject) :
    d.newcomer source = true ↔ getName source ∉ d.names := by
  simp [newcomer, names]

theorem exists_grows_foldl (items : List QJsonObject) (d : Dock) :
    ∃ added, Grows d (items.foldl addIfNewcomer d) added ∧
      added.map (items.foldl addIfNewcomer d).source = freshItems getName d.names items := by
  induction items generalizing d with
  | nil => exact ⟨[], .refl d, rfl⟩
  | cons item items ih =>
    rw [List.foldl_cons, freshItems]
    split
    · next hPresent =>
      have hOld : addIfNewcomer d item = d :=
        if_neg fun hNew => (newcomer_iff d item).mp hNew hPresent
      rw [hOld]
      exact ih d
    · next hAbsent =>
      have hNew : addIfNewcomer d item = d.appendWidget item :=
        if_pos ((newcomer_iff d item).mpr hAbsent)
      have hFirst := grows_appendWidget d item
      have hNames : (d.appendWidget item).names = d.names ++ [getName item] := by
        rw [hFirst.names, List.map_singleton, source_appendWidget, List.map_singleton]
      obtain ⟨added, hGrows, hSources⟩ := ih (d.appendWidget item)
      rw [hNew]
      refine ⟨d.nextWidget :: added, hFirst.trans hGrows, ?_⟩
      rw [List.map_cons, hSources, hNames, hGrows.source _ d.nextWidget.lt_succ_self,
        source_appendWidget]

def stageNames (stage : QJsonObject) : List String :=
  (values (Stage.getSources stage)).map getName

theorem found_eq (d : Dock) (stage : QJsonObject) :
    d.found stage = fun widget => decide (d.nameOf widget ∈ stageNames stage) := by
  funext widget
  rw [Bool.eq_iff_iff, decide_eq_true_eq, found, List.any_eq_true, stageNames, List.mem_map]
  simp only [decide_eq_true_eq]
  exact exists_congr fun _ => and_congr_right fun _ => eq_comm

structure Reconciles (before after : Dock) (stage : QJsonObject) (added : List ℕ) : Prop where
  unique : ∀ name ∈ stageNames stage,
    ∃! widget, widget ∈ after.connectionWidgets ∧ after.nameOf widget = name
  wanted : ∀ widget ∈ after.connectionWidgets, after.nameOf widget ∈ stageNames stage
  connectionWidgets : after.connectionWidgets =
    before.connectionWidgets.filter (fun widget => before.nameOf widget ∈ stageNames stage) ++
      added
  source : ∀ widget ∈ before.connectionWidgets, after.source widget = before.source widget
  deleted : after.deleted = before.deleted ++
    before.connectionWidgets.filter fun widget => before.nameOf widget ∉ stageNames stage
  fresh : ∀ widget ∈ added, before.nextWidget ≤ widget
  ordered : (added.map after.source).Sublist (values (Stage.getSources stage))
  first : ∀ widget ∈ added,
    toMap getName (values (Stage.getSources stage)) (after.nameOf widget) =
      some (after.source widget)

section Updating

variable (d : Dock) (stage : QJsonObject)

theorem exists_grows_updateConnections :
    ∃ added, Grows (d.dropWidgets stage) (d.updateConnections stage) added ∧
      added.map (d.updateConnections stage).source =
        freshItems getName (d.dropWidgets stage).names (values (Stage.getSources stage)) :=
  exists_grows_foldl (values (Stage.getSources stage)) (d.dropWidgets stage)

theorem source_updateConnections {widget : ℕ} (hMem : widget ∈ d.connectionWidgets) :
    (d.updateConnections stage).source widget = d.source widget := by
  obtain ⟨added, hGrows, -⟩ := exists_grows_updateConnections d stage
  have hDrops := drops_dropWidgets stage d
  have hLt : widget < (d.dropWidgets stage).nextWidget :=
    hDrops.nextWidget ▸ d.allocated widget hMem
  exact (hGrows.source widget hLt).trans (congrFun hDrops.source widget)

theorem names_updateConnections :
    (d.updateConnections stage).names = (d.dropWidgets stage).names ++
      (freshItems getName (d.dropWidgets stage).names (values (Stage.getSources stage))).map
        getName := by
  obtain ⟨added, hGrows, hSources⟩ := exists_grows_updateConnections d stage
  rw [hGrows.names, hSources]

theorem mem_names_updateConnections (name : String) :
    name ∈ (d.updateConnections stage).names ↔ name ∈ stageNames stage := by
  have hRetained : name ∈ (d.dropWidgets stage).names → name ∈ stageNames stage := by
    intro hMem
    rw [names_dropWidgets, found_eq] at hMem
    obtain ⟨widget, hWidget, rfl⟩ := List.mem_map.mp hMem
    exact of_decide_eq_true (List.mem_filter.mp hWidget).2
  rw [names_updateConnections, List.mem_append, mem_map_freshItems]
  constructor
  · rintro (hOld | ⟨-, hNew⟩)
    · exact hRetained hOld
    · exact hNew
  · intro hMem
    by_cases hOld : name ∈ (d.dropWidgets stage).names
    · exact .inl hOld
    · exact .inr ⟨hOld, hMem⟩

variable {d} in
theorem nodup_names_updateConnections (hDistinct : d.names.Nodup) :
    (d.updateConnections stage).names.Nodup := by
  rw [names_updateConnections]
  apply nodup_freshItems
  rw [names_dropWidgets]
  exact hDistinct.sublist (List.filter_sublist.map d.nameOf)

theorem first_of_grows {added : List ℕ} {widget : ℕ} {present : List String}
    {items : List QJsonObject} {d : Dock}
    (hSources : added.map d.source = freshItems getName present items)
    (hMem : widget ∈ added) : toMap getName items (d.nameOf widget) = some (d.source widget) :=
  toMap_of_mem_freshItems getName (hSources ▸ List.mem_map_of_mem hMem)

variable {d} in
theorem exists_reconciles (hDistinct : d.names.Nodup) :
    ∃ added, Reconciles d (d.updateConnections stage) stage added := by
  obtain ⟨added, hGrows, hSources⟩ := exists_grows_updateConnections d stage
  have hDrops := drops_dropWidgets stage d
  have hMemNames := mem_names_updateConnections d stage
  have hNodup := nodup_names_updateConnections stage hDistinct
  refine ⟨added, ?_, ?_, ?_, fun widget => source_updateConnections d stage, ?_, ?_, ?_, ?_⟩
  · intro name hName
    obtain ⟨widget, hWidget, rfl⟩ := List.mem_map.mp ((hMemNames name).mpr hName)
    refine ⟨widget, ⟨hWidget, rfl⟩, ?_⟩
    rintro other ⟨hOther, hSame⟩
    exact List.inj_on_of_nodup_map hNodup hOther hWidget hSame
  · intro widget hWidget
    exact (hMemNames _).mp (List.mem_map_of_mem hWidget)
  · rw [hGrows.connectionWidgets, connectionWidgets_dropWidgets, found_eq]
  · rw [hGrows.deleted, hDrops.deleted, found_eq]
    simp
  · intro widget hMem
    exact hDrops.nextWidget ▸ hGrows.fresh widget hMem
  · rw [hSources]
    exact freshItems_sublist ..
  · intro widget hMem
    exact first_of_grows hSources hMem

variable {d stage} in
theorem updateConnections_eq_self (hSame : ∀ name, name ∈ d.names ↔ name ∈ stageNames stage) :
    d.updateConnections stage = d := by
  have hDropped : d.dropWidgets stage = d := by
    rw [dropWidgets]
    apply foldl_eq_self
    intro widget hMem
    apply if_pos
    rw [found_eq, decide_eq_true_eq]
    exact (hSame _).mp (List.mem_map_of_mem hMem)
  rw [updateConnections, hDropped, addNewcomers]
  apply foldl_eq_self
  intro source hMem
  apply if_neg
  rw [newcomer_iff, not_not]
  exact (hSame _).mpr (List.mem_map_of_mem hMem)

end Updating

theorem updateConnections_spec {d : Dock} (stage : QJsonObject) (hDistinct : d.names.Nodup) :
    (∃ added, Reconciles d (d.updateConnections stage) stage added) ∧
      (d.updateConnections stage).updateConnections stage = d.updateConnections stage :=
  ⟨exists_reconciles stage hDistinct,
    updateConnections_eq_self (mem_names_updateConnections d stage)⟩

def stageOf (names : List String) : QJsonObject :=
  [("sources", .array (names.map fun name => .object [("name", .string name)]))]

def firstShown : Dock := created.updateConnections (stageOf ["c", "a"])

theorem updateConnections_spec_reordered :
    (∃ added, Reconciles firstShown (firstShown.updateConnections (stageOf ["b", "a", "b"]))
      (stageOf ["b", "a", "b"]) added) ∧
    (firstShown.updateConnections (stageOf ["b", "a", "b"])).updateConnections
      (stageOf ["b", "a", "b"]) = firstShown.updateConnections (stageOf ["b", "a", "b"]) :=
  updateConnections_spec (stageOf ["b", "a", "b"]) (by decide +kernel)

/-- What a widget takes from its source. -/
def SameSource (source source' : QJsonObject) : Prop :=
  getName source = getName source' ∧ getDisplayName source = getDisplayName source' ∧
    getDescription source = getDescription source'

theorem SameSource.symm {source source' : QJsonObject} (h : SameSource source source') :
    SameSource source' source :=
  ⟨h.1.symm, h.2.1.symm, h.2.2.symm⟩

theorem SameSource.trans {a b c : QJsonObject} (h : SameSource a b) (h' : SameSource b c) :
    SameSource a c :=
  ⟨h.1.trans h'.1, h.2.1.trans h'.2.1, h.2.2.trans h'.2.2⟩

def firstSource (stage : QJsonObject) (name : String) : Option QJsonObject :=
  toMap getName (values (Stage.getSources stage)) name

theorem mem_stageNames_iff (stage : QJsonObject) (name : String) :
    name ∈ stageNames stage ↔ ∃ source, firstSource stage name = some source := by
  rw [← Option.ne_none_iff_exists', firstSource, ne_eq, toMap_eq_none_iff, not_not]
  rfl

def Shows (d : Dock) (stage : QJsonObject) : Prop :=
  ∀ widget ∈ d.connectionWidgets,
    ∃ source, firstSource stage (d.nameOf widget) = some source ∧
      SameSource (d.source widget) source

/-- What the stages say about a name that both have. -/
def Agree (stage stage' : QJsonObject) : Prop :=
  ∀ name source source', firstSource stage name = some source →
    firstSource stage' name = some source' → SameSource source source'

theorem shows_updateConnections_iff (d : Dock) (stage : QJsonObject) :
    (d.updateConnections stage).Shows stage ↔
      ∀ widget ∈ d.connectionWidgets, ∀ source,
        firstSource stage (d.nameOf widget) = some source →
          SameSource (d.source widget) source := by
  obtain ⟨added, hGrows, hSources⟩ := exists_grows_updateConnections d stage
  have hOld : ∀ widget ∈ d.connectionWidgets,
      (d.updateConnections stage).source widget = d.source widget :=
    fun widget => source_updateConnections d stage
  have hWidgets := hGrows.connectionWidgets
  rw [connectionWidgets_dropWidgets, found_eq] at hWidgets
  constructor
  · intro hShows widget hMem source hFirst
    have hStays : widget ∈ (d.updateConnections stage).connectionWidgets := by
      rw [hWidgets]
      apply List.mem_append_left
      apply List.mem_filter.mpr
      exact ⟨hMem, decide_eq_true ((mem_stageNames_iff stage _).mpr ⟨source, hFirst⟩)⟩
    obtain ⟨source', hFirst', hSame⟩ := hShows widget hStays
    rw [nameOf, hOld widget hMem] at hFirst'
    obtain rfl := Option.some.inj (hFirst.symm.trans hFirst')
    exact hOld widget hMem ▸ hSame
  · intro hCurrent widget hMem
    rw [hWidgets] at hMem
    -- a widget that stays keeps its source, a new one has that of the stage
    rcases List.mem_append.mp hMem with hStays | hAdded
    · obtain ⟨hBefore, hFound⟩ := List.mem_filter.mp hStays
      obtain ⟨source, hFirst⟩ := (mem_stageNames_iff stage _).mp (of_decide_eq_true hFound)
      rw [nameOf, hOld widget hBefore]
      exact ⟨source, hFirst, hCurrent widget hBefore source hFirst⟩
    · exact ⟨_, first_of_grows hSources hAdded, rfl, rfl, rfl⟩

/-- Widgets that show one stage show the next one if the two agree, and only then. -/
theorem shows_next_iff {d : Dock} {stage : QJsonObject} (stage' : QJsonObject)
    (hNames : ∀ name, name ∈ d.names ↔ name ∈ stageNames stage) (hShows : d.Shows stage) :
    (d.updateConnections stage').Shows stage' ↔ Agree stage stage' := by
  rw [shows_updateConnections_iff]
  constructor
  · intro hCurrent name source source' hFirst hFirst'
    have hMem := (hNames name).mpr ((mem_stageNames_iff stage name).mpr ⟨source, hFirst⟩)
    obtain ⟨widget, hWidget, rfl⟩ := List.mem_map.mp hMem
    obtain ⟨shown, hShown, hSame⟩ := hShows widget hWidget
    obtain rfl := Option.some.inj (hFirst.symm.trans hShown)
    exact hSame.symm.trans (hCurrent widget hWidget source' hFirst')
  · intro hAgree widget hWidget source' hFirst'
    obtain ⟨source, hFirst, hSame⟩ := hShows widget hWidget
    exact hSame.trans (hAgree _ source source' hFirst hFirst')

theorem connectionWidgets_foldl_removeWidget (copy : List ℕ) (d : Dock) :
    (copy.foldl removeWidget d).connectionWidgets = copy.foldl List.erase d.connectionWidgets := by
  induction copy generalizing d with
  | nil => rfl
  | cons widget copy ih => exact ih (d.removeWidget widget)

theorem connectionWidgets_clearConnections (d : Dock) :
    d.clearConnections.connectionWidgets = [] := by
  have hErased := foldl_erase_self (fun _ => false) d.nodup
  rw [List.filter_false] at hErased
  exact (connectionWidgets_foldl_removeWidget _ d).trans hErased

end Dock

/-- The dock beside the stage of the current uplink. -/
structure Session where
  dock : Dock
  stage : QJsonObject

namespace Session

open Dock

inductive Event where
  | uplinkReady (uplink : QJsonObject)
  | uplinkFailed
  /-- the client has logged out -/
  | clientInactive

def step (s : Session) : Event → Option Session
  | .uplinkReady uplink => some ⟨s.dock.onUplinkReady uplink, UplinkInfo.getStage uplink⟩
  | .uplinkFailed => some ⟨s.dock.onUplinkFailed, []⟩
  | .clientInactive => some ⟨s.dock.clearConnections, []⟩

def created : Session := ⟨Dock.created, []⟩

def ShowsStage (s : Session) : Prop := s.dock.Shows s.stage

def KeepsData (s : Session) : Event → Prop
  | .uplinkReady uplink => Agree s.stage (UplinkInfo.getStage uplink)
  | _ => True

def HasWidgets (s : Session) : Prop :=
  ∀ name, name ∈ s.dock.names ↔ name ∈ stageNames s.stage

theorem hasWidgets_of_nil {s : Session} (hWidgets : s.dock.connectionWidgets = [])
    (hStage : s.stage = []) : s.HasWidgets := by
  intro name
  rw [Dock.names, hWidgets, hStage]
  rfl

theorem showsStage_of_nil {s : Session} (hWidgets : s.dock.connectionWidgets = []) :
    s.ShowsStage := by
  intro widget hMem
  rw [hWidgets] at hMem
  cases hMem

theorem step_hasWidgets {s s' : Session} {e : Event} (hStep : step s e = some s') :
    s'.HasWidgets := by
  cases e with
  | uplinkReady uplink =>
    obtain rfl := Option.some.inj hStep
    exact mem_names_updateConnections s.dock (UplinkInfo.getStage uplink)
  | uplinkFailed =>
    obtain rfl := Option.some.inj hStep
    exact hasWidgets_of_nil rfl rfl
  | clientInactive =>
    obtain rfl := Option.some.inj hStep
    exact hasWidgets_of_nil (connectionWidgets_clearConnections s.dock) rfl

theorem step_showsStage_iff {s s' : Session} {e : Event} (hWidgets : s.HasWidgets)
    (hShows : s.ShowsStage) (hStep : step s e = some s') : s'.ShowsStage ↔ s.KeepsData e := by
  cases e with
  | uplinkReady uplink =>
    obtain rfl := Option.some.inj hStep
    exact shows_next_iff (UplinkInfo.getStage uplink) hWidgets hShows
  | uplinkFailed =>
    obtain rfl := Option.some.inj hStep
    exact iff_of_true (showsStage_of_nil rfl) trivial
  | clientInactive =>
    obtain rfl := Option.some.inj hStep
    exact iff_of_true (showsStage_of_nil (connectionWidgets_clearConnections s.dock)) trivial

theorem showsStage_iff_keepsData (x : Execution step) (hCreated : x.state 0 = created) :
    (∀ n, (x.state n).ShowsStage) ↔ ∀ n e, x.event n = some e → (x.state n).KeepsData e := by
  have hStart : (x.state 0).ShowsStage := hCreated ▸ showsStage_of_nil rfl
  have hWidgets : ∀ n, (x.state n).HasWidgets :=
    x.always HasWidgets (hCreated ▸ hasWidgets_of_nil rfl rfl) fun _ _ _ _ => step_hasWidgets
  refine x.always_iff hStart fun n e hEvent hShows => ?_
  exact step_showsStage_iff (hWidgets n) hShows (x.next_of_event hEvent)

def uplinkNaming (displayName : String) : QJsonObject :=
  [("stage", .object [("sources", .array [.object
    [("name", .string "cam"), ("display_name", .string displayName)]])])]

def readyTwice (displayName displayName' : String) : List Event :=
  [.uplinkReady (uplinkNaming displayName), .uplinkReady (uplinkNaming displayName')]

def renamedRun (displayName displayName' : String) : Execution step :=
  Execution.ofRun step created (readyTwice displayName displayName') rfl

theorem renamed_not_shown :
    ¬∀ x : Execution step, x.state 0 = created → ∀ n, (x.state n).ShowsStage := by
  intro hAll
  let s := (renamedRun "A" "B").state 2
  have hMem : 0 ∈ s.dock.connectionWidgets := by decide +kernel
  obtain ⟨source, hFirst, hSame⟩ := hAll (renamedRun "A" "B") rfl 2 0 hMem
  have hStored : getDisplayName (s.dock.source 0) = "A" := by decide +kernel
  have hStage : (firstSource s.stage (s.dock.nameOf 0)).map getDisplayName = some "B" := by
    decide +kernel
  have hNow : getDisplayName source = "B" :=
    Option.some.inj ((congrArg (Option.map getDisplayName) hFirst).symm.trans hStage)
  have hEqual : "A" = "B" := hStored.symm.trans (hSame.2.1.trans hNow)
  exact absurd hEqual (by decide)

theorem showsStage_iff_keepsData_repeated :
    ((renamedRun "A" "A").state 2).dock.connectionWidgets = [0] ∧
      ((renamedRun "A" "A").state 2).ShowsStage := by
  refine ⟨by decide +kernel, (showsStage_iff_keepsData (renamedRun "A" "A") rfl).mpr ?_ 2⟩
  rintro (_ | _ | n) e hEvent
  · obtain rfl := Option.some.inj hEvent
    exact fun _ _ _ hFirst => absurd hFirst (Option.some_ne_none _).symm
  · obtain rfl := Option.some.inj hEvent
    intro name source source' hFirst hFirst'
    obtain rfl := Option.some.inj (hFirst.symm.trans hFirst')
    exact ⟨rfl, rfl, rfl⟩
  · cases hEvent

end Session

end SrcLink.EgressLinkDock
