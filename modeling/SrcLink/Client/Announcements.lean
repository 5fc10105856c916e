import SrcLink.Client.CacheMaps

/-! # When a changed list is announced

Messages for one list change it one document at a time, and those of a batch are
flagged as continuous: the client keeps silent until the batch is over. What the
rest of the plugin knows is the list that the newest ready signal carried. It is
the current one after a batch, unless the message that ends the batch is dropped.
-/

namespace SrcLink.ApiClient

open Json Schema.WebSocketMessage StepSystem

set_option autoImplicit false

def Kind.items (k : Kind) (s : State) : QJsonArray := k.collection.items s.resources

def Kind.announcement : Kind → Signal → Option QJsonArray
  | .uplinkConnections, .uplinkReady uplink => some (Schema.UplinkInfo.getConnections uplink)
  | .stages, .stagesReady items => some items
  | .participants, .participantsReady items => some items
  | .wsPortals, .wsPortalsReady items => some items
  | _, _ => none

/-- The list announced last; nothing is known of a list that never was. -/
def Kind.announced (k : Kind) (s : State) : QJsonArray :=
  (s.signals.findSome? k.announcement).getD []

theorem announcement_ready (k : Kind) (r : Resources) :
    k.announcement (k.collection.ready r) = some (k.collection.items r) := by
  cases k <;> rfl

def IsMessageFor (k : Kind) (m : QJsonObject) : Prop :=
  getName m = k.name ∧ (IsChange m ∨ IsRemoval m)

instance (k : Kind) (m : QJsonObject) : Decidable (IsMessageFor k m) :=
  inferInstanceAs (Decidable (_ ∧ _))

/-- The document of a change is valid, and that of a removal is there. -/
def Accepts (k : Kind) (s : State) (m : QJsonObject) : Prop :=
  IsChange m ∧ k.collection.isValid (getPayload m) ∨
    IsRemoval m ∧ k.collection.contains (getId m) s.resources

instance (k : Kind) (s : State) (m : QJsonObject) : Decidable (Accepts k s m) :=
  inferInstanceAs (Decidable (_ ∨ _))

/-- An accepted message writes the list, and announces it unless the signals are blocked. -/
def announce (k : Kind) (s : State) (m : QJsonObject) (items : QJsonArray) : State :=
  let r := k.collection.store s.resources items
  { s with
    resources := r
    signals := if getContinuous m then s.signals else k.collection.ready r :: s.signals
    signalsBlocked := false }

theorem announced_announce (k : Kind) (s : State) (m : QJsonObject) (items : QJsonArray) :
    k.announced (announce k s m items) = if getContinuous m then k.announced s else items := by
  unfold Kind.announced announce
  split
  · rfl
  · rw [List.findSome?_cons, announcement_ready, items_store]
    rfl

theorem blocking_emit (s : State) (block : Bool) (r : Resources) (signal : Signal) :
    { emit { s with signalsBlocked := block, resources := r } signal with
        signalsBlocked := false } =
      { s with
        resources := r
        signals := if block then s.signals else signal :: s.signals
        signalsBlocked := false } := by
  cases block <;> rfl

theorem changeMessage_eq {k : Kind} {m : QJsonObject} (hName : getName m = k.name)
    (hChange : IsChange m) (s : State) :
    onTextMessageReceived s m =
      blockingSignals s (getContinuous m) fun s =>
        collectionChanged k.collection s (getId m) (getPayload m) := by
  have hBody : onWebSocketDataChanged s m =
      blockingSignals s (getContinuous m) fun s =>
        collectionChanged k.collection s (getId m) (getPayload m) := by
    rw [onWebSocketDataChanged, hName]
    cases k <;> rfl
  rcases hChange with hEvent | hEvent <;> simp only [onTextMessageReceived, hEvent] <;> exact hBody

/-- An accepted message is announced or kept for later, and any other one changes nothing. -/
theorem message_cases {k : Kind} {m : QJsonObject} (hFor : IsMessageFor k m) (s : State) :
    (Accepts k s m ∧ ∃ items, onTextMessageReceived s m = announce k s m items) ∨
      ¬Accepts k s m ∧ onTextMessageReceived s m = { s with signalsBlocked := false } := by
  obtain ⟨hName, hChange | hRemoval⟩ := hFor
  · rw [changeMessage_eq hName hChange]
    simp only [blockingSignals, collectionChanged]
    by_cases hValid : k.collection.isValid (getPayload m) = true
    · simp only [hValid, Bool.not_true, Bool.false_eq_true, if_false]
      exact .inl ⟨.inl ⟨hChange, hValid⟩, _, blocking_emit s _ _ _⟩
    · simp only [hValid, Bool.not_false, if_true]
      refine .inr ⟨?_, trivial⟩
      rintro (⟨-, hValid'⟩ | ⟨hRemoval, -⟩)
      · exact hValid hValid'
      · exact hChange.not_removal hRemoval
  · rw [removalMessage_eq hName hRemoval]
    simp only [blockingSignals, collectionRemoved]
    by_cases hContains : k.collection.contains (getId m) s.resources = true
    · simp only [hContains, if_true]
      exact .inl ⟨.inr ⟨hRemoval, hContains⟩, _, blocking_emit s _ _ _⟩
    · simp only [hContains, Bool.false_eq_true, if_false]
      refine .inr ⟨?_, trivial⟩
      rintro (⟨hChange, -⟩ | ⟨-, hContains'⟩)
      · exact hChange.not_removal hRemoval
      · exact hContains hContains'

/-- The client beside the list as the last accepted message outside of a batch left it. -/
structure Feed where
  client : State
  known : QJsonArray

/-- Before the first message, what was announced before. -/
def Feed.start (k : Kind) (s : State) : Feed := { client := s, known := k.announced s }

def feedStep (k : Kind) (f : Feed) (m : QJsonObject) : Option Feed :=
  if IsMessageFor k m then
    let client := onTextMessageReceived f.client m
    some {
      client := client
      known := if getContinuous m = false ∧ Accepts k f.client m then k.items client else f.known }
  else none

section Runs

variable {k : Kind}

theorem announced_step {f f' : Feed} {m : QJsonObject} (hStep : feedStep k f m = some f')
    (hKnown : k.announced f.client = f.known) : k.announced f'.client = f'.known := by
  unfold feedStep at hStep
  split at hStep
  · next hFor =>
    obtain rfl := Option.some.inj hStep
    rcases message_cases hFor f.client with ⟨hAccepts, items, hEq⟩ | ⟨hDropped, hEq⟩
    · simp only [hEq, announced_announce, hAccepts, and_true]
      cases hContinuous : getContinuous m with
      | true => exact hKnown
      | false => exact (items_store k f.client.resources items).symm
    · simp only [hEq, hDropped, and_false, if_false]
      exact hKnown
  · cases hStep

theorem announced_eq_known {s : State} (x : Execution (feedStep k))
    (hStart : x.state 0 = .start k s) (n : Nat) :
    k.announced (x.state n).client = (x.state n).known :=
  x.always (fun f => k.announced f.client = f.known) (by rw [hStart]; rfl)
    (fun _ _ _ hKnown hStep => announced_step hStep hKnown) n

/-- The message that ends a batch is accepted, or the batch has changed nothing. -/
def EndsBatch (k : Kind) (f : Feed) (m : QJsonObject) : Prop :=
  getContinuous m = false → Accepts k f.client m ∨ k.items f.client = f.known

theorem announced_items_iff {f f' : Feed} {m : QJsonObject} (hStep : feedStep k f m = some f')
    (hKnown : k.announced f.client = f.known) (hFinal : getContinuous m = false) :
    k.announced f'.client = k.items f'.client ↔
      Accepts k f.client m ∨ k.items f.client = f.known := by
  rw [announced_step hStep hKnown]
  unfold feedStep at hStep
  split at hStep
  · next hFor =>
    obtain rfl := Option.some.inj hStep
    rcases message_cases hFor f.client with ⟨hAccepts, -⟩ | ⟨hDropped, hEq⟩
    · simp only [hFinal, hAccepts, and_self, if_true, true_or]
    · simp only [hEq, hDropped, and_false, if_false, false_or]
      exact eq_comm
  · cases hStep

/-- Whenever a batch is over, the announced list is the current one exactly when no dropped
message ends a batch that has changed the list. -/
theorem batchesAnnounced_iff {s : State} (x : Execution (feedStep k))
    (hStart : x.state 0 = .start k s) :
    (∀ n m, x.event n = some m → getContinuous m = false →
        k.announced (x.state (n + 1)).client = k.items (x.state (n + 1)).client) ↔
      ∀ n m, x.event n = some m → EndsBatch k (x.state n) m := by
  refine forall₃_congr fun n m hEvent => forall_congr' fun hFinal => ?_
  exact announced_items_iff (x.next_of_event hEvent) (announced_eq_known x hStart n) hFinal

end Runs

/-- A batch of two stages, of which the second one ends it. -/
def keptBatch : List QJsonObject :=
  [("continuous", .bool true) :: dataMessage "added" "stages" "a" (stageDocument "a"),
    dataMessage "added" "stages" "b" (stageDocument "b")]

def keptBatchRun : Execution (feedStep .stages) :=
  .ofRun (feedStep .stages) (.start .stages freshClient) keptBatch rfl

theorem batchesAnnounced_iff_keptBatch :
    (Kind.items .stages (keptBatchRun.state 2).client).length = 2 ∧
      ∀ n m, keptBatchRun.event n = some m → getContinuous m = false →
        Kind.announced .stages (keptBatchRun.state (n + 1)).client =
          Kind.items .stages (keptBatchRun.state (n + 1)).client := by
  refine ⟨rfl, (batchesAnnounced_iff keptBatchRun (s := freshClient) rfl).mpr ?_⟩
  rintro (_ | _ | n) m hEvent
  · obtain rfl := Option.some.inj hEvent
    exact fun hFinal => by cases hFinal
  · obtain rfl := Option.some.inj hEvent
    exact fun _ => .inl (.inl ⟨.inl rfl, rfl⟩)
  · cases hEvent

/-- A batch of one stage that ends with the removal of another, which is not known. -/
def lostBatch : List QJsonObject :=
  [("continuous", .bool true) :: dataMessage "added" "stages" "a" (stageDocument "a"),
    dataMessage "removed" "stages" "b" []]

def lostBatchRun : Execution (feedStep .stages) :=
  .ofRun (feedStep .stages) (.start .stages freshClient) lostBatch rfl

theorem lostBatch_not_announced :
    ¬∀ (k : Kind) (s : State) (x : Execution (feedStep k)), x.state 0 = .start k s →
      ∀ n m, x.event n = some m → getContinuous m = false →
        k.announced (x.state (n + 1)).client = k.items (x.state (n + 1)).client := by
  intro hAll
  have hAnnounced := hAll .stages freshClient lostBatchRun rfl 1 _ rfl rfl
  exact absurd (congrArg List.length hAnnounced) (by decide)

end SrcLink.ApiClient
