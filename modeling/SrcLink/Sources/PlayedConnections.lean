import SrcLink.Client.ConnectionNotices
import SrcLink.Sources.IngressLinkSource

/-! # The sources and the cached connections

The ingress sources share the API client: they ask it for their downlinks and hear of them by
its signals. A source plays the connection that the client has cached for it, unless a document
is stored under another id than its own or a played connection is changed or removed by a
message that is not announced. What the lambdas of a source do after its destruction is left
out.
-/

namespace SrcLink.PlayedConnections

open Json Schema StepSystem ApiClient IngressLinkSource

set_option autoImplicit false

/-- What a capture reads, with the ports that it then takes. -/
structure Input where
  ports : Ports
  capture : Capture

structure World where
  client : State
  sources : List Source

/-- The slots that the constructor of a source connects to the client. -/
def slot (input : Input) : ApiClient.Signal → Option SourceEvent
  | .downlinkReady downlink => some (.downlinkReady downlink)
  | .downlinkRemoved uuid | .deleteDownlinkSucceeded uuid => some (.deleteDownlinkSucceeded uuid)
  | .putDownlinkFailed uuid | .putDownlinkStatusFailed uuid => some (.putDownlinkFailed uuid)
  | .stagesReady stages => some (.stagesReady stages)
  | .licenseChanged license =>
    if SubscriptionLicense.getLicenseValid license then
      some (.settingsUpdate input.ports input.capture)
    else none
  | .loginSucceeded => some .loginSucceeded
  | .logoutSucceeded => some .logoutSucceeded
  | _ => none

def hear (input : Input) (signal : ApiClient.Signal) (source : Source) : Source :=
  (slot input signal).elim source source.apply

/-- The calls that a source has made since, oldest first. -/
def callsSince (before after : Source) : List Call :=
  (after.calls.take (after.calls.length - before.calls.length)).reverse

namespace World

/-- A new source, which has made its first call. -/
def addSource (w : World) (source : Source) : World where
  client := source.calls.reverse.foldl perform w.client
  sources := w.sources ++ [source]

/-- The destructor of a source deletes its downlink. -/
def removeSource (w : World) (uuid : String) : World where
  client := perform w.client (.deleteDownlink uuid true)
  sources := w.sources.filter fun source => source.uuid ≠ uuid

/-- The sources change, and the calls that they make queue behind the other requests. -/
def withSources (client : State) (f : Source → Source) (sources : List Source) : World where
  client := (sources.flatMap fun source => callsSince source (f source)).foldl perform client
  sources := sources.map f

/-- An event of the client, with the slots of the sources for what it emits. -/
def onClientEvent (w : World) (e : ApiClient.Event) (input : String → Input) : Option World :=
  (ApiClient.step w.client e).map fun client =>
    let new := client.signals.take (client.signals.length - w.client.signals.length)
    withSources client (fun source => new.foldr (hear (input source.uuid)) source) w.sources

end World

inductive Event where
  | create (uuid : String) (input : Input)
  /-- the user changes the settings, or the source has to be reactivated -/
  | update (uuid : String) (input : Input)
  | destroy (uuid : String)
  /-- anything else; a new license reactivates the sources -/
  | client (e : ApiClient.Event) (input : String → Input)

def step (w : World) : Event → Option World
  | .create uuid input =>
    if w.sources.any (·.uuid = uuid) then none
    else some (w.addSource (Source.construct uuid input.ports input.capture).1)
  | .update uuid input =>
    some (.withSources w.client (fun source =>
      if source.uuid = uuid then source.apply (.settingsUpdate input.ports input.capture)
      else source) w.sources)
  | .destroy uuid =>
    if w.sources.any (·.uuid = uuid) then some (w.removeSource uuid) else none
  | .client e input => w.onClientEvent e input

/-- What a source plays. -/
def held (source : Source) : Option QJsonObject :=
  if source.connection.isEmpty then none else some source.connection

def Plays (w : World) : Prop :=
  ∀ source ∈ w.sources, Followers.Follows (connections w.client) source.uuid (held source)

/-- No source is misled by what happens to the cached connections. -/
def KeepsInformed (w : World) : Event → Prop
  | .client e _ => ∀ source ∈ w.sources, ∀ op, connectionOp w.client e = some op →
      ¬op.Misleads StageConnection.getId source.uuid (connections w.client) (held source)
  | _ => True

section Hearing

variable (input : Input)

theorem uuid_apply (source : Source) (e : SourceEvent) : (source.apply e).uuid = source.uuid := by
  have hApplied := applied source e
  generalize source.apply e = applied at hApplied
  cases hApplied <;> rfl

theorem uuid_hear (signal : ApiClient.Signal) (source : Source) :
    (hear input signal source).uuid = source.uuid := by
  unfold hear
  cases slot input signal with
  | none => rfl
  | some e => exact uuid_apply source e

theorem held_of_valid {source : Source} {connection : QJsonObject}
    (hValid : StageConnection.isValid connection = true)
    (hConnection : source.connection = connection) : held source = some connection := by
  have hSome : connection.isEmpty = false := by
    cases connection with
    | nil => exact absurd hValid (by decide)
    | cons field fields => rfl
  rw [held, hConnection, hSome]
  rfl

theorem connection_onDownlinkReady (downlink : QJsonObject) (source : Source) :
    (source.onDownlinkReady downlink).connection =
      if StageConnection.getId (DownlinkInfo.getConnection downlink) = source.uuid then
        DownlinkInfo.getConnection downlink
      else source.connection := by
  simp only [Source.onDownlinkReady, ne_eq, ite_not]
  split
  · split <;> rfl
  · rfl

/-- A source holds what a follower of its id would. -/
theorem held_hear (signal : ApiClient.Signal) (source : Source)
    (hValid : ∀ connection, connectionNotice signal = some (.ready connection) →
      StageConnection.isValid connection = true) :
    held (hear input signal source) = (connectionNotice signal).elim (held source)
      fun n => n.held StageConnection.getId source.uuid (held source) := by
  cases signal with
  | downlinkReady downlink =>
    have hConnection := connection_onDownlinkReady downlink source
    simp only [connectionNotice, Option.elim_some, Followers.Notice.held]
    split
    · next hOwn =>
      rw [if_pos hOwn] at hConnection
      exact held_of_valid (hValid _ rfl) hConnection
    · next hOther =>
      rw [if_neg hOther] at hConnection
      exact congrArg (fun c : QJsonObject => if c.isEmpty then none else some c) hConnection
  | downlinkRemoved uuid | deleteDownlinkSucceeded uuid | putDownlinkFailed uuid
  | putDownlinkStatusFailed uuid =>
    by_cases hOwn : uuid = source.uuid
    · subst hOwn
      simp [hear, slot, Source.apply, Source.onDeleteDownlinkSucceeded, Source.onPutDownlinkFailed,
        Source.resetDecoder, connectionNotice, Followers.Notice.held, held]
    · simp [hear, slot, Source.apply, Source.onDeleteDownlinkSucceeded, Source.onPutDownlinkFailed,
        connectionNotice, Followers.Notice.held, held, hOwn]
  | stagesReady stages =>
    simp only [hear, slot, Option.elim_some, Source.apply, Source.onStagesReady]
    split
    · rfl
    · split <;> rfl
  | licenseChanged license =>
    simp only [hear, slot]
    split <;> rfl
  | loginSucceeded =>
    simp only [hear, slot, Option.elim_some, Source.apply, Source.onLoginSucceeded]
    split <;> rfl
  | _ => rfl

theorem uuid_heard (signals : List ApiClient.Signal) (source : Source) :
    (signals.foldr (hear input) source).uuid = source.uuid := by
  induction signals with
  | nil => rfl
  | cons signal signals ih => rw [List.foldr_cons, uuid_hear, ih]

theorem held_heard (signals : List ApiClient.Signal) (source : Source)
    (hValid : ∀ connection, .ready connection ∈ signals.filterMap connectionNotice →
      StageConnection.isValid connection = true) :
    held (signals.foldr (hear input) source) = (signals.filterMap connectionNotice).foldr
      (fun n => n.held StageConnection.getId source.uuid) (held source) := by
  induction signals with
  | nil => rfl
  | cons signal signals ih =>
    have hRest := ih fun connection hMem => hValid connection <| by
      rw [List.filterMap_cons]
      split
      · exact hMem
      · exact List.mem_cons_of_mem _ hMem
    rw [List.foldr_cons, held_hear, uuid_heard, hRest, List.filterMap_cons]
    · cases connectionNotice signal <;> rfl
    · intro connection hNotice
      refine hValid connection ?_
      rw [List.filterMap_cons_some hNotice]
      exact List.mem_cons_self

end Hearing

section Steps

variable {w w' : World}

theorem connections_foldl_perform (calls : List Call) (client : State) :
    connections (calls.foldl perform client) = connections client :=
  foldl_keeps connections (fun s _ => connections_congr <|
    congrArg Prod.fst (connections_view.perform s (.inl rfl))) calls client

theorem plays_withSources {client : State} {f : Source → Source} {sources : List Source}
    (hUuid : ∀ source, (f source).uuid = source.uuid) :
    Plays (.withSources client f sources) ↔
      ∀ source ∈ sources, Followers.Follows (connections client) source.uuid (held (f source)) := by
  simp only [Plays, World.withSources, connections_foldl_perform, List.forall_mem_map, hUuid]

/-- A new source plays nothing. -/
theorem held_construct (uuid : String) (input : Input) :
    held (Source.construct uuid input.ports input.capture).1 = none := rfl

theorem create_plays {uuid : String} {input : Input} (h : Plays w)
    (hStep : step w (.create uuid input) = some w') : Plays w' := by
  simp only [step] at hStep
  split at hStep
  · cases hStep
  · rw [← Option.some.inj hStep]
    intro source hMem
    rw [World.addSource, connections_foldl_perform]
    rcases List.mem_append.mp hMem with hOld | hNew
    · exact h source hOld
    · rw [List.mem_singleton.mp hNew, held_construct]
      exact Followers.follows_none

theorem update_plays {uuid : String} {input : Input} (h : Plays w)
    (hStep : step w (.update uuid input) = some w') : Plays w' := by
  obtain rfl := Option.some.inj hStep
  refine (plays_withSources fun source => ?_).mpr fun source hMem => ?_
  · split
    · exact uuid_apply source _
    · rfl
  · have hHeld := h source hMem
    split
    · exact hHeld
    · exact hHeld

theorem destroy_plays {uuid : String} (h : Plays w)
    (hStep : step w (.destroy uuid) = some w') : Plays w' := by
  simp only [step] at hStep
  split at hStep
  · rw [← Option.some.inj hStep]
    intro source hMem
    have hKept := connections_foldl_perform [.deleteDownlink uuid true] w.client
    exact hKept ▸ h source (List.mem_of_mem_filter hMem)
  · cases hStep

/-- The signals of a step are those of its operation. -/
theorem notices_of_step {s t : State} {e : ApiClient.Event} (hOpen : s.signalsBlocked = false)
    (hStep : ApiClient.step s e = some t) :
    (t.signals.take (t.signals.length - s.signals.length)).filterMap connectionNotice =
      ((connectionOp s e).bind Followers.Op.notice).toList := by
  obtain ⟨new, hNew⟩ := signals_of_step hOpen hStep
  have hNotices := (step_performs hOpen hStep).notices
  have hTake : t.signals.take (t.signals.length - s.signals.length) = new := by
    rw [← hNew, List.length_append, Nat.add_sub_cancel_right, List.take_left]
  rw [connectionNotices, ← hNew, List.filterMap_append] at hNotices
  rw [hTake]
  exact List.append_cancel_right hNotices

theorem client_plays_iff {e : ApiClient.Event} {input : String → Input}
    (hOpen : w.client.signalsBlocked = false) (h : Plays w)
    (hStep : step w (.client e input) = some w') :
    Plays w' ↔ KeepsInformed w (.client e input) := by
  obtain ⟨client, hClient, rfl⟩ := Option.map_eq_some_iff.mp hStep
  have hNotices := notices_of_step hOpen hClient
  have hStore := (step_performs hOpen hClient).connections
  have hHeld (source : Source) := held_heard (input source.uuid) _ source
    fun connection hMem => valid_of_notice (hNotices ▸ hMem)
  rw [plays_withSources fun source => uuid_heard _ _ source]
  simp only [hHeld, hNotices, hStore, Option.foldr_toList]
  cases hOp : connectionOp w.client e with
  | none =>
    refine iff_of_true h fun _ _ op hSome => ?_
    exact absurd (hOp.symm.trans hSome) (Option.some_ne_none op).symm
  | some op =>
    have hFollows (source : Source) (hMem : source ∈ w.sources) :=
      op.follows_iff StageConnection.getId (h source hMem)
    constructor
    · intro hAll source hMem op' hOp'
      obtain rfl := Option.some.inj (hOp.symm.trans hOp')
      exact (hFollows source hMem).mp (hAll source hMem)
    · exact fun hNone source hMem => (hFollows source hMem).mpr (hNone source hMem op hOp)

theorem step_plays_iff {e : Event} (hOpen : w.client.signalsBlocked = false) (h : Plays w)
    (hStep : step w e = some w') : Plays w' ↔ KeepsInformed w e := by
  cases e with
  | create uuid input => exact iff_of_true (create_plays h hStep) trivial
  | update uuid input => exact iff_of_true (update_plays h hStep) trivial
  | destroy uuid => exact iff_of_true (destroy_plays h hStep) trivial
  | client e input => exact client_plays_iff hOpen h hStep

end Steps

section Runs

variable {w w' : World}

abbrev ReachableClient (client : State) : Prop :=
  Reachable ApiClient.step anyStep Constructed client

theorem reachable_calls (calls : List Call) {client : State} (h : ReachableClient client) :
    ReachableClient (calls.foldl perform client) := by
  induction calls generalizing client with
  | nil => exact h
  | cons c calls ih =>
    have hStep : ApiClient.step client (.call c) = some (perform client c) := rfl
    exact ih (h.next trivial hStep)

theorem reachable_withSources {client : State} (f : Source → Source) (sources : List Source)
    (h : ReachableClient client) : ReachableClient (World.withSources client f sources).client :=
  reachable_calls (sources.flatMap fun source => callsSince source (f source)) h

theorem reachable_addSource (source : Source) (h : ReachableClient w.client) :
    ReachableClient (w.addSource source).client := reachable_calls source.calls.reverse h

theorem reachable_step {e : Event} (h : ReachableClient w.client) (hStep : step w e = some w') :
    ReachableClient w'.client := by
  cases e with
  | create uuid input =>
    simp only [step] at hStep
    split at hStep
    · cases hStep
    · rw [← Option.some.inj hStep]
      exact reachable_addSource _ h
  | update uuid input =>
    rw [← Option.some.inj hStep]
    exact reachable_withSources _ _ h
  | destroy uuid =>
    simp only [step] at hStep
    split at hStep
    · rw [← Option.some.inj hStep]
      exact reachable_calls [.deleteDownlink uuid true] h
    · cases hStep
  | client e input =>
    obtain ⟨client, hClient, rfl⟩ := Option.map_eq_some_iff.mp hStep
    exact reachable_withSources _ _ (h.next trivial hClient)

theorem plays_iff_keepsInformed (x : Execution step)
    (hStart : Constructed (x.state 0).client ∧ (x.state 0).sources = []) :
    (∀ n, Plays (x.state n)) ↔ ∀ n e, x.event n = some e → KeepsInformed (x.state n) e := by
  have hReachable := x.always (fun w => ReachableClient w.client) (.start hStart.1)
    fun _ _ _ => reachable_step
  have hPlays : Plays (x.state 0) := fun source hMem => by
    rw [hStart.2] at hMem
    cases hMem
  refine x.always_iff hPlays fun n e hEvent hn => ?_
  exact step_plays_iff (signalsBlocked_of_reachable (hReachable n)) hn (x.next_of_event hEvent)

end Runs

def freshWorld : World := { client := freshClient, sources := [] }

def sourceInput : Input :=
  { ports := ⟨10000, 10099, fun _ => false⟩, capture := selectedCapture "a" false }

/-- A source gets its downlink, and the server removes it. -/
def downlinkRemoved : List Event :=
  [.create "source" sourceInput,
    .client (.reply 1 .noError (.object (allocatedDownlink 1 "a" "passphrase")))
      fun _ => sourceInput,
    .client (.textMessage (dataMessage "removed" "downlink.connections" "source" []))
      fun _ => sourceInput]

def downlinkRemovedRun : Execution step :=
  .ofRun step freshWorld downlinkRemoved (by decide +kernel)

theorem plays_iff_keepsInformed_downlinkRemoved :
    (downlinkRemovedRun.state 2).sources.map (fun source => source.connection.isEmpty) = [false] ∧
      (downlinkRemovedRun.state 3).sources.map (fun source => source.connection.isEmpty) = [true] ∧
      ∀ n, Plays (downlinkRemovedRun.state n) := by
  refine ⟨by decide +kernel, by decide +kernel, ?_⟩
  refine (plays_iff_keepsInformed downlinkRemovedRun ⟨freshClient_constructed, rfl⟩).mpr ?_
  intro n e hEvent
  match n with
  | 0 => exact Option.some.inj hEvent ▸ trivial
  | 1 =>
    obtain rfl := Option.some.inj hEvent
    intro source hMem op hOp
    have hPut : connectionOp (downlinkRemovedRun.state 1).client
        (.reply 1 .noError (.object (allocatedDownlink 1 "a" "passphrase"))) =
          some (.put "source" (DownlinkInfo.getConnection (allocatedDownlink 1 "a" "passphrase"))
            true) := by rfl
    obtain rfl := Option.some.inj (hPut.symm.trans hOp)
    exact Followers.Op.not_misleads_own (by decide +kernel)
  | 2 =>
    obtain rfl := Option.some.inj hEvent
    intro source hMem op hOp
    have hDrop : connectionOp (downlinkRemovedRun.state 2).client
        (.textMessage (dataMessage "removed" "downlink.connections" "source" [])) =
          some (.drop "source" true) := by rfl
    obtain rfl := Option.some.inj (hDrop.symm.trans hOp)
    exact fun hMisleads => Bool.noConfusion hMisleads.1
  | n + 3 => cases hEvent

end SrcLink.PlayedConnections
