import SrcLink.Library.Connections
import SrcLink.Library.StepSystem

/-! # Handlers of ingress link sources

The constructor of a source connects slots and functors, further functors are
connected to the requests it makes, and OBS has its callbacks. The functors are
connected without a context object, so the destructor does not disconnect them.
-/

namespace SrcLink.SourceLifetime

open Connections StepSystem

set_option autoImplicit false

inductive Object where
  | apiClient
  | source (n : Nat)
  | invoker (k : Nat)
  deriving DecidableEq

inductive Signal where
  | downlinkReady
  | downlinkRemoved
  | putDownlinkFailed
  | putDownlinkStatusFailed
  | deleteDownlinkSucceeded
  | stagesReady
  | licenseChanged
  | ingressRefreshNeeded
  | loginSucceeded
  | logoutSucceeded
  /-- of a source -/
  | settingsUpdate
  /-- of a request invoker -/
  | finished
  deriving DecidableEq

inductive Handler where
  | onDownlinkReady
  | onDeleteDownlinkSucceeded
  | onPutDownlinkFailed
  | onStagesReady
  | onLicenseChanged
  | onIngressRefreshNeeded
  | onLoginSucceeded
  | onLogoutSucceeded
  | onSettingsUpdate
  /-- connected by `onSettingsUpdate` -/
  | onUpdateFinished
  /-- connected by the reload button -/
  | onReloadFinished
  | onRename
  | onOBSFrontendEvent
  | updateCallback
  | reloadButton
  deriving DecidableEq

abbrev Link := Connection Object Signal Handler

/-- `connect(sender, SIGNAL(..), this, SLOT(..))` -/
def slot (sender : Object) (signal : Signal) (handler : Handler) (this : Object) : Link :=
  { sender := sender, signal := signal, handler := handler, owner := this, context := some this }

/-- `connect(sender, signal, [this](..) ..)` -/
def functor (sender : Object) (signal : Signal) (handler : Handler) (this : Object) : Link :=
  { sender := sender, signal := signal, handler := handler, owner := this, context := none }

def constructorConnections (this : Object) : List Link :=
  [slot .apiClient .downlinkReady .onDownlinkReady this,
    slot .apiClient .downlinkRemoved .onDeleteDownlinkSucceeded this,
    slot .apiClient .putDownlinkFailed .onPutDownlinkFailed this,
    slot .apiClient .putDownlinkStatusFailed .onPutDownlinkFailed this,
    slot .apiClient .deleteDownlinkSucceeded .onDeleteDownlinkSucceeded this,
    slot .apiClient .stagesReady .onStagesReady this,
    functor .apiClient .licenseChanged .onLicenseChanged this,
    functor .apiClient .ingressRefreshNeeded .onIngressRefreshNeeded this,
    slot .apiClient .loginSucceeded .onLoginSucceeded this,
    slot .apiClient .logoutSucceeded .onLogoutSucceeded this,
    slot this .settingsUpdate .onSettingsUpdate this]

structure Ran where
  handler : Handler
  owner : Object
  ownerLive : Bool

/-- How OBS and the event loop reach the sources. -/
structure Registry where
  created : Nat := 0
  /-- the sources that OBS has not destroyed -/
  inUse : List Nat := []
  renameSignals : List Nat := []
  frontendCallbacks : List Nat := []
  /-- the sources that delete themselves later -/
  doomed : List Nat := []

structure Runtime where
  hub : Hub Object Signal Handler := { live := [.apiClient] }
  registry : Registry := {}
  /-- the owners of the functors connected to the requests made so far -/
  requests : List Object := []
  finished : List Nat := []
  /-- newest first -/
  ran : List Ran := []

/-- What the handlers find. -/
structure Environment where
  /-- there is a refresh token -/
  token : Bool
  licenseValid : Bool
  /-- the object lives in another thread than the sender -/
  remote : Object → Bool

namespace Runtime

def connectRequest (handler : Handler) (this : Object) (w : Runtime) : Runtime :=
  let invoker : Object := .invoker w.requests.length
  { w with
    hub := (w.hub.add invoker).connect [functor invoker .finished handler this]
    requests := w.requests ++ [this] }

/-- Without a token there is no request. -/
def request (env : Environment) (handler : Handler) (this : Object) (w : Runtime) : Runtime :=
  if env.token then w.connectRequest handler this else w

def onSettingsUpdate (env : Environment) (this : Object) (w : Runtime) : Runtime :=
  w.request env .onUpdateFinished this

def reactivate (env : Environment) (this : Object) (w : Runtime) : Runtime :=
  w.onSettingsUpdate env this

/-- What a handler does to the connections. -/
def handle (env : Environment) (this : Object) (w : Runtime) : Handler → Runtime
  | .onSettingsUpdate => w.onSettingsUpdate env this
  | .onLicenseChanged => if env.licenseValid then w.reactivate env this else w
  | .onIngressRefreshNeeded => w.reactivate env this
  | .reloadButton => w.request env .onReloadFinished this
  | _ => w

def log (handler : Handler) (this : Object) (w : Runtime) : Runtime :=
  let live := decide (this ∈ w.hub.live)
  { w with ran := { handler := handler, owner := this, ownerLive := live } :: w.ran }

def runHandler (env : Environment) (handler : Handler) (this : Object) (w : Runtime) : Runtime :=
  if this ∈ w.hub.live then (w.log handler this).handle env this handler else w.log handler this

/-- A call to a receiver in another thread is posted. -/
def deliver (env : Environment) (w : Runtime) (c : Link) : Runtime :=
  if c.context.any env.remote then { w with hub := w.hub.post c }
  else w.runHandler env c.handler c.owner

/-- Connections made by the handlers do not get the signal. -/
def emit (env : Environment) (sender : Object) (signal : Signal) (w : Runtime) : Runtime :=
  (w.hub.receivers sender signal).foldl (deliver env) w

def construct (w : Runtime) : Runtime :=
  let n := w.registry.created
  { w with
    hub := (w.hub.add (.source n)).connect (constructorConnections (.source n))
    registry :=
      { w.registry with
        created := n + 1, inUse := n :: w.registry.inUse
        renameSignals := n :: w.registry.renameSignals
        frontendCallbacks := n :: w.registry.frontendCallbacks } }

def destroyCallback (n : Nat) (w : Runtime) : Runtime :=
  { w with
    registry :=
      { w.registry with
        inUse := w.registry.inUse.filter (· ≠ n)
        renameSignals := w.registry.renameSignals.filter (· ≠ n)
        doomed := n :: w.registry.doomed } }

def destructor (n : Nat) (w : Runtime) : Runtime :=
  { w with
    hub := (w.hub.disconnect (.source n) (.source n)).destroy (.source n)
    registry :=
      { w.registry with
        frontendCallbacks := w.registry.frontendCallbacks.filter (· ≠ n)
        doomed := w.registry.doomed.filter (· ≠ n) } }

inductive Event where
  | create
  /-- the `update` callback of OBS, in any thread -/
  | update (n : Nat) (env : Environment)
  | reload (n : Nat) (env : Environment)
  | rename (n : Nat) (env : Environment)
  | frontendEvent (env : Environment)
  | destroy (n : Nat)
  | deferredDelete (o : Object)
  | postedCall (index : Nat) (env : Environment)
  | apiSignal (signal : Signal) (env : Environment)
  | finish (k : Nat) (env : Environment)

/-- OBS calls back the sources that it has not destroyed. -/
def step (w : Runtime) : Event → Option Runtime
  | .create => some w.construct
  | .update n env =>
    if n ∈ w.registry.inUse then
      some ((w.runHandler env .updateCallback (.source n)).emit env (.source n) .settingsUpdate)
    else none
  | .reload n env =>
    if n ∈ w.registry.inUse then some (w.runHandler env .reloadButton (.source n)) else none
  | .rename n env =>
    if n ∈ w.registry.renameSignals then some (w.runHandler env .onRename (.source n)) else none
  | .frontendEvent env =>
    some (w.registry.frontendCallbacks.foldl
      (fun w n => w.runHandler env .onOBSFrontendEvent (.source n)) w)
  | .destroy n => if n ∈ w.registry.inUse then some (w.destroyCallback n) else none
  | .deferredDelete (.source n) => if n ∈ w.registry.doomed then some (w.destructor n) else none
  | .deferredDelete (.invoker k) =>
    if k ∈ w.finished then some { w with hub := w.hub.destroy (.invoker k) } else none
  | .deferredDelete .apiClient => none
  | .postedCall index env =>
    w.hub.posted[index]?.map fun c =>
      { w with hub := w.hub.unpost index }.runHandler env c.handler c.owner
  | .apiSignal signal env => some (w.emit env .apiClient signal)
  | .finish k env =>
    if k < w.requests.length ∧ k ∉ w.finished then
      let w := w.emit env (.invoker k) .finished
      some { w with finished := k :: w.finished }
    else none

/-- No handler has been run whose source was destroyed. -/
def OwnersAlive (w : Runtime) : Prop := ∀ r ∈ w.ran, r.ownerLive = true

instance (w : Runtime) : Decidable (OwnersAlive w) := inferInstanceAs (Decidable (∀ r ∈ w.ran, _))

/-- The functors without a context are run only while their sources live: no source has been
destroyed when the license changes or the ingress ports are refreshed, and the requests of a
source finish before it is destroyed. -/
def SourcesOutlast (w : Runtime) : Event → Prop
  | .apiSignal signal _ =>
    signal = .licenseChanged ∨ signal = .ingressRefreshNeeded →
      ∀ n < w.registry.created, .source n ∈ w.hub.live
  | .finish k _ => ∀ owner ∈ w.requests[k]?, owner ∈ w.hub.live
  | _ => True

section Handlers

variable {env : Environment} {w w' : Runtime} {c : Link}

/-- Handlers only add connections, and no source. -/
structure Extends (w w' : Runtime) : Prop where
  live : ∀ n, .source n ∈ w'.hub.live ↔ .source n ∈ w.hub.live
  connections : w.hub.connections ⊆ w'.hub.connections
  registry : w'.registry = w.registry

theorem Extends.refl (w : Runtime) : Extends w w := ⟨fun _ => Iff.rfl, List.Subset.refl _, rfl⟩

theorem Extends.trans {w'' : Runtime} (h : Extends w w') (h' : Extends w' w'') : Extends w w'' where
  live n := (h'.live n).trans (h.live n)
  connections := List.Subset.trans h.connections h'.connections
  registry := h'.registry.trans h.registry

theorem extends_of_hub (hLive : w'.hub.live = w.hub.live)
    (hConnections : w'.hub.connections = w.hub.connections) (hRegistry : w'.registry = w.registry) :
    Extends w w' where
  live n := by rw [hLive]
  connections := by
    rw [hConnections]
    exact List.Subset.refl _
  registry := hRegistry

theorem extends_connectRequest (handler : Handler) (this : Object) (w : Runtime) :
    Extends w (w.connectRequest handler this) where
  live n := by
    simp only [connectRequest, Hub.connect, Hub.add, List.mem_cons, reduceCtorEq, false_or]
  connections := List.subset_append_left _ _
  registry := rfl

theorem handle_cases (env : Environment) (this : Object) (w : Runtime) (handler : Handler) :
    w.handle env this handler = w ∨
      ∃ connected, w.handle env this handler = w.connectRequest connected this := by
  have hRequest (chosen : Handler) : w.request env chosen this = w ∨
      ∃ connected, w.request env chosen this = w.connectRequest connected this := by
    unfold request
    split
    · exact .inr ⟨chosen, rfl⟩
    · exact .inl rfl
  cases handler with
  | onSettingsUpdate => exact hRequest .onUpdateFinished
  | onLicenseChanged =>
    simp only [handle]
    split
    · exact hRequest .onUpdateFinished
    · exact .inl rfl
  | onIngressRefreshNeeded => exact hRequest .onUpdateFinished
  | reloadButton => exact hRequest .onReloadFinished
  | _ => exact .inl rfl

theorem extends_runHandler (env : Environment) (handler : Handler) (this : Object) (w : Runtime) :
    Extends w (w.runHandler env handler this) := by
  have hLogged : Extends w (w.log handler this) := extends_of_hub rfl rfl rfl
  unfold runHandler
  split
  · obtain hSame | ⟨connected, hRequested⟩ := handle_cases env this (w.log handler this) handler
    · rw [hSame]
      exact hLogged
    · rw [hRequested]
      exact hLogged.trans (extends_connectRequest connected this _)
  · exact hLogged

theorem ran_handle (env : Environment) (this : Object) (w : Runtime) (handler : Handler) :
    (w.handle env this handler).ran = w.ran := by
  obtain hSame | ⟨connected, hRequested⟩ := handle_cases env this w handler
  · rw [hSame]
  · rw [hRequested, connectRequest]

theorem ownersAlive_runHandler_iff {handler : Handler} {this : Object} :
    OwnersAlive (w.runHandler env handler this) ↔ this ∈ w.hub.live ∧ OwnersAlive w := by
  have hRan : (w.runHandler env handler this).ran = (w.log handler this).ran := by
    unfold runHandler
    split
    · exact ran_handle _ _ _ _
    · rfl
  rw [OwnersAlive, hRan, log, List.forall_mem_cons, decide_eq_true_iff, OwnersAlive]

theorem extends_deliver (env : Environment) (w : Runtime) (c : Link) :
    Extends w (w.deliver env c) := by
  unfold deliver
  split
  · exact extends_of_hub rfl rfl rfl
  · exact extends_runHandler env _ _ w

theorem ownersAlive_deliver_iff :
    OwnersAlive (w.deliver env c) ↔
      (c.context.any env.remote = false → c.owner ∈ w.hub.live) ∧ OwnersAlive w := by
  unfold deliver
  split
  · next hPosted =>
    have hNot : ¬c.context.any env.remote = false := by rw [hPosted]; decide
    exact ⟨fun h => ⟨fun hDirect => (hNot hDirect).elim, h⟩, fun h => h.2⟩
  · next hDirect =>
    have hDirect : c.context.any env.remote = false := by simpa using hDirect
    rw [ownersAlive_runHandler_iff, hDirect]
    exact and_congr_left' ⟨fun hLive _ => hLive, fun h => h rfl⟩

/-- The handlers that a signal runs at once all have live owners, or the last state shows one
that has not. -/
theorem ownersAlive_foldl_iff {cs : List Link} (hSources : ∀ c ∈ cs, ∃ n, c.owner = .source n) :
    OwnersAlive (cs.foldl (deliver env) w) ↔
      (∀ c ∈ cs, c.context.any env.remote = false → c.owner ∈ w.hub.live) ∧ OwnersAlive w := by
  induction cs generalizing w with
  | nil => exact ⟨fun h => ⟨List.forall_mem_nil _, h⟩, fun h => h.2⟩
  | cons c cs ih =>
    obtain ⟨-, hRest⟩ := List.forall_mem_cons.mp hSources
    have hLive : ∀ c' ∈ cs, c'.owner ∈ (w.deliver env c).hub.live ↔ c'.owner ∈ w.hub.live := by
      intro c' hc'
      obtain ⟨n, hOwner⟩ := hRest c' hc'
      rw [hOwner]
      exact (extends_deliver env w c).live n
    rw [List.foldl_cons, ih hRest, ownersAlive_deliver_iff, List.forall_mem_cons]
    constructor
    · rintro ⟨hAll, hFirst, hBefore⟩
      exact ⟨⟨hFirst, fun c' hc' hDirect => (hLive c' hc').mp (hAll c' hc' hDirect)⟩, hBefore⟩
    · rintro ⟨⟨hFirst, hAll⟩, hBefore⟩
      exact ⟨fun c' hc' hDirect => (hLive c' hc').mpr (hAll c' hc' hDirect), hFirst, hBefore⟩

end Handlers

/-- A connection has its owner as context, or it is one of the functors. -/
inductive Known (w : Runtime) (c : Link) : Prop
  | slot (hContext : c.context = some c.owner)
  | client (hContext : c.context = none) (hOwner : ∃ n < w.registry.created, c.owner = .source n)
      (hSender : c.sender = .apiClient)
      (hSignal : c.signal = .licenseChanged ∨ c.signal = .ingressRefreshNeeded)
  | request (hContext : c.context = none) (k : Nat) (hOwner : w.requests[k]? = some c.owner)
      (hSender : c.sender = .invoker k)

/-- A functor of the owner is connected to the signal. -/
def Connects (w : Runtime) (sender : Object) (signal : Signal) (owner : Object) : Prop :=
  ∃ c ∈ w.hub.receivers sender signal, c.owner = owner ∧ c.context = none

structure TableInv (w : Runtime) : Prop where
  attached : w.hub.Attached
  apiClient : .apiClient ∈ w.hub.live
  owner : ∀ c ∈ w.hub.connections, ∃ n, c.owner = .source n
  known : ∀ c ∈ w.hub.connections, Known w c
  posted : ∀ c ∈ w.hub.posted, c.context = some c.owner ∧ ∃ n, c.owner = .source n
  requester : ∀ owner ∈ w.requests, ∃ n, owner = .source n
  refresh : ∀ n < w.registry.created, ∀ signal,
    signal = .licenseChanged ∨ signal = .ingressRefreshNeeded →
      Connects w .apiClient signal (.source n)
  unfinished : ∀ k owner, w.requests[k]? = some owner → k ∉ w.finished →
    Connects w (.invoker k) .finished owner

/-- The sources that OBS still calls are alive. -/
structure RegistryInv (w : Runtime) : Prop where
  inUse : ∀ n ∈ w.registry.inUse, .source n ∈ w.hub.live ∧ n ∉ w.registry.doomed
  renameSignals : ∀ n ∈ w.registry.renameSignals, n ∈ w.registry.inUse
  frontendCallbacks : ∀ n ∈ w.registry.frontendCallbacks, .source n ∈ w.hub.live
  doomed : ∀ n ∈ w.registry.doomed, n < w.registry.created
  created : ∀ n ∈ w.registry.inUse, n < w.registry.created

structure Inv (w : Runtime) : Prop where
  table : TableInv w
  registry : RegistryInv w

section Table

variable {env : Environment} {w w' : Runtime} {c : Link}

theorem Connects.mono {sender owner : Object} {signal : Signal}
    (h : Connects w sender signal owner) (hConnections : w.hub.connections ⊆ w'.hub.connections) :
    Connects w' sender signal owner := by
  obtain ⟨c, hc, hOwner⟩ := h
  obtain ⟨hMem, hEnds⟩ := Hub.mem_receivers_iff.mp hc
  exact ⟨c, Hub.mem_receivers_iff.mpr ⟨hConnections hMem, hEnds⟩, hOwner⟩

theorem Connects.destroy {sender owner o : Object} {signal : Signal}
    (h : Connects w sender signal owner) (hSender : sender ≠ o)
    (hHub : w'.hub = w.hub.destroy o) : Connects w' sender signal owner := by
  obtain ⟨c, hc, hOwner, hContext⟩ := h
  obtain ⟨hMem, rfl, hSignal⟩ := Hub.mem_receivers_iff.mp hc
  refine ⟨c, Hub.mem_receivers_iff.mpr ⟨?_, rfl, hSignal⟩, hOwner, hContext⟩
  rw [hHub]
  exact Hub.mem_connections_destroy_iff.mpr ⟨hMem, hSender, by simp [hContext]⟩

theorem Connects.disconnect {sender owner o : Object} {signal : Signal}
    (h : Connects w sender signal owner) :
    Connects { w with hub := w.hub.disconnect o o } sender signal owner := by
  obtain ⟨c, hc, hOwner, hContext⟩ := h
  obtain ⟨hMem, hEnds⟩ := Hub.mem_receivers_iff.mp hc
  refine ⟨c, Hub.mem_receivers_iff.mpr ⟨?_, hEnds⟩, hOwner, hContext⟩
  refine Hub.mem_connections_disconnect_iff.mpr ⟨hMem, fun hBoth => ?_⟩
  exact absurd (hContext.symm.trans hBoth.2) (Option.some_ne_none o).symm

theorem Known.mono (h : Known w c) (hCreated : w.registry.created ≤ w'.registry.created)
    (hRequests : w.requests <+: w'.requests) : Known w' c := by
  cases h with
  | slot hContext => exact .slot hContext
  | client hContext hOwner hSender hSignal =>
    obtain ⟨n, hn, hOwner⟩ := hOwner
    exact .client hContext ⟨n, hn.trans_le hCreated, hOwner⟩ hSender hSignal
  | request hContext k hOwner hSender =>
    obtain ⟨added, hAppend⟩ := hRequests
    refine .request hContext k ?_ hSender
    rw [← hAppend]
    exact List.getElem?_append_left (List.getElem?_eq_some_iff.mp hOwner).1 ▸ hOwner

theorem TableInv.log (h : TableInv w) (handler : Handler) (this : Object) :
    TableInv (w.log handler this) where
  attached := h.attached
  apiClient := h.apiClient
  owner := h.owner
  known c hc := (h.known c hc).mono le_rfl (List.prefix_refl _)
  posted := h.posted
  requester := h.requester
  refresh := h.refresh
  unfinished := h.unfinished

theorem TableInv.connectRequest (h : TableInv w) (handler : Handler) (n : Nat) :
    TableInv (w.connectRequest handler (.source n)) := by
  have hExtends := extends_connectRequest handler (.source n) w
  have hNew : ∀ c ∈ (w.connectRequest handler (.source n)).hub.connections,
      c ∈ w.hub.connections ∨
        c = functor (.invoker w.requests.length) .finished handler (.source n) := by
    intro c hc
    exact (List.mem_append.mp hc).imp_right List.mem_singleton.mp
  constructor
  · refine (h.attached.add _).connect ?_ ?_
    · rintro c hc
      obtain rfl := List.mem_singleton.mp hc
      exact List.mem_cons_self
    · rintro c hc o ho
      obtain rfl := List.mem_singleton.mp hc
      exact (Option.not_mem_none o ho).elim
  · exact List.mem_cons_of_mem _ h.apiClient
  · intro c hc
    obtain hOld | rfl := hNew c hc
    · exact h.owner c hOld
    · exact ⟨n, rfl⟩
  · intro c hc
    obtain hOld | rfl := hNew c hc
    · exact (h.known c hOld).mono le_rfl (List.prefix_append _ _)
    · exact .request rfl w.requests.length List.getElem?_concat_length rfl
  · exact h.posted
  · intro owner hOwner
    exact (List.mem_append.mp hOwner).elim (h.requester owner)
      fun hThis => ⟨n, List.mem_singleton.mp hThis⟩
  · intro m hm signal hSignal
    exact (h.refresh m hm signal hSignal).mono hExtends.connections
  · intro k owner hRequest hUnfinished
    -- an older request has kept its functor, the new one has just got it
    rw [show (w.connectRequest handler (.source n)).requests = w.requests ++ [.source n] from rfl,
      List.getElem?_append] at hRequest
    split at hRequest
    · exact (h.unfinished k owner hRequest hUnfinished).mono hExtends.connections
    · next hLength =>
      obtain ⟨hZero, rfl⟩ : k - w.requests.length = 0 ∧ Object.source n = owner := by
        simpa [List.getElem?_singleton] using hRequest
      obtain rfl : k = w.requests.length := by omega
      exact ⟨_, Hub.mem_receivers_iff.mpr ⟨List.mem_append_right _ List.mem_cons_self, rfl, rfl⟩,
        rfl, rfl⟩

theorem TableInv.runHandler (h : TableInv w) (env : Environment) (handler : Handler) {this : Object}
    (hThis : ∃ n, this = .source n) : TableInv (w.runHandler env handler this) := by
  obtain ⟨n, rfl⟩ := hThis
  have hLogged := h.log handler (.source n)
  unfold Runtime.runHandler
  split
  · obtain hSame | ⟨connected, hRequested⟩ :=
      handle_cases env (.source n) (w.log handler (.source n)) handler
    · rw [hSame]
      exact hLogged
    · rw [hRequested]
      exact hLogged.connectRequest connected n
  · exact hLogged

theorem TableInv.deliver (h : TableInv w) (env : Environment) (hConnected : c ∈ w.hub.connections) :
    TableInv (w.deliver env c) := by
  unfold Runtime.deliver
  split
  · next hPosted =>
    have hContext : c.context = some c.owner := by
      cases h.known c hConnected with
      | slot hContext => exact hContext
      | client hContext => simp [hContext] at hPosted
      | request hContext => simp [hContext] at hPosted
    refine { h with
      attached := h.attached.post hConnected
      known := fun c' hc' => (h.known c' hc').mono le_rfl (List.prefix_refl _)
      posted := ?_ }
    intro c' hc'
    obtain hOld | hNew := List.mem_append.mp hc'
    · exact h.posted c' hOld
    · exact List.mem_singleton.mp hNew ▸ ⟨hContext, h.owner c hConnected⟩
  · exact h.runHandler env c.handler (h.owner c hConnected)

theorem TableInv.foldl (h : TableInv w) (env : Environment) {cs : List Link}
    (hConnected : ∀ c ∈ cs, c ∈ w.hub.connections) :
    TableInv (cs.foldl (Runtime.deliver env) w) := by
  induction cs generalizing w with
  | nil => exact h
  | cons c cs ih =>
    obtain ⟨hFirst, hRest⟩ := List.forall_mem_cons.mp hConnected
    have hExtends := extends_deliver env w c
    exact ih (h.deliver env hFirst) fun c' hc' => hExtends.connections (hRest c' hc')

theorem TableInv.emit (h : TableInv w) (env : Environment) (sender : Object) (signal : Signal) :
    TableInv (w.emit env sender signal) :=
  h.foldl env fun _ hc => (Hub.mem_receivers_iff.mp hc).1

theorem extends_emit (env : Environment) (sender : Object) (signal : Signal) (w : Runtime) :
    Extends w (w.emit env sender signal) := by
  have hFold (cs : List Link) (w : Runtime) : Extends w (cs.foldl (deliver env) w) := by
    induction cs generalizing w with
    | nil => exact Extends.refl w
    | cons c cs ih => exact (extends_deliver env w c).trans (ih _)
  exact hFold _ w

theorem ownersAlive_emit_iff (h : TableInv w) {sender : Object} {signal : Signal} :
    OwnersAlive (w.emit env sender signal) ↔
      (∀ c ∈ w.hub.receivers sender signal, c.context = none → c.owner ∈ w.hub.live) ∧
        OwnersAlive w := by
  have hMem {c : Link} (hc : c ∈ w.hub.receivers sender signal) : c ∈ w.hub.connections :=
    (Hub.mem_receivers_iff.mp hc).1
  refine (ownersAlive_foldl_iff fun c hc => h.owner c (hMem hc)).trans (and_congr_left' ?_)
  constructor
  · intro hAll c hc hContext
    exact hAll c hc (by rw [hContext]; rfl)
  · intro hAll c hc hDirect
    cases h.known c (hMem hc) with
    | slot hContext => exact h.attached.owner_live (hMem hc) hContext
    | client hContext => exact hAll c hc hContext
    | request hContext => exact hAll c hc hContext

theorem ownersAlive_apiSignal_iff (h : TableInv w) {signal : Signal} :
    OwnersAlive (w.emit env .apiClient signal) ↔
      (signal = .licenseChanged ∨ signal = .ingressRefreshNeeded →
        ∀ n < w.registry.created, .source n ∈ w.hub.live) ∧ OwnersAlive w := by
  refine (ownersAlive_emit_iff h).trans (and_congr_left' ?_)
  constructor
  · intro hAll hSignal n hn
    obtain ⟨c, hc, hOwner, hContext⟩ := h.refresh n hn signal hSignal
    exact hOwner ▸ hAll c hc hContext
  · intro hAll c hc hContext
    obtain ⟨hMem, hSender, hSignal⟩ := Hub.mem_receivers_iff.mp hc
    cases h.known c hMem with
    | slot hOwn => exact absurd (hContext.symm.trans hOwn) (Option.some_ne_none _).symm
    | client _ hOwner _ hFunctor =>
      obtain ⟨n, hn, hOwner⟩ := hOwner
      exact hOwner ▸ hAll (hSignal ▸ hFunctor) n hn
    | request _ k _ hInvoker => exact absurd (hSender.symm.trans hInvoker) (by simp)

theorem ownersAlive_finished_iff (h : TableInv w) {k : Nat} (hUnfinished : k ∉ w.finished) :
    OwnersAlive (w.emit env (.invoker k) .finished) ↔
      (∀ owner ∈ w.requests[k]?, owner ∈ w.hub.live) ∧ OwnersAlive w := by
  refine (ownersAlive_emit_iff h).trans (and_congr_left' ?_)
  constructor
  · intro hAll owner hRequest
    obtain ⟨c, hc, hOwner, hContext⟩ := h.unfinished k owner hRequest hUnfinished
    exact hOwner ▸ hAll c hc hContext
  · intro hAll c hc hContext
    obtain ⟨hMem, hSender, -⟩ := Hub.mem_receivers_iff.mp hc
    cases h.known c hMem with
    | slot hOwn => exact absurd (hContext.symm.trans hOwn) (Option.some_ne_none _).symm
    | client _ _ hClient => exact absurd (hSender.symm.trans hClient) (by simp)
    | request _ k' hRequest hInvoker =>
      obtain rfl := Object.invoker.inj (hSender.symm.trans hInvoker)
      exact hAll c.owner hRequest

theorem ownersAlive_settingsUpdate_iff (h : TableInv w) (n : Nat) :
    OwnersAlive (w.emit env (.source n) .settingsUpdate) ↔ OwnersAlive w := by
  refine (ownersAlive_emit_iff h).trans (and_iff_right ?_)
  intro c hc hContext
  obtain ⟨hMem, hSender, -⟩ := Hub.mem_receivers_iff.mp hc
  cases h.known c hMem with
  | slot hOwn => exact absurd (hContext.symm.trans hOwn) (Option.some_ne_none _).symm
  | client _ _ hClient => exact absurd (hSender.symm.trans hClient) (by simp)
  | request _ k _ hInvoker => exact absurd (hSender.symm.trans hInvoker) (by simp)

theorem RegistryInv.of_extends (h : RegistryInv w) (hExtends : Extends w w') : RegistryInv w' where
  inUse n hn := by
    rw [hExtends.registry] at hn ⊢
    exact ⟨(hExtends.live n).mpr (h.inUse n hn).1, (h.inUse n hn).2⟩
  renameSignals := by
    rw [hExtends.registry]
    exact h.renameSignals
  frontendCallbacks n hn := by
    rw [hExtends.registry] at hn
    exact (hExtends.live n).mpr (h.frontendCallbacks n hn)
  doomed := by
    rw [hExtends.registry]
    exact h.doomed
  created := by
    rw [hExtends.registry]
    exact h.created

theorem frontendEvent_spec (env : Environment) (h : TableInv w) {ns : List Nat}
    (hLive : ∀ n ∈ ns, .source n ∈ w.hub.live) :
    let w' := ns.foldl (fun w n => w.runHandler env .onOBSFrontendEvent (.source n)) w
    TableInv w' ∧ Extends w w' ∧ (OwnersAlive w' ↔ OwnersAlive w) := by
  induction ns generalizing w with
  | nil => exact ⟨h, Extends.refl w, Iff.rfl⟩
  | cons n ns ih =>
    obtain ⟨hFirst, hRest⟩ := List.forall_mem_cons.mp hLive
    have hExtends := extends_runHandler env .onOBSFrontendEvent (.source n) w
    obtain ⟨hTable, hRestExtends, hAlive⟩ := ih (h.runHandler env .onOBSFrontendEvent ⟨n, rfl⟩)
      fun m hm => (hExtends.live m).mpr (hRest m hm)
    refine ⟨hTable, hExtends.trans hRestExtends, hAlive.trans ?_⟩
    rw [ownersAlive_runHandler_iff, and_iff_right hFirst]

theorem constructorConnections_spec {n : Nat} (hc : c ∈ constructorConnections (.source n)) :
    (c.sender = .apiClient ∨ c.sender = .source n) ∧ c.owner = .source n ∧
      (c.context = some (.source n) ∨ c.context = none ∧ c.sender = .apiClient ∧
        (c.signal = .licenseChanged ∨ c.signal = .ingressRefreshNeeded)) := by
  simp only [constructorConnections, List.mem_cons, List.not_mem_nil, or_false] at hc
  rcases hc with rfl | rfl | rfl | rfl | rfl | rfl | rfl | rfl | rfl | rfl | rfl <;>
    simp [slot, functor]

theorem TableInv.construct (h : TableInv w) : TableInv w.construct := by
  have hSubset : w.hub.connections ⊆ w.construct.hub.connections := List.subset_append_left _ _
  constructor
  · refine (h.attached.add _).connect ?_ ?_
    · intro c hc
      obtain ⟨hSender | hSender, -⟩ := constructorConnections_spec hc
      · exact hSender ▸ List.mem_cons_of_mem _ h.apiClient
      · exact hSender ▸ List.mem_cons_self
    · intro c hc o ho
      obtain ⟨-, -, hContext | ⟨hContext, -⟩⟩ := constructorConnections_spec hc
      · exact Option.some.inj (hContext.symm.trans ho) ▸ List.mem_cons_self
      · exact (Option.some_ne_none o (ho.symm.trans hContext)).elim
  · exact List.mem_cons_of_mem _ h.apiClient
  · intro c hc
    obtain hOld | hNew := List.mem_append.mp hc
    · exact h.owner c hOld
    · exact ⟨_, (constructorConnections_spec hNew).2.1⟩
  · intro c hc
    obtain hOld | hNew := List.mem_append.mp hc
    · exact (h.known c hOld).mono (Nat.le_succ _) (List.prefix_refl _)
    · obtain ⟨-, hOwner, hContext | ⟨hContext, hSender, hSignal⟩⟩ :=
        constructorConnections_spec hNew
      · exact .slot (hContext.trans (congrArg some hOwner.symm))
      · exact .client hContext ⟨_, Nat.lt_succ_self _, hOwner⟩ hSender hSignal
  · exact h.posted
  · exact h.requester
  · intro n hn signal hSignal
    obtain hOld | rfl := Nat.lt_succ_iff_lt_or_eq.mp hn
    · exact (h.refresh n hOld signal hSignal).mono hSubset
    · -- the constructor connects a functor to either signal
      rcases hSignal with rfl | rfl
      · refine ⟨functor .apiClient .licenseChanged .onLicenseChanged (.source w.registry.created),
          Hub.mem_receivers_iff.mpr ⟨List.mem_append_right _ ?_, rfl, rfl⟩, rfl, rfl⟩
        simp [constructorConnections]
      · refine ⟨functor .apiClient .ingressRefreshNeeded .onIngressRefreshNeeded
          (.source w.registry.created),
          Hub.mem_receivers_iff.mpr ⟨List.mem_append_right _ ?_, rfl, rfl⟩, rfl, rfl⟩
        simp [constructorConnections]
  · intro k owner hRequest hUnfinished
    exact (h.unfinished k owner hRequest hUnfinished).mono hSubset

theorem RegistryInv.construct (h : RegistryInv w) : RegistryInv w.construct := by
  have hFresh : w.registry.created ∉ w.registry.doomed :=
    fun hDoomed => absurd (h.doomed _ hDoomed) (Nat.lt_irrefl _)
  constructor
  · refine List.forall_mem_cons.mpr ⟨⟨List.mem_cons_self, hFresh⟩, fun n hn => ?_⟩
    exact ⟨List.mem_cons_of_mem _ (h.inUse n hn).1, (h.inUse n hn).2⟩
  · refine List.forall_mem_cons.mpr ⟨List.mem_cons_self, fun n hn => ?_⟩
    exact List.mem_cons_of_mem _ (h.renameSignals n hn)
  · refine List.forall_mem_cons.mpr ⟨List.mem_cons_self, fun n hn => ?_⟩
    exact List.mem_cons_of_mem _ (h.frontendCallbacks n hn)
  · exact fun n hn => (h.doomed n hn).trans (Nat.lt_succ_self _)
  · refine List.forall_mem_cons.mpr ⟨Nat.lt_succ_self _, fun n hn => ?_⟩
    exact (h.created n hn).trans (Nat.lt_succ_self _)

theorem RegistryInv.destroyCallback (h : RegistryInv w) {n : Nat}
    (hUsed : n ∈ w.registry.inUse) : RegistryInv (w.destroyCallback n) where
  inUse m hm := by
    obtain ⟨hOld, hOther⟩ := List.mem_filter.mp hm
    refine ⟨(h.inUse m hOld).1, fun hDoomed => ?_⟩
    rcases List.mem_cons.mp hDoomed with rfl | hBefore
    · exact absurd rfl (of_decide_eq_true hOther)
    · exact (h.inUse m hOld).2 hBefore
  renameSignals m hm := by
    obtain ⟨hOld, hOther⟩ := List.mem_filter.mp hm
    exact List.mem_filter.mpr ⟨h.renameSignals m hOld, hOther⟩
  frontendCallbacks := h.frontendCallbacks
  doomed := List.forall_mem_cons.mpr ⟨h.created n hUsed, h.doomed⟩
  created m hm := h.created m (List.mem_filter.mp hm).1

theorem TableInv.destructor (h : TableInv w) (n : Nat) : TableInv (w.destructor n) := by
  have hMem {c : Link} (hc : c ∈ (w.destructor n).hub.connections) : c ∈ w.hub.connections :=
    (Hub.mem_connections_disconnect_iff.mp (Hub.mem_connections_destroy_iff.mp hc).1).1
  constructor
  · exact (h.attached.disconnect _ _).destroy _
  · exact Hub.mem_live_destroy_iff.mpr ⟨h.apiClient, Object.noConfusion⟩
  · exact fun c hc => h.owner c (hMem hc)
  · exact fun c hc => (h.known c (hMem hc)).mono le_rfl (List.prefix_refl _)
  · exact fun c hc => h.posted c (Hub.mem_posted_destroy_iff.mp hc).1
  · exact h.requester
  · exact fun m hm signal hSignal =>
      (h.refresh m hm signal hSignal).disconnect.destroy Object.noConfusion rfl
  · exact fun k owner hRequest hUnfinished =>
      (h.unfinished k owner hRequest hUnfinished).disconnect.destroy Object.noConfusion rfl

theorem RegistryInv.destructor (h : RegistryInv w) {n : Nat} (hDoomed : n ∈ w.registry.doomed) :
    RegistryInv (w.destructor n) where
  inUse m hm := by
    obtain ⟨hLive, hSafe⟩ := h.inUse m hm
    refine ⟨Hub.mem_live_destroy_iff.mpr ⟨hLive, ?_⟩,
      fun hLater => hSafe (List.mem_filter.mp hLater).1⟩
    rintro ⟨⟩
    exact hSafe hDoomed
  renameSignals := h.renameSignals
  frontendCallbacks m hm := by
    obtain ⟨hOld, hOther⟩ := List.mem_filter.mp hm
    refine Hub.mem_live_destroy_iff.mpr ⟨h.frontendCallbacks m hOld, ?_⟩
    rintro ⟨⟩
    exact absurd rfl (of_decide_eq_true hOther)
  doomed m hm := h.doomed m (List.mem_filter.mp hm).1
  created := h.created

theorem TableInv.deleteInvoker (h : TableInv w) {k : Nat} (hFinished : k ∈ w.finished) :
    TableInv { w with hub := w.hub.destroy (.invoker k) } where
  attached := h.attached.destroy _
  apiClient := Hub.mem_live_destroy_iff.mpr ⟨h.apiClient, Object.noConfusion⟩
  owner c hc := h.owner c (Hub.mem_connections_destroy_iff.mp hc).1
  known c hc :=
    (h.known c (Hub.mem_connections_destroy_iff.mp hc).1).mono le_rfl (List.prefix_refl _)
  posted c hc := h.posted c (Hub.mem_posted_destroy_iff.mp hc).1
  requester := h.requester
  refresh n hn signal hSignal := (h.refresh n hn signal hSignal).destroy Object.noConfusion rfl
  unfinished k' owner hRequest hUnfinished := by
    refine (h.unfinished k' owner hRequest hUnfinished).destroy ?_ rfl
    rintro ⟨⟩
    exact hUnfinished hFinished

theorem RegistryInv.deleteInvoker (h : RegistryInv w) (k : Nat) :
    RegistryInv { w with hub := w.hub.destroy (.invoker k) } where
  inUse n hn :=
    ⟨Hub.mem_live_destroy_iff.mpr ⟨(h.inUse n hn).1, Object.noConfusion⟩, (h.inUse n hn).2⟩
  renameSignals := h.renameSignals
  frontendCallbacks n hn :=
    Hub.mem_live_destroy_iff.mpr ⟨h.frontendCallbacks n hn, Object.noConfusion⟩
  doomed := h.doomed
  created := h.created

theorem TableInv.unpost (h : TableInv w) (index : Nat) :
    TableInv { w with hub := w.hub.unpost index } where
  attached := h.attached.unpost index
  apiClient := h.apiClient
  owner := h.owner
  known c hc := (h.known c hc).mono le_rfl (List.prefix_refl _)
  posted c hc := h.posted c (List.mem_of_mem_eraseIdx hc)
  requester := h.requester
  refresh := h.refresh
  unfinished := h.unfinished

theorem TableInv.finish (h : TableInv w) (k : Nat) :
    TableInv { w with finished := k :: w.finished } where
  attached := h.attached
  apiClient := h.apiClient
  owner := h.owner
  known c hc := (h.known c hc).mono le_rfl (List.prefix_refl _)
  posted := h.posted
  requester := h.requester
  refresh := h.refresh
  unfinished k' owner hRequest hUnfinished :=
    h.unfinished k' owner hRequest fun hBefore => hUnfinished (List.mem_cons_of_mem _ hBefore)

end Table

/-- Besides keeping the invariants, a step runs a handler of a destroyed source exactly if it does
not meet the condition. -/
theorem step_spec {w w' : Runtime} {e : Event} (hInv : Inv w) (hStep : w.step e = some w') :
    Inv w' ∧ (OwnersAlive w' ↔ SourcesOutlast w e ∧ OwnersAlive w) := by
  obtain ⟨h, hRegistry⟩ := hInv
  have hTrue {P : Prop} : P ↔ True ∧ P := ⟨fun hP => ⟨trivial, hP⟩, And.right⟩
  cases e with
  | create =>
    obtain rfl := Option.some.inj hStep
    exact ⟨⟨h.construct, hRegistry.construct⟩, hTrue⟩
  | update n env =>
    obtain ⟨hUsed, ⟨⟩⟩ := Option.ite_none_right_eq_some.mp hStep
    -- the callback, then the signal that it emits
    have hRun := h.runHandler env .updateCallback ⟨n, rfl⟩
    have hExtends := (extends_runHandler env .updateCallback (.source n) w).trans
      (extends_emit env (.source n) .settingsUpdate _)
    refine ⟨⟨hRun.emit env _ _, hRegistry.of_extends hExtends⟩, ?_⟩
    rw [ownersAlive_settingsUpdate_iff hRun, ownersAlive_runHandler_iff,
      and_iff_right (hRegistry.inUse n hUsed).1]
    exact hTrue
  | reload n env =>
    obtain ⟨hUsed, ⟨⟩⟩ := Option.ite_none_right_eq_some.mp hStep
    refine ⟨⟨h.runHandler env _ ⟨n, rfl⟩, hRegistry.of_extends (extends_runHandler env _ _ w)⟩, ?_⟩
    rw [ownersAlive_runHandler_iff, and_iff_right (hRegistry.inUse n hUsed).1]
    exact hTrue
  | rename n env =>
    obtain ⟨hConnected, ⟨⟩⟩ := Option.ite_none_right_eq_some.mp hStep
    have hUsed := hRegistry.renameSignals n hConnected
    refine ⟨⟨h.runHandler env _ ⟨n, rfl⟩, hRegistry.of_extends (extends_runHandler env _ _ w)⟩, ?_⟩
    rw [ownersAlive_runHandler_iff, and_iff_right (hRegistry.inUse n hUsed).1]
    exact hTrue
  | frontendEvent env =>
    obtain rfl := Option.some.inj hStep
    obtain ⟨hTable, hExtends, hAlive⟩ := frontendEvent_spec env h hRegistry.frontendCallbacks
    exact ⟨⟨hTable, hRegistry.of_extends hExtends⟩, hAlive.trans hTrue⟩
  | destroy n =>
    obtain ⟨hUsed, ⟨⟩⟩ := Option.ite_none_right_eq_some.mp hStep
    refine ⟨⟨{ h with known := fun c hc => ?_ }, hRegistry.destroyCallback hUsed⟩, hTrue⟩
    exact (h.known c hc).mono le_rfl (List.prefix_refl _)
  | deferredDelete o =>
    cases o with
    | apiClient => cases hStep
    | source n =>
      obtain ⟨hDoomed, ⟨⟩⟩ := Option.ite_none_right_eq_some.mp hStep
      exact ⟨⟨h.destructor n, hRegistry.destructor hDoomed⟩, hTrue⟩
    | invoker k =>
      obtain ⟨hFinished, ⟨⟩⟩ := Option.ite_none_right_eq_some.mp hStep
      exact ⟨⟨h.deleteInvoker hFinished, hRegistry.deleteInvoker k⟩, hTrue⟩
  | postedCall index env =>
    obtain ⟨c, hPosted, rfl⟩ := Option.map_eq_some_iff.mp hStep
    have hMem := List.mem_of_getElem? hPosted
    obtain ⟨hContext, hOwner⟩ := h.posted c hMem
    have hExtends : Extends w { w with hub := w.hub.unpost index } := extends_of_hub rfl rfl rfl
    refine ⟨⟨(h.unpost index).runHandler env c.handler hOwner, hRegistry.of_extends
      (hExtends.trans (extends_runHandler env c.handler c.owner _))⟩, ?_⟩
    -- a posted call has a context, and goes with it
    have hLive := h.attached.posted c hMem c.owner hContext
    exact ownersAlive_runHandler_iff.trans ((and_iff_right hLive).trans hTrue)
  | apiSignal signal env =>
    obtain rfl := Option.some.inj hStep
    -- here functors without a context run, and the condition comes in
    exact ⟨⟨h.emit env _ _, hRegistry.of_extends (extends_emit env _ _ w)⟩,
      ownersAlive_apiSignal_iff h⟩
  | finish k env =>
    obtain ⟨⟨-, hUnfinished⟩, ⟨⟩⟩ := Option.ite_none_right_eq_some.mp hStep
    refine ⟨⟨(h.emit env _ _).finish k, ?_⟩, ownersAlive_finished_iff h hUnfinished⟩
    exact (hRegistry.of_extends (extends_emit env (.invoker k) .finished w)).of_extends
      (extends_of_hub rfl rfl rfl)

theorem initial_table : TableInv {} where
  attached := ⟨List.forall_mem_nil _, List.forall_mem_nil _, List.forall_mem_nil _⟩
  apiClient := List.mem_cons_self
  owner := List.forall_mem_nil _
  known := List.forall_mem_nil _
  posted := List.forall_mem_nil _
  requester := List.forall_mem_nil _
  refresh n hn := (Nat.not_lt_zero n hn).elim
  unfinished k owner hRequest := by simp at hRequest

theorem initial_registry : RegistryInv {} where
  inUse := List.forall_mem_nil _
  renameSignals := List.forall_mem_nil _
  frontendCallbacks := List.forall_mem_nil _
  doomed := List.forall_mem_nil _
  created := List.forall_mem_nil _

/-- A run never calls a destroyed source exactly if all its steps meet the condition. -/
theorem ownersAlive_iff_outlast (x : Execution step) (hInitial : x.state 0 = {}) :
    (∀ n, OwnersAlive (x.state n)) ↔
      ∀ n e, x.event n = some e → SourcesOutlast (x.state n) e := by
  have hInv (n : Nat) : Inv (x.state n) := by
    have hAny (n : Nat) (e : Event) (_ : x.event n = some e) : anyStep (x.state n) e := trivial
    refine x.invariant hAny ?_ (fun w e w' hInv _ hStep => (step_spec hInv hStep).1) n
    rw [hInitial]
    exact ⟨initial_table, initial_registry⟩
  have hStart : OwnersAlive (x.state 0) := by
    rw [hInitial]
    exact List.forall_mem_nil _
  refine x.always_iff hStart fun n e hEvent hAlive => ?_
  obtain ⟨-, hNext⟩ := step_spec (hInv n) (x.next_of_event hEvent)
  exact hNext.trans (and_iff_left hAlive)

def linked : Environment := { token := true, licenseValid := true, remote := fun _ => false }

/-- The request of a settings update finishes before its source is destroyed. -/
theorem ownersAlive_iff_outlast_update :
    ∃ x : Execution step, (x.state 3).ran.map Ran.handler =
        [.onUpdateFinished, .onSettingsUpdate, .updateCallback] ∧
      ∀ n, OwnersAlive (x.state n) := by
  refine ⟨Execution.ofRun step {} [.create, .update 0 linked, .finish 0 linked] (by decide),
    by decide, (ownersAlive_iff_outlast _ rfl).mpr ?_⟩
  rintro (_ | _ | _ | n) e hEvent
  · exact Option.some.inj hEvent ▸ trivial
  · exact Option.some.inj hEvent ▸ trivial
  · obtain rfl := Option.some.inj hEvent
    rintro owner ⟨⟩
    decide
  · exact absurd hEvent (Option.some_ne_none e).symm

/-- The ports are refreshed after a source was destroyed. -/
theorem not_ownersAlive : ¬∀ w, Reachable step anyStep (· = {}) w → OwnersAlive w := by
  intro hAll
  have hRun : (run step {} [.create, .destroy 0, .deferredDelete (.source 0),
      .apiSignal .ingressRefreshNeeded linked]).map (fun w => decide (OwnersAlive w)) =
      some false := by decide
  obtain ⟨w, hReached, hDead⟩ := Option.map_eq_some_iff.mp hRun
  exact of_decide_eq_false hDead (hAll w (reachable_of_run _ (.start rfl) hReached))

end Runtime

end SrcLink.SourceLifetime
