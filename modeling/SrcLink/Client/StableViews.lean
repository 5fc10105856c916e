import SrcLink.Client.FrameRule

/-! # Views that the handlers leave alone

A view of the state that does not depend on the caches, the pending requests or
the settings is changed only by what is emitted and sent. The links alone emit
session signals; a view that these and the frames of an event do not concern
survives the step.
-/

namespace SrcLink.ApiClient

open Json

set_option autoImplicit false

structure Stable {β : Type} (ok : Frame → Prop) (π : State → β) : Prop where
  emit : ∀ s signal, sessionSignal signal = none → π (emit s signal) = π s
  send : ∀ s frame, ok frame → π (send s frame) = π s
  requests : ∀ s requests, π { s with requests := requests } = π s
  resources : ∀ s resources, π { s with resources := resources } = π s
  settings : ∀ s settings, π { s with settings := settings } = π s
  websocket : ∀ s websocket, π { s with websocket := websocket } = π s
  signalsBlocked : ∀ s block, π { s with signalsBlocked := block } = π s
  terminating : ∀ s terminating, π { s with terminating := terminating } = π s
  uplinkStatus : ∀ s status, π { s with uplinkStatus := status } = π s
  outputs : ∀ s active standBy,
    π { s with activeOutputs := active, standByOutputs := standBy } = π s
  tokens : ∀ s linked refreshToken,
    π { s with linked := linked, refreshToken := refreshToken } = π s

namespace Stable

variable {β : Type} {ok : Frame → Prop} {π : State → β} {s : State}

theorem request (h : Stable ok π) (s : State) (r : Request) : π (request s r) = π s := by
  unfold ApiClient.request
  split
  · exact h.requests s _
  · rfl

theorem frameRule (h : Stable ok π) : FrameRule ok True True fun s t => π t = π s where
  refl _ := rfl
  trans hFirst hRest := hRest.trans hFirst
  emit := h.emit
  send := h.send
  request s r _ := h.request s r
  refresh s := h.requests s _
  putUplink _ s _ := h.request s _
  syncUplinkStatus _ s force := by
    unfold ApiClient.syncUplinkStatus
    split
    · rfl
    · split
      · exact (h.request _ _).trans (h.uplinkStatus s _)
      · rfl
  resources := h.resources
  settings := h.settings
  signalsBlocked := h.signalsBlocked
  start s := h.websocket s _

theorem perform (h : Stable ok π) (s : State) (c : Call) : π (perform s c) = π s := by
  cases c with
  | syncOnlineResources => exact foldl_keeps π h.request _ s
  | syncUplinkStatus force => exact h.frameRule.syncUplinkStatus trivial s force
  | terminate => exact (h.request _ _).trans ((h.resources _ _).trans (h.terminating s true))
  | refresh => exact h.requests s _
  | countActiveOutputs | countStandByOutputs => exact h.outputs s _ _
  | setParticipantId | setPartyId => exact h.settings s _
  | _ => exact h.request s _

theorem step (h : Stable ok π) {e : Event} {s' : State} (hStep : step s e = some s')
    (hSends : ∀ f, Sends s e f → ok f) (hRelinks : ¬Relinks s e) : π s' = π s := by
  cases e with
  | call c =>
    obtain rfl := Option.some.inj hStep
    exact h.perform s c
  | reply i error body =>
    obtain ⟨r, hRequest, rfl⟩ := Option.map_eq_some_iff.mp hStep
    have hFinished := h.frameRule.onFinished hRequest hSends (fun _ => trivial) hRelinks
      (t := { s with requests := s.requests.eraseIdx i }) rfl rfl
    exact hFinished.trans (h.requests s _)
  | textMessage m =>
    obtain rfl := Option.some.inj hStep
    exact h.frameRule.onTextMessageReceived hSends (fun _ => trivial) fun _ => trivial
  | linkingSucceeded => exact (hRelinks trivial).elim
  | linkingFailed =>
    obtain rfl := Option.some.inj hStep
    exact (h.emit _ _ rfl).trans (h.websocket s _)
  | socketConnected =>
    obtain rfl := Option.some.inj hStep
    exact h.websocket s _
  | socketDisconnected =>
    obtain rfl := Option.some.inj hStep
    simp only [onDisconnected]
    split
    · exact h.websocket s _
    · exact (h.emit _ _ rfl).trans (h.websocket s _)
  | tokensStored linked refreshToken =>
    obtain rfl := Option.some.inj hStep
    exact h.tokens s linked refreshToken

end Stable

end SrcLink.ApiClient
