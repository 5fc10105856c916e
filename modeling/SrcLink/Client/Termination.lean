import SrcLink.Client.UplinkReports

/-! # After `terminate`

`terminate` sets a flag that the reply slots of the uplink requests test. The
messages for parts of the uplink and the callers of `putUplink` do not test it:
they can restore the uplink that `terminate` deletes.
-/

namespace SrcLink.ApiClient

open Json Schema Schema.WebSocketMessage StepSystem

set_option autoImplicit false

/-- Whether an event is a message with a valid part of the uplink. -/
def BringsUplink : Event → Prop
  | .textMessage m =>
    IsChange m ∧
      (getName m = "uplink.allocations" ∧ StageSeatAllocation.isValid (getPayload m) ∨
        getName m = "uplink.stages" ∧ Stage.isValid (getPayload m) ∨
        getName m = "uplink.connections" ∧ StageConnection.isValid (getPayload m))
  | _ => False

theorem bringsUplink_of_fieldNamed {m : QJsonObject} {f : Field} (hChange : IsChange m)
    (hName : Field.named (getName m) = some f) (hValid : f.isValid (getPayload m))
    (hNone : ¬BringsUplink (.textMessage m)) (r : Resources) (payload : QJsonObject) :
    (f.store r payload).uplink = r.uplink := by
  unfold Field.named at hName
  split at hName
  · next hField =>
    obtain rfl := Option.some.inj hName
    exact (hNone ⟨hChange, .inl ⟨hField, hValid⟩⟩).elim
  · next hField =>
    obtain rfl := Option.some.inj hName
    exact (hNone ⟨hChange, .inr (.inl ⟨hField, hValid⟩)⟩).elim
  all_goals first | cases hName; done | (obtain rfl := Option.some.inj hName; rfl)

/-- While the client terminates, an empty uplink stays empty unless a message brings a part. -/
theorem uplink_of_update {s : State} {e : Event} {r : Resources} (hUpdate : Update s e r)
    (hTerminating : s.terminating = true) (hEmpty : s.resources.uplink = [])
    (hNone : ¬BringsUplink e) : r.uplink = [] := by
  cases hUpdate with
  | uplink _ _ hRunning => cases hTerminating.symm.trans hRunning
  | unlinked | cleared | deletedUplink | terminated => rfl
  | @collectionChanged k m hChange hName hValid =>
    cases k with
    | uplinkConnections => exact (hNone ⟨hChange, .inr (.inr ⟨hName, hValid⟩)⟩).elim
    | stages | participants | wsPortals => exact hEmpty
  | fieldChanged hChange hName hValid =>
    exact (bringsUplink_of_fieldNamed hChange hName hValid hNone _ _).trans hEmpty
  | @collectionRemoved k m hRemoval hName hContains =>
    cases k with
    | uplinkConnections =>
      simp [Kind.collection, Collection.contains, Collection.uplinkConnections, hEmpty,
        UplinkInfo.getConnections, QJsonValue.toArray, TypedJsonArray.findIndex] at hContains
    | stages | participants | wsPortals => exact hEmpty
  | uplinkFieldRemoved =>
    rw [hEmpty]
    rfl
  | _ => exact hEmpty

structure TerminationFinal (w : Reporting) : Prop where
  uplink : w.client.terminating = true → w.client.resources.uplink = []
  reports : ∀ r ∈ w.reports, r.terminating = false

namespace Reporting

/-- While the client terminates no message brings a part of the uplink, and `putUplink` is not
called unless the refresh token is gone. -/
def Inert (w : Reporting) (e : Event) : Prop :=
  w.client.terminating = true →
    ¬BringsUplink e ∧ (PutsUplink w.client e → w.client.refreshToken = false)

variable {w w' : Reporting} {e : Event}

theorem initial_terminationFinal (hInitial : Initial w) : TerminationFinal w := by
  obtain ⟨s, ⟨uuid, settings, linked, refreshToken, expired, rfl⟩, rfl⟩ := hInitial
  refine ⟨fun _ => ?_, List.forall_mem_nil _⟩
  cases expired <;> cases refreshToken <;> rfl

theorem step_uplink (h : TerminationFinal w) (hGuard : Inert w e) (hStep : w.step e = some w')
    (hTerminating : w'.client.terminating = true) : w'.client.resources.uplink = [] := by
  obtain ⟨client, hClient, rfl⟩ := Option.map_eq_some_iff.mp hStep
  by_cases hBefore : w.client.terminating = true
  · exact uplink_of_update (step_update hClient) hBefore (h.uplink hBefore) (hGuard hBefore).1
  · have hSet : (handling w.client e).terminating = true :=
      (step_reported hClient).terminating.symm.trans hTerminating
    cases e with
    | call c =>
      cases c with
      | terminate =>
        obtain rfl := Option.some.inj hClient
        exact congrArg Resources.uplink (request_resources _ _)
      | _ => exact (hBefore hSet).elim
    | _ => exact (hBefore hSet).elim

theorem not_syncsUplink {s : State} (hEmpty : s.resources.uplink = []) (e : Event) :
    syncsUplink s e = false := by
  cases e with
  | call c => cases c <;> simp [syncsUplink, hEmpty]
  | textMessage m => simp [syncsUplink, hEmpty]
  | _ => rfl

theorem step_terminationFinal (h : TerminationFinal w) (hGuard : Inert w e)
    (hStep : w.step e = some w') : TerminationFinal w' := by
  constructor
  · exact step_uplink h hGuard hStep
  · intro r hr
    rcases mem_reports hStep hr with hOld | ⟨⟨-, -, hMade⟩, hNew⟩
    · exact h.reports r hOld
    · rw [hMade]
      refine Bool.eq_false_of_not_eq_true fun hTerminating => ?_
      rcases hNew with ⟨⟨hPuts, hToken⟩, -⟩ | ⟨hSyncs, -⟩
      · exact absurd hToken (by simp [(hGuard hTerminating).2 hPuts])
      · exact absurd hSyncs (by simp [not_syncsUplink (h.uplink hTerminating)])

end Reporting

open Reporting

theorem termination_final {w : Reporting} (h : Reachable Reporting.step Inert Initial w) :
    TerminationFinal w :=
  h.invariant (fun _ => initial_terminationFinal) fun _ _ _ => step_terminationFinal

/-- Terminating before the account information arrives: its request then fails. -/
theorem termination_final_failed :
    ∃ w : Reporting, w.client.terminating = true ∧ TerminationFinal w := by
  have hTerminating : Reachable Reporting.step Inert Initial _ :=
    .next (e := Event.call .terminate) (.start freshClient_initial) (fun h => nomatch h) rfl
  have hFailed := Reachable.next (e := Event.reply 0 (.other 1) .undefined) hTerminating
    (fun _ => ⟨id, fun hPuts => nomatch hPuts⟩) rfl
  exact ⟨_, rfl, termination_final hFailed⟩

/-- The account information arrives after `terminate`, and the session puts the uplink. -/
theorem not_termination_final :
    ¬∀ w, Reachable Reporting.step anyStep Initial w → TerminationFinal w := by
  intro hAll
  have hRun : Reachable Reporting.step anyStep Initial _ := reachable_of_run
    [Event.call .terminate, .reply 0 .noError .undefined] (.start freshClient_initial) rfl
  exact absurd ((hAll _ hRun).reports _ (List.mem_singleton_self _)) (by decide)

end SrcLink.ApiClient
