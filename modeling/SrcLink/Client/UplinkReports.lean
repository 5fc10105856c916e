import SrcLink.Client.FrameRule

/-! # What the client reports about its outputs

`putUplink` and `putUplinkStatus` send the cached status, which `syncUplinkStatus`
computes from the output counters, but only while there is an uplink.
`Reported` says what an event can do to the status, the counters and the pending
reports; the runs below remember every report with the counters it was made at.
-/

namespace SrcLink.ApiClient

open Json StepSystem

set_option autoImplicit false

/-- What an event sets before any request of its is created. -/
def handling (s : State) : Event → State
  | .reply position _ _ => { s with requests := s.requests.eraseIdx position }
  | .call .terminate => { s with terminating := true }
  | .call (.countActiveOutputs change) => { s with activeOutputs := s.activeOutputs + change }
  | .call (.countStandByOutputs change) => { s with standByOutputs := s.standByOutputs + change }
  | _ => s

/-- The requests that an event has created. -/
def issued (s : State) (e : Event) (s' : State) : List Request :=
  s'.requests.drop (handling s e).requests.length

def Reports (body : QJsonObject) (status : UplinkStatus) : Prop :=
  body.value "uplink_status" = .string status.toString

structure Reported (puts syncs : Prop) (s t : State) : Prop where
  activeOutputs : t.activeOutputs = s.activeOutputs
  standByOutputs : t.standByOutputs = s.standByOutputs
  terminating : t.terminating = s.terminating
  uplinkStatus : t.uplinkStatus = s.uplinkStatus ∨ syncs ∧ t.uplinkStatus = nextUplinkStatus s
  requests : ∃ new, t.requests = s.requests ++ new ∧
    ∀ r ∈ new, ∀ body, r.uplinkBody = some body →
      puts ∧ Reports body s.uplinkStatus ∨ syncs ∧ Reports body (nextUplinkStatus s)

namespace Reported

variable {puts syncs : Prop} {s t u : State}

theorem nextUplinkStatus_eq (h : Reported puts syncs s t) :
    nextUplinkStatus t = nextUplinkStatus s := by
  rw [nextUplinkStatus, nextUplinkStatus, h.activeOutputs, h.standByOutputs]

theorem silent (hActive : t.activeOutputs = s.activeOutputs)
    (hStandBy : t.standByOutputs = s.standByOutputs) (hTerminating : t.terminating = s.terminating)
    (hStatus : t.uplinkStatus = s.uplinkStatus) (new : List Request)
    (hRequests : t.requests = s.requests ++ new) (hNew : ∀ r ∈ new, r.uplinkBody = none) :
    Reported puts syncs s t where
  activeOutputs := hActive
  standByOutputs := hStandBy
  terminating := hTerminating
  uplinkStatus := .inl hStatus
  requests := ⟨new, hRequests, fun r hr _ hBody => nomatch (hNew r hr).symm.trans hBody⟩

theorem same (hActive : t.activeOutputs = s.activeOutputs)
    (hStandBy : t.standByOutputs = s.standByOutputs) (hTerminating : t.terminating = s.terminating)
    (hStatus : t.uplinkStatus = s.uplinkStatus) (hRequests : t.requests = s.requests) :
    Reported puts syncs s t :=
  silent hActive hStandBy hTerminating hStatus [] (by rw [hRequests, List.append_nil])
    (List.forall_mem_nil _)

theorem refl (s : State) : Reported puts syncs s s := same rfl rfl rfl rfl rfl

theorem trans (h : Reported puts syncs s t) (h' : Reported puts syncs t u) :
    Reported puts syncs s u where
  activeOutputs := h'.activeOutputs.trans h.activeOutputs
  standByOutputs := h'.standByOutputs.trans h.standByOutputs
  terminating := h'.terminating.trans h.terminating
  uplinkStatus := by
    rcases h'.uplinkStatus with hKept | ⟨hSyncs, hNext⟩
    · exact hKept ▸ h.uplinkStatus
    · exact .inr ⟨hSyncs, hNext.trans h.nextUplinkStatus_eq⟩
  requests := by
    obtain ⟨new, hRequests, hNew⟩ := h.requests
    obtain ⟨new', hRequests', hNew'⟩ := h'.requests
    refine ⟨new ++ new', by rw [hRequests', hRequests, List.append_assoc], ?_⟩
    intro r hr body hBody
    rcases List.mem_append.mp hr with hFirst | hLater
    · exact hNew r hFirst body hBody
    · rcases hNew' r hLater body hBody with ⟨hPuts, hReports⟩ | ⟨hSyncs, hReports⟩
      · rcases h.uplinkStatus with hKept | ⟨hSyncs, hNext⟩
        · exact .inl ⟨hPuts, hKept ▸ hReports⟩
        · exact .inr ⟨hSyncs, hNext ▸ hReports⟩
      · exact .inr ⟨hSyncs, h.nextUplinkStatus_eq ▸ hReports⟩

theorem weaken {puts' syncs' : Prop} (h : Reported puts syncs s t) (hPuts : puts → puts')
    (hSyncs : syncs → syncs') : Reported puts' syncs' s t where
  activeOutputs := h.activeOutputs
  standByOutputs := h.standByOutputs
  terminating := h.terminating
  uplinkStatus := h.uplinkStatus.imp_right (And.imp_left hSyncs)
  requests := by
    obtain ⟨new, hRequests, hNew⟩ := h.requests
    exact ⟨new, hRequests, fun r hr body hBody =>
      (hNew r hr body hBody).imp (And.imp_left hPuts) (And.imp_left hSyncs)⟩

theorem emit (s : State) (signal : Signal) : Reported puts syncs s (emit s signal) := by
  unfold ApiClient.emit
  split
  · exact refl s
  · exact same rfl rfl rfl rfl rfl

theorem request (s : State) {r : Request} (hOther : r.uplinkBody = none) :
    Reported puts syncs s (request s r) := by
  unfold ApiClient.request
  split
  · exact silent rfl rfl rfl rfl [r] rfl (List.forall_mem_singleton.mpr hOther)
  · exact refl s

theorem put (hPuts : s.refreshToken = true → puts) {r : Request}
    (hBody : ∀ body, r.uplinkBody = some body → Reports body s.uplinkStatus) :
    Reported puts syncs s (ApiClient.request s r) := by
  unfold ApiClient.request
  split
  · next hToken =>
    refine ⟨rfl, rfl, rfl, .inl rfl, [r], rfl, List.forall_mem_singleton.mpr fun body hSome => ?_⟩
    exact .inl ⟨hPuts hToken, hBody body hSome⟩
  · exact refl s

theorem putUplink (hPuts : s.refreshToken = true → puts) (startsWebSocket : Bool) :
    Reported puts syncs s (putUplink s startsWebSocket) := by
  apply put hPuts
  rintro body hBody
  obtain rfl := Option.some.inj hBody
  rfl

theorem putUplinkStatus (hPuts : s.refreshToken = true → puts) :
    Reported puts syncs s (putUplinkStatus s) := by
  apply put hPuts
  rintro body hBody
  obtain rfl := Option.some.inj hBody
  rfl

theorem syncUplinkStatus (hSyncs : syncs) (s : State) (force : Bool) :
    Reported puts syncs s (syncUplinkStatus s force) := by
  unfold ApiClient.syncUplinkStatus
  split
  · exact refl s
  · split
    · unfold ApiClient.putUplinkStatus ApiClient.request
      split
      · refine ⟨rfl, rfl, rfl, .inr ⟨hSyncs, rfl⟩, _, rfl,
          List.forall_mem_singleton.mpr fun body hBody => ?_⟩
        obtain rfl := Option.some.inj hBody
        exact .inr ⟨hSyncs, rfl⟩
      · exact ⟨rfl, rfl, rfl, .inr ⟨hSyncs, rfl⟩, [], (List.append_nil _).symm,
          List.forall_mem_nil _⟩
    · exact refl s

/-- Reports are created only while there is a refresh token, which the handlers leave alone. -/
theorem frameRule (puts syncs : Prop) :
    FrameRule (fun _ => True) puts syncs fun s t =>
      t.refreshToken = s.refreshToken ∧ Reported (puts ∧ s.refreshToken = true) syncs s t where
  refl s := ⟨rfl, refl s⟩
  trans h h' := ⟨h'.1.trans h.1, h.2.trans (h.1 ▸ h'.2)⟩
  emit s signal _ := ⟨emit_refreshToken s signal, emit s signal⟩
  send s frame _ := by
    refine ⟨send_refreshToken s frame, ?_⟩
    unfold send
    split
    · exact same rfl rfl rfl rfl rfl
    · exact refl s
  request s r hOther := ⟨request_refreshToken s r, request s hOther⟩
  refresh s := ⟨rfl, silent rfl rfl rfl rfl [.refresh] rfl (List.forall_mem_singleton.mpr rfl)⟩
  putUplink hPuts s startsWebSocket :=
    ⟨request_refreshToken s _, putUplink (fun hToken => ⟨hPuts, hToken⟩) startsWebSocket⟩
  syncUplinkStatus hSyncs s force :=
    ⟨syncUplinkStatus_refreshToken s force, syncUplinkStatus hSyncs s force⟩
  resources _ _ := ⟨rfl, same rfl rfl rfl rfl rfl⟩
  settings _ _ := ⟨rfl, same rfl rfl rfl rfl rfl⟩
  signalsBlocked _ _ := ⟨rfl, same rfl rfl rfl rfl rfl⟩
  start _ := ⟨rfl, same rfl rfl rfl rfl rfl⟩

theorem onO2LinkingSucceeded (s : State) : Reported puts syncs s (onO2LinkingSucceeded s) := by
  simp only [ApiClient.onO2LinkingSucceeded]
  split
  · split
    · split
      · exact (request s rfl).trans (emit _ _)
      · exact emit s _
    · exact refl s
  · exact (same rfl rfl rfl rfl rfl : Reported puts syncs s
      (clearOnlineResources { s with websocket := s.websocket.stop })).trans (emit _ _)

theorem unlink (s : State) : Reported puts syncs s (unlink s) :=
  (same rfl rfl rfl rfl rfl : Reported puts syncs s
    { s with linked := false, refreshToken := false }).trans (onO2LinkingSucceeded _)

end Reported

section Steps

variable {s s' : State} {e : Event}

theorem step_reported (hStep : step s e = some s') :
    Reported (PutsUplink s e ∧ s.refreshToken = true) (syncsUplink s e) (handling s e) s' := by
  have h := Reported.frameRule (PutsUplink s e) (syncsUplink s e)
  cases e with
  | call c =>
    obtain rfl := Option.some.inj hStep
    cases c with
    | putUplink => exact .putUplink (fun hToken => ⟨.called (.inl rfl), hToken⟩) false
    | putUplinkStatus => exact .putUplinkStatus fun hToken => ⟨.called (.inr rfl), hToken⟩
    | syncUplinkStatus force =>
      exact (h.sync s force fun hUplink => by simp [syncsUplink, hUplink]).2
    | syncOnlineResources =>
      -- requests for lists report nothing
      have hPlain : ∀ r ∈ [Request.parties, .partyEvents, .participants, .stages],
          r.uplinkBody = none := by simp [Request.uplinkBody]
      exact (h.foldl s fun t r hr => h.request t r (hPlain r hr)).2
    | refresh => exact (h.refresh s).2
    | terminate =>
      have hCleared := h.resources (handling s (.call .terminate))
        { s.resources with uplink := [] }
      exact hCleared.2.trans (.request _ rfl)
    | countActiveOutputs | countStandByOutputs => exact .refl _
    | setParticipantId | setPartyId => exact (h.settings s _).2
    | _ => exact .request s rfl
  | reply i error body =>
    obtain ⟨r, hRequest, rfl⟩ := Option.map_eq_some_iff.mp hStep
    -- the frame rule leaves out the reply that unlinks
    by_cases hRelinks : Relinks s (.reply i error body)
    · obtain ⟨parallel, hUnlinks⟩ := hRelinks
      obtain rfl := Option.some.inj (hRequest.symm.trans hUnlinks)
      have hReply := h.onDeleteUplinkReply (handling s (.reply i error body)) error
        fun _ => trivial
      exact hReply.2.trans (.unlink _)
    · exact (h.onFinished hRequest (fun _ _ => trivial) id hRelinks rfl rfl
        (t := handling s (.reply i error body))).2
  | textMessage m =>
    obtain rfl := Option.some.inj hStep
    exact (h.onTextMessageReceived (fun _ _ => trivial) id id).2
  | linkingSucceeded =>
    obtain rfl := Option.some.inj hStep
    exact .onO2LinkingSucceeded s
  | linkingFailed =>
    obtain rfl := Option.some.inj hStep
    have hStopped : Reported (PutsUplink s .linkingFailed ∧ s.refreshToken = true)
        (syncsUplink s .linkingFailed) s { s with websocket := s.websocket.stop } :=
      .same rfl rfl rfl rfl rfl
    exact hStopped.trans (.emit _ _)
  | socketConnected | tokensStored =>
    obtain rfl := Option.some.inj hStep
    exact .same rfl rfl rfl rfl rfl
  | socketDisconnected =>
    obtain rfl := Option.some.inj hStep
    simp only [onDisconnected]
    split
    · exact .same rfl rfl rfl rfl rfl
    · have hClosed : Reported (PutsUplink s .socketDisconnected ∧ s.refreshToken = true)
          (syncsUplink s .socketDisconnected) s
          { s with websocket := { s.websocket with valid := false } } :=
        .same rfl rfl rfl rfl rfl
      exact hClosed.trans (.emit _ _)

theorem syncUplinkStatus_status (hUplink : s.resources.uplink.isEmpty = false) (force : Bool) :
    (syncUplinkStatus s force).uplinkStatus = nextUplinkStatus s := by
  unfold syncUplinkStatus
  rw [if_neg (by simp [hUplink])]
  split
  · unfold putUplinkStatus request
    split <;> rfl
  · next hSame =>
    simp only [Bool.or_eq_true, not_or, bne_iff_ne, ne_eq, not_not] at hSame
    exact hSame.2.symm

theorem resumed_reported (s : State) (reconnect : Bool) (uuids : List String) :
    Reported False False s (uuids.foldl (resumeDownlink reconnect)
      ((readyTopics s reconnect).foldl (fun s topic => subscribe s topic.1 topic.2) s)) := by
  have h := Reported.frameRule False False
  have hTopics := h.subscribeTopics s fun topic (_ : topic ∈ readyTopics s reconnect) => trivial
  have hDownlinks := h.foldl (f := resumeDownlink reconnect)
    ((readyTopics s reconnect).foldl (fun s topic => subscribe s topic.1 topic.2) s)
    fun t uuid (_ : uuid ∈ uuids) => h.resumeDownlink t reconnect trivial
  exact (h.trans hTopics hDownlinks).2.weaken (fun h => h.1) id

theorem step_synchronised (hStep : step s e = some s') (hSyncs : syncsUplink s e = true) :
    s'.uplinkStatus = nextUplinkStatus s := by
  cases e with
  | call c =>
    cases c with
    | syncUplinkStatus force =>
      obtain rfl := Option.some.inj hStep
      exact syncUplinkStatus_status (by simpa [syncsUplink] using hSyncs) force
    | _ => cases hSyncs
  | textMessage m =>
    simp only [syncsUplink, Bool.and_eq_true, decide_eq_true_eq, Bool.not_eq_true'] at hSyncs
    obtain ⟨⟨hEvent, hReconnect⟩, hUplink⟩ := hSyncs
    obtain rfl := Option.some.inj hStep
    simp only [onTextMessageReceived, hEvent, onWebSocketReady, hReconnect, decide_true, if_true]
    rw [emit_uplinkStatus, syncUplinkStatus_status, (resumed_reported s true _).nextUplinkStatus_eq]
    rwa [foldl_keeps State.resources (resumeDownlink_resources true), subscribeTopics_resources]
  | _ => cases hSyncs

theorem handling_uplinkStatus (s : State) (e : Event) :
    (handling s e).uplinkStatus = s.uplinkStatus := by
  unfold handling
  split <;> rfl

theorem nextUplinkStatus_handling (hSyncs : syncsUplink s e = true) :
    nextUplinkStatus (handling s e) = nextUplinkStatus s := by
  cases e with
  | call c => cases c <;> first | cases hSyncs | rfl
  | _ => rfl

theorem step_uplinkStatus (hStep : step s e = some s') (hSyncs : syncsUplink s e = false) :
    s'.uplinkStatus = s.uplinkStatus := by
  rcases (step_reported hStep).uplinkStatus with hKept | ⟨hSynced, _⟩
  · exact hKept.trans (handling_uplinkStatus s e)
  · exact absurd hSynced (by simp [hSyncs])

/-- A report of an event carries the cached status, or the one it has just computed. -/
theorem issued_reports (hStep : step s e = some s') {r : Request} (hr : r ∈ issued s e s')
    {body : QJsonObject} (hBody : r.uplinkBody = some body) :
    (PutsUplink s e ∧ s.refreshToken = true) ∧ Reports body s.uplinkStatus ∨
      syncsUplink s e = true ∧ Reports body (nextUplinkStatus s) := by
  obtain ⟨new, hRequests, hNew⟩ := (step_reported hStep).requests
  rw [issued, hRequests, List.drop_left] at hr
  rcases hNew r hr body hBody with ⟨hPuts, hReports⟩ | ⟨hSyncs, hReports⟩
  · exact .inl ⟨hPuts, handling_uplinkStatus s e ▸ hReports⟩
  · exact .inr ⟨hSyncs, nextUplinkStatus_handling hSyncs ▸ hReports⟩

end Steps

structure Report where
  body : QJsonObject
  activeOutputs : Int
  standByOutputs : Int
  terminating : Bool

/-- The status of the guest, by the counters of its outputs. -/
def guestStatus (activeOutputs standByOutputs : Int) : String :=
  if 0 < activeOutputs then "active" else if 0 < standByOutputs then "standby" else "inactive"

def Report.Correct (r : Report) : Prop :=
  r.body.value "uplink_status" = .string (guestStatus r.activeOutputs r.standByOutputs)

theorem nextUplinkStatus_toString (s : State) :
    (nextUplinkStatus s).toString = guestStatus s.activeOutputs s.standByOutputs := by
  unfold nextUplinkStatus guestStatus
  split
  · rfl
  · split <;> rfl

/-- A client with all the reports it has made. -/
structure Reporting where
  client : State
  /-- what the counters gave when `syncUplinkStatus` last ran with an uplink -/
  synchronised : UplinkStatus := .inactive
  /-- newest first -/
  reports : List Report := []

namespace Reporting

def reportsOf (s : State) (requests : List Request) : List Report :=
  requests.filterMap fun r => r.uplinkBody.map fun body =>
    { body := body, activeOutputs := s.activeOutputs, standByOutputs := s.standByOutputs
      terminating := s.terminating }

def step (w : Reporting) (e : Event) : Option Reporting :=
  (ApiClient.step w.client e).map fun client =>
    { client := client
      synchronised :=
        if syncsUplink w.client e then nextUplinkStatus w.client else w.synchronised
      reports := reportsOf w.client (issued w.client e client) ++ w.reports }

def Initial (w : Reporting) : Prop := ∃ s, Constructed s ∧ w = { client := s }

/-- Whenever `putUplink` is called, the counters give what they gave at the last
synchronisation. -/
def PutsSynchronised (w : Reporting) (e : Event) : Prop :=
  PutsUplink w.client e → w.client.refreshToken = true →
    nextUplinkStatus w.client = w.synchronised

variable {w w' : Reporting} {e : Event}

theorem mem_reports (hStep : w.step e = some w') {r : Report} (hr : r ∈ w'.reports) :
    r ∈ w.reports ∨ (r.activeOutputs = w.client.activeOutputs ∧
      r.standByOutputs = w.client.standByOutputs ∧ r.terminating = w.client.terminating) ∧
      ((PutsUplink w.client e ∧ w.client.refreshToken = true) ∧
          Reports r.body w.client.uplinkStatus ∨
        syncsUplink w.client e = true ∧ Reports r.body (nextUplinkStatus w.client)) := by
  obtain ⟨client, hClient, rfl⟩ := Option.map_eq_some_iff.mp hStep
  rcases List.mem_append.mp hr with hNew | hOld
  · obtain ⟨request, hRequest, hMap⟩ := List.mem_filterMap.mp hNew
    obtain ⟨body, hBody, rfl⟩ := Option.map_eq_some_iff.mp hMap
    exact .inr ⟨⟨rfl, rfl, rfl⟩, issued_reports hClient hRequest hBody⟩
  · exact .inl hOld

structure Inv (w : Reporting) : Prop where
  status : w.client.uplinkStatus = w.synchronised
  reports : ∀ r ∈ w.reports, r.Correct

theorem initial_inv (hInitial : Initial w) : Inv w := by
  obtain ⟨s, ⟨uuid, settings, linked, refreshToken, expired, rfl⟩, rfl⟩ := hInitial
  refine ⟨?_, List.forall_mem_nil _⟩
  cases expired <;> cases refreshToken <;> rfl

theorem step_inv (h : Inv w) (hGuard : PutsSynchronised w e) (hStep : w.step e = some w') :
    Inv w' := by
  constructor
  · obtain ⟨client, hClient, rfl⟩ := Option.map_eq_some_iff.mp hStep
    cases hSyncs : syncsUplink w.client e with
    | true => simpa [hSyncs] using step_synchronised hClient hSyncs
    | false => simpa [hSyncs] using (step_uplinkStatus hClient hSyncs).trans h.status
  · intro r hr
    rcases mem_reports hStep hr with hOld | ⟨⟨hActive, hStandBy, -⟩, hNew⟩
    · exact h.reports r hOld
    · have hReports : Reports r.body (nextUplinkStatus w.client) := by
        rcases hNew with ⟨⟨hPuts, hToken⟩, hReports⟩ | ⟨-, hReports⟩
        · rwa [hGuard hPuts hToken, ← h.status]
        · exact hReports
      rw [Report.Correct, hActive, hStandBy, ← nextUplinkStatus_toString]
      exact hReports

end Reporting

open Reporting

theorem report_correct {w : Reporting}
    (h : Reachable Reporting.step PutsSynchronised Initial w) : ∀ r ∈ w.reports, r.Correct := by
  have hInv : Inv w := h.invariant (fun _ => initial_inv) fun _ _ _ => step_inv
  exact hInv.reports

theorem freshClient_initial : Initial { client := freshClient } :=
  ⟨_, freshClient_constructed, rfl⟩

/-- An output stands by while there is an uplink, and the participant is chosen once more. -/
theorem report_correct_standBy :
    ∃ w : Reporting, w.client.standByOutputs = 1 ∧
      w.reports.map (fun r => r.body.value "uplink_status") =
        [.string "standby", .string "standby", .string "inactive"] ∧
      ∀ r ∈ w.reports, r.Correct := by
  have hCached : Reachable Reporting.step PutsSynchronised Initial _ :=
    .next (e := Event.reply 1 .noError (.object uplinkDocument))
      (.next (e := Event.call .putUplink) (.start freshClient_initial) (fun _ _ => rfl) rfl)
      (fun _ _ => rfl) rfl
  have hCounted := Reachable.next (e := Event.call (.countStandByOutputs 1)) hCached
    (fun _ _ => rfl) rfl
  -- the counters are ahead of the cached status, which no report of this event uses
  have hSynchronised := Reachable.next (e := Event.call (.syncUplinkStatus false)) hCounted
    (by rintro ⟨hCall⟩; simp at hCall) rfl
  have hPut := Reachable.next (e := Event.call .putUplink) hSynchronised (fun _ _ => rfl) rfl
  exact ⟨_, rfl, rfl, report_correct hPut⟩

/-- An output stands by before there is an uplink, and the uplink is put as inactive. -/
theorem not_report_correct :
    ¬∀ w, Reachable Reporting.step anyStep Initial w → ∀ r ∈ w.reports, r.Correct := by
  intro hAll
  have hRun : Reachable Reporting.step anyStep Initial _ := reachable_of_run
    [Event.call (.countStandByOutputs 1), .call (.syncUplinkStatus false), .call .putUplink]
    (.start freshClient_initial) rfl
  have hReport := hAll _ hRun _ (List.mem_singleton_self _)
  exact absurd (QJsonValue.string.inj hReport) (by decide)

end SrcLink.ApiClient
