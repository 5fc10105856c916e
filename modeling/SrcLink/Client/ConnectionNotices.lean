import SrcLink.Client.AnsweredRequests
import SrcLink.Client.PartialViews
import SrcLink.Library.Followers

/-! # What the client tells of the cached connections

The connections of the cached downlinks are a store, and the signals of the client announce
what happens to it. Every event performs one operation on the store or none: the replies to
the requests for a downlink, the messages about its connection, and the end of a session.
-/

namespace SrcLink.ApiClient

open Json Schema Schema.WebSocketMessage StepSystem

set_option autoImplicit false

def connections (s : State) (sourceUuid : String) : Option QJsonObject :=
  (s.resources.downlinks.lookup sourceUuid).map DownlinkInfo.getConnection

abbrev ConnectionOp := Followers.Op String QJsonObject

abbrev ConnectionNotice := Followers.Notice String QJsonObject

def connectionNotice : Signal → Option ConnectionNotice
  | .downlinkReady downlink => some (.ready (DownlinkInfo.getConnection downlink))
  | .downlinkRemoved sourceUuid | .deleteDownlinkSucceeded sourceUuid
  | .putDownlinkFailed sourceUuid | .putDownlinkStatusFailed sourceUuid => some (.lost sourceUuid)
  | .logoutSucceeded => some .cleared
  | _ => none

/-- Newest first. -/
def connectionNotices (s : State) : List ConnectionNotice := s.signals.filterMap connectionNotice

def Request.connectionOp (s : State) (error : NetworkError) (body : QJsonValue) :
    Request → Option ConnectionOp
  | .downlink sourceUuid =>
    if error = .noError && DownlinkInfo.isValid body.toObject then
      some (.put sourceUuid (DownlinkInfo.getConnection body.toObject) true)
    else none
  | .putDownlink sourceUuid _ | .putDownlinkStatus sourceUuid =>
    if error = .noError && DownlinkInfo.isValid body.toObject then
      some (.put sourceUuid (DownlinkInfo.getConnection body.toObject) true)
    else some (.release sourceUuid)
  | .deleteDownlink sourceUuid _ =>
    if error = .noError && s.resources.downlinks.contains sourceUuid then
      some (.drop sourceUuid true)
    else none
  | .deleteUplink _ unlinks => if unlinks then some .clear else none
  | _ => none

/-- A continuous message is not announced. -/
def messageOp (s : State) (m : QJsonObject) : Option ConnectionOp :=
  if getName m = "downlink.connections" then
    if IsChange m then
      if StageConnection.isValid (getPayload m) then
        some (.put (getId m) (getPayload m) !getContinuous m)
      else none
    else if IsRemoval m && s.resources.downlinks.contains (getId m) then
      some (.drop (getId m) !getContinuous m)
    else none
  else none

def connectionOp (s : State) : Event → Option ConnectionOp
  | .reply position error body => (s.requests[position]?).bind fun r => r.connectionOp s error body
  | .textMessage m => messageOp s m
  | .linkingSucceeded => if s.linked then none else some .clear
  | _ => none

structure Performs (op : Option ConnectionOp) (s t : State) : Prop where
  connections : connections t = op.elim (connections s) fun op => op.store (connections s)
  notices : connectionNotices t = (op.bind Followers.Op.notice).toList ++ connectionNotices s

def connectionView (s : State) : QMap QJsonObject × List ConnectionNotice :=
  (s.resources.downlinks, connectionNotices s)

def Aspect.concernsConnections : Aspect → Bool
  | .session | .downlinks => true
  | _ => false

theorem connectionView_emit (s : State) {signal : Signal}
    (hOther : connectionNotice signal = none) :
    connectionView (emit s signal) = connectionView s := by
  unfold emit
  split
  · rfl
  · exact congrArg (Prod.mk _) (List.filterMap_cons_none hOther)

theorem connectionNotice_of_aspect {signal : Signal}
    (hOther : signal.aspect.concernsConnections = false) : connectionNotice signal = none := by
  cases signal <;> first | rfl | cases hOther

theorem connections_view : PartialView Aspect.concernsConnections connectionView where
  emit s _ hOther := connectionView_emit s (connectionNotice_of_aspect hOther)
  send s frame := by
    unfold send
    split <;> rfl
  append _ _ _ := rfl
  requests _ _ _ := rfl
  websocket _ _ _ := rfl
  resources _ _ hDownlinks := congrArg (Prod.mk · _) hDownlinks
  downlinks := nofun
  participantId _ _ _ := rfl
  partyId _ _ := rfl
  signalsBlocked _ _ := rfl
  terminating _ _ := rfl
  uplinkStatus _ _ := rfl
  outputs _ _ _ := rfl
  tokens _ _ _ := rfl

section Operations

variable {s t : State}

theorem connections_congr (h : t.resources.downlinks = s.resources.downlinks) :
    connections t = connections s := by
  funext sourceUuid
  rw [connections, connections, h]

theorem Performs.of_view (h : connectionView t = connectionView s) : Performs none s t where
  connections := connections_congr (congrArg Prod.fst h)
  notices := congrArg Prod.snd h

/-- What an operation is performed on may have been reached unnoticed. -/
theorem Performs.after {u : State} {op : Option ConnectionOp} (h : Performs op t u)
    (hView : connectionView t = connectionView s) : Performs op s u where
  connections := by
    rw [h.connections, connections_congr (congrArg Prod.fst hView)]
  notices := by
    rw [h.notices]
    exact congrArg _ (congrArg Prod.snd hView)

theorem connections_insert (downlinks : QMap QJsonObject) (sourceUuid : String)
    (downlink : QJsonObject) (hDownlinks : s.resources.downlinks = downlinks)
    (hInserted : t.resources.downlinks = downlinks.insert sourceUuid downlink) :
    connections t = Function.update (connections s) sourceUuid
      (some (DownlinkInfo.getConnection downlink)) := by
  funext key
  rw [connections, hInserted, QMap.lookup_insert, Function.update_apply, connections, hDownlinks]
  split <;> rfl

theorem connections_remove (downlinks : QMap QJsonObject) (sourceUuid : String)
    (hDownlinks : s.resources.downlinks = downlinks)
    (hRemoved : t.resources.downlinks = downlinks.remove sourceUuid) :
    connections t = Function.update (connections s) sourceUuid none := by
  funext key
  rw [connections, hRemoved, QMap.lookup_remove, Function.update_apply, connections, hDownlinks]
  split <;> rfl

theorem connectionNotices_emitAll (hOpen : s.signalsBlocked = false) (signals : List Signal) :
    connectionNotices (emitAll s signals) =
      signals.reverse.filterMap connectionNotice ++ connectionNotices s := by
  rw [connectionNotices, emitAll_signals hOpen, List.filterMap_append, connectionNotices]

end Operations

section Replies

variable {s : State} (hOpen : s.signalsBlocked = false) (error : NetworkError) (body : QJsonValue)

include hOpen

theorem performs_emitAll (op : Option ConnectionOp) (signals : List Signal)
    (hStore : ∀ store, op.elim store (fun op => op.store store) = store)
    (hNotices : signals.reverse.filterMap connectionNotice =
      (op.bind Followers.Op.notice).toList) :
    Performs op s (emitAll s signals) where
  connections := by
    rw [hStore]
    exact connections_congr (by rw [emitAll_resources])
  notices := by
    rw [connectionNotices_emitAll hOpen, hNotices]

theorem onDownlinkReply_performs (succeeded : QJsonObject → List Signal) {failed : List Signal}
    (topics : List (String × QJsonObject)) (sourceUuid : String) {refused : Option ConnectionOp}
    (hRefused : Performs refused s (emitAll s (failed ++ [.downlinkFailed sourceUuid])))
    (hSucceeded : ∀ downlink, (succeeded downlink).reverse.filterMap connectionNotice = []) :
    Performs (if error = .noError && DownlinkInfo.isValid body.toObject then
        some (.put sourceUuid (DownlinkInfo.getConnection body.toObject) true) else refused) s
      (onDownlinkReply failed succeeded topics s sourceUuid error body) := by
  by_cases hError : error = .noError
  · subst hError
    cases hValid : DownlinkInfo.isValid body.toObject with
    | false => simpa [onDownlinkReply, hValid] using hRefused
    | true =>
      simp only [onDownlinkReply, ne_eq, not_true_eq_false, if_false, hValid, Bool.not_true,
        Bool.false_eq_true, decide_true, Bool.and_self, if_true]
      constructor
      · exact connections_insert _ _ _ rfl (by simp)
      · rw [connectionNotices_emitAll (by simpa using hOpen), List.reverse_append,
          List.filterMap_append, hSucceeded]
        simp [connectionNotice, connectionNotices, Followers.Op.notice]
  · simpa [onDownlinkReply, hError] using hRefused

theorem onDeleteDownlinkReply_performs (sourceUuid : String) :
    Performs (if error = .noError && s.resources.downlinks.contains sourceUuid then
        some (.drop sourceUuid true) else none) s (onDeleteDownlinkReply s sourceUuid error) := by
  by_cases hError : error = .noError
  · subst hError
    have hSent := connections_view.send s (.unsubscribe "downlink" (uuidPayload sourceUuid))
    simp only [onDeleteDownlinkReply, ne_eq, not_true_eq_false, if_false, decide_true,
      Bool.true_and, unsubscribe_resources]
    split
    · refine Performs.after ⟨?_, ?_⟩ hSent
      · have hKept := unsubscribe_resources s "downlink" (uuidPayload sourceUuid)
        exact connections_remove _ _ (congrArg Resources.downlinks hKept) (by simp)
      · rw [connectionNotices, emit_signals (by simpa using hOpen)]
        rfl
    · exact .of_view hSent
  · simpa [onDeleteDownlinkReply, hError] using .of_view (connectionView_emit s rfl)

theorem unlinked_performs (hUnlinked : s.linked = false) :
    Performs (some .clear) s (onO2LinkingSucceeded s) := by
  simp only [onO2LinkingSucceeded, hUnlinked, Bool.false_eq_true, if_false]
  rw [emit_open (by exact hOpen)]
  exact ⟨rfl, rfl⟩

theorem onFinished_performs (r : Request) :
    Performs (r.connectionOp s error body) s (onFinished s r error body) := by
  have hQuiet (hOther : r.connectionOp s error body = none)
      (hSeen : ∀ aspect ∈ r.aspects, aspect.concernsConnections = false)
      (hStays : r.unlinks = false) :
      Performs (r.connectionOp s error body) s (onFinished s r error body) := by
    rw [hOther]
    exact .of_view (connections_view.onFinished hSeen hStays error body)
  cases r with
  | downlink sourceUuid =>
    have hRefused := performs_emitAll hOpen none [.downlinkFailed sourceUuid] (fun _ => rfl) rfl
    exact onDownlinkReply_performs hOpen error body (fun _ => []) [] sourceUuid hRefused
      fun _ => rfl
  | putDownlink sourceUuid params =>
    have hRefused := performs_emitAll hOpen (some (.release sourceUuid))
      [.putDownlinkFailed sourceUuid, .downlinkFailed sourceUuid] (fun _ => rfl) rfl
    exact onDownlinkReply_performs hOpen error body
      (fun downlink => [.putDownlinkSucceeded downlink]) _ sourceUuid hRefused fun _ => rfl
  | putDownlinkStatus sourceUuid =>
    have hRefused := performs_emitAll hOpen (some (.release sourceUuid))
      [.putDownlinkStatusFailed sourceUuid, .downlinkFailed sourceUuid] (fun _ => rfl) rfl
    exact onDownlinkReply_performs hOpen error body
      (fun downlink => [.putDownlinkStatusSucceeded downlink]) _ sourceUuid hRefused fun _ => rfl
  | deleteDownlink sourceUuid parallel =>
    exact onDeleteDownlinkReply_performs hOpen error sourceUuid
  | deleteUplink parallel unlinks =>
    cases unlinks with
    | false => exact hQuiet rfl (List.forall_mem_singleton.mpr rfl) rfl
    | true =>
      have hReply := connections_view.onDeleteUplinkReply s error rfl
      have hUnlinked := unlinked_performs
        (s := { onDeleteUplinkReply s error with linked := false, refreshToken := false })
        ((onDeleteUplinkReply_signalsBlocked s error).trans hOpen) rfl
      exact hUnlinked.after ((connections_view.tokens _ false false).trans hReply)
  | accountInfo starts | putUplink _ starts =>
    cases starts <;> exact hQuiet rfl (by simp [Request.aspects, Aspect.concernsConnections]) rfl
  | refresh => exact hQuiet rfl (List.forall_mem_nil _) rfl
  | redeemInviteCode inviteCode =>
    exact hQuiet rfl (by simp [Request.aspects, Aspect.concernsConnections]) rfl
  | _ => exact hQuiet rfl (List.forall_mem_singleton.mpr rfl) rfl

end Replies

section Messages

variable {s : State} {m : QJsonObject}

theorem getConnection_downlinkWithConnection (downlinks : QMap QJsonObject) (id : String)
    (connection : QJsonObject) :
    DownlinkInfo.getConnection (downlinkWithConnection downlinks id connection) = connection := by
  rw [DownlinkInfo.getConnection, downlinkWithConnection, QJsonObject.value_insert_self]
  rfl

theorem connectionNotices_emit (t : State) (signal : Signal) :
    connectionNotices (emit t signal) =
      (if !t.signalsBlocked then (connectionNotice signal).toList else []) ++
        connectionNotices t := by
  unfold emit
  cases t.signalsBlocked with
  | true => rfl
  | false =>
    cases hNotice : connectionNotice signal with
    | none => exact List.filterMap_cons_none hNotice
    | some n => exact List.filterMap_cons_some hNotice

theorem changed_performs (hName : getName m = "downlink.connections") (hChange : IsChange m) :
    Performs (messageOp s m) s (onTextMessageReceived s m) := by
  have hEq : onTextMessageReceived s m =
      blockingSignals s (getContinuous m) fun s =>
        downlinkConnectionChanged s (getId m) (getPayload m) := by
    rcases hChange with hEvent | hEvent <;>
      simp only [onTextMessageReceived, hEvent, onWebSocketDataChanged, hName, dataChanged]
  rw [hEq, messageOp, if_pos hName, if_pos hChange]
  cases hValid : StageConnection.isValid (getPayload m) with
  | false => simpa [blockingSignals, downlinkConnectionChanged, hValid] using .of_view rfl
  | true =>
    let downlink := downlinkWithConnection s.resources.downlinks (getId m) (getPayload m)
    have hConnection : DownlinkInfo.getConnection downlink = getPayload m :=
      getConnection_downlinkWithConnection _ _ _
    simp only [blockingSignals, downlinkConnectionChanged, hValid, Bool.not_true,
      Bool.false_eq_true, if_false, if_true]
    constructor
    · refine (connections_insert _ (getId m) downlink rfl
        (congrArg Resources.downlinks (emit_resources _ _))).trans ?_
      rw [hConnection]
      rfl
    · refine (connectionNotices_emit { s with
        signalsBlocked := getContinuous m
        resources.downlinks := s.resources.downlinks.insert (getId m) downlink }
        (.downlinkReady downlink)).trans ?_
      rw [connectionNotice, hConnection]
      cases getContinuous m <;> rfl

theorem removed_performs (hName : getName m = "downlink.connections") (hRemoval : IsRemoval m) :
    Performs (messageOp s m) s (onTextMessageReceived s m) := by
  have hEvent : getEvent m = "removed" := hRemoval
  have hChange : ¬IsChange m := by simp [IsChange, hEvent]
  have hEq : onTextMessageReceived s m =
      blockingSignals s (getContinuous m) fun s => downlinkConnectionRemoved s (getId m) := by
    simp only [onTextMessageReceived, hEvent, onWebSocketDataRemoved, hName, dataRemoved]
  rw [hEq, messageOp, if_pos hName, if_neg hChange, decide_eq_true hRemoval, Bool.true_and]
  simp only [blockingSignals, downlinkConnectionRemoved]
  split
  · constructor
    · exact connections_remove _ (getId m) rfl (congrArg Resources.downlinks (emit_resources _ _))
    · refine (connectionNotices_emit { s with
        signalsBlocked := getContinuous m
        resources.downlinks := s.resources.downlinks.remove (getId m) }
        (.downlinkRemoved (getId m))).trans ?_
      cases getContinuous m <;> rfl
  · exact .of_view rfl

theorem onTextMessageReceived_performs (s : State) (m : QJsonObject) :
    Performs (messageOp s m) s (onTextMessageReceived s m) := by
  have hQuiet (hOther : messageOp s m = none)
      (hSeen : IsChange m ∨ IsRemoval m → getName m ≠ "downlink.connections") :
      Performs (messageOp s m) s (onTextMessageReceived s m) := by
    rw [hOther]
    refine .of_view (connections_view.onTextMessageReceived s rfl fun hData => ?_)
    have hName := hSeen hData
    unfold messageAspect
    split <;> first | rfl | exact absurd ‹_› hName
  by_cases hName : getName m = "downlink.connections"
  · by_cases hChange : IsChange m
    · exact changed_performs hName hChange
    · by_cases hRemoval : IsRemoval m
      · exact removed_performs hName hRemoval
      · refine hQuiet ?_ fun hData => (hData.elim hChange hRemoval).elim
        rw [messageOp, if_pos hName, if_neg hChange, decide_eq_false hRemoval]
        rfl
  · exact hQuiet (by rw [messageOp, if_neg hName]) fun _ => hName

end Messages

section Steps

variable {s t : State} {e : Event}

theorem onO2LinkingSucceeded_performs (hOpen : s.signalsBlocked = false) :
    Performs (if s.linked then none else some .clear) s (onO2LinkingSucceeded s) := by
  cases hLinked : s.linked with
  | false => exact unlinked_performs hOpen hLinked
  | true =>
    refine .of_view ?_
    simp only [onO2LinkingSucceeded, hLinked, if_true]
    split
    · refine (connectionView_emit _ rfl).trans ?_
      split
      · exact connections_view.request s (.inr rfl)
      · rfl
    · rfl

theorem step_performs (hOpen : s.signalsBlocked = false) (hStep : step s e = some t) :
    Performs (connectionOp s e) s t := by
  cases e with
  | call c =>
    obtain rfl := Option.some.inj hStep
    exact .of_view (connections_view.perform s (.inl rfl))
  | reply position error body =>
    obtain ⟨r, hRequest, rfl⟩ := Option.map_eq_some_iff.mp hStep
    have hSame : r.connectionOp { s with requests := s.requests.eraseIdx position } error body =
        connectionOp s (.reply position error body) := by
      rw [connectionOp, hRequest, Option.bind_some]
      cases r <;> rfl
    have hReply := onFinished_performs (s := { s with requests := s.requests.eraseIdx position })
      hOpen error body r
    exact hSame ▸ hReply.after rfl
  | textMessage m =>
    obtain rfl := Option.some.inj hStep
    exact onTextMessageReceived_performs s m
  | linkingSucceeded =>
    obtain rfl := Option.some.inj hStep
    exact onO2LinkingSucceeded_performs hOpen
  | linkingFailed =>
    obtain rfl := Option.some.inj hStep
    exact .of_view (connectionView_emit _ rfl)
  | socketConnected | tokensStored =>
    obtain rfl := Option.some.inj hStep
    exact .of_view rfl
  | socketDisconnected =>
    obtain rfl := Option.some.inj hStep
    refine .of_view ?_
    simp only [onDisconnected]
    split
    · rfl
    · exact connectionView_emit _ rfl

section Put

variable {sourceUuid : String} {connection : QJsonObject} {announced : Bool}

theorem valid_of_reply {r : Request} {error : NetworkError} {body : QJsonValue}
    (h : r.connectionOp s error body = some (.put sourceUuid connection announced)) :
    StageConnection.isValid connection = true := by
  cases r with
  | downlink | putDownlink | putDownlinkStatus =>
    simp only [Request.connectionOp] at h
    split at h
    · next hBoth =>
      cases h
      exact (Bool.and_eq_true_iff.mp hBoth).2
    · cases h
  | deleteDownlink uuid parallel =>
    simp only [Request.connectionOp] at h
    split at h <;> cases h
  | deleteUplink parallel unlinks => cases unlinks <;> cases h
  | _ => cases h

theorem valid_of_message {m : QJsonObject}
    (h : messageOp s m = some (.put sourceUuid connection announced)) :
    StageConnection.isValid connection = true := by
  simp only [messageOp] at h
  split at h
  · split at h
    · split at h
      · next hValid =>
        cases h
        exact hValid
      · cases h
    · split at h <;> cases h
  · cases h

/-- No connection is put but a valid one. -/
theorem valid_of_connectionOp (h : connectionOp s e = some (.put sourceUuid connection announced)) :
    StageConnection.isValid connection = true := by
  cases e with
  | reply position error body =>
    obtain ⟨r, -, hOp⟩ := Option.bind_eq_some_iff.mp h
    exact valid_of_reply hOp
  | textMessage m => exact valid_of_message h
  | linkingSucceeded =>
    simp only [connectionOp] at h
    split at h <;> cases h
  | _ => cases h

theorem valid_of_notice
    (hNotice : .ready connection ∈ ((connectionOp s e).bind Followers.Op.notice).toList) :
    StageConnection.isValid connection = true := by
  obtain ⟨op, hOp, hReady⟩ := Option.bind_eq_some_iff.mp (Option.mem_toList.mp hNotice)
  cases op with
  | put sourceUuid doc announced =>
    cases announced with
    | false => cases hReady
    | true =>
      cases hReady
      exact valid_of_connectionOp hOp
  | drop sourceUuid announced => cases announced <;> cases hReady
  | release | clear => cases hReady

end Put

end Steps

theorem emit_suffix (s : State) (signal : Signal) : s.signals <:+ (emit s signal).signals := by
  unfold emit
  split
  · exact List.suffix_refl _
  · exact List.suffix_cons _ _

theorem syncUplinkStatus_signals (s : State) (force : Bool) :
    (syncUplinkStatus s force).signals = s.signals := by
  unfold syncUplinkStatus
  split
  · rfl
  · split
    · exact request_signals _ _
    · rfl

theorem perform_signals (s : State) (c : Call) : (perform s c).signals = s.signals := by
  cases c with
  | syncOnlineResources => exact foldl_keeps State.signals request_signals _ s
  | syncUplinkStatus force => exact syncUplinkStatus_signals s force
  | terminate => exact request_signals _ _
  | refresh | countActiveOutputs | countStandByOutputs | setParticipantId | setPartyId => rfl
  | _ => exact request_signals s _

theorem signals_rule :
    FrameRule (fun _ => True) True True fun s t => s.signals <:+ t.signals where
  refl _ := List.suffix_refl _
  trans hFirst hRest := hFirst.trans hRest
  emit s signal _ := emit_suffix s signal
  send s frame _ := by
    unfold send
    split <;> exact List.suffix_refl _
  request s r _ := ⟨[], (request_signals s r).symm⟩
  refresh _ := List.suffix_refl _
  putUplink _ s _ := ⟨[], (request_signals s _).symm⟩
  syncUplinkStatus _ s force := ⟨[], (syncUplinkStatus_signals s force).symm⟩
  resources _ _ := List.suffix_refl _
  settings _ _ := List.suffix_refl _
  signalsBlocked _ _ := List.suffix_refl _
  start _ := List.suffix_refl _

theorem onO2LinkingSucceeded_signals (s : State) :
    s.signals <:+ (onO2LinkingSucceeded s).signals := by
  simp only [onO2LinkingSucceeded]
  split
  · split
    · refine List.IsSuffix.trans ?_ (emit_suffix _ _)
      split
      · exact ⟨[], (request_signals s _).symm⟩
      · exact List.suffix_refl _
    · exact List.suffix_refl _
  · exact emit_suffix { clearOnlineResources s with websocket := s.websocket.stop } _

/-- No signal is taken back. -/
theorem signals_of_step {s t : State} {e : Event} (hOpen : s.signalsBlocked = false)
    (hStep : step s e = some t) : s.signals <:+ t.signals := by
  cases e with
  | call c =>
    obtain rfl := Option.some.inj hStep
    exact ⟨[], (perform_signals s c).symm⟩
  | reply position error body =>
    obtain ⟨r, -, rfl⟩ := Option.map_eq_some_iff.mp hStep
    obtain ⟨new, hNew, -⟩ := onFinished_tells
      (s := { s with requests := s.requests.eraseIdx position }) hOpen error body r
    exact ⟨new, hNew.symm⟩
  | textMessage m =>
    obtain rfl := Option.some.inj hStep
    exact signals_rule.onTextMessageReceived (fun _ _ => trivial) (fun _ => trivial)
      fun _ => trivial
  | linkingSucceeded =>
    obtain rfl := Option.some.inj hStep
    exact onO2LinkingSucceeded_signals s
  | linkingFailed =>
    obtain rfl := Option.some.inj hStep
    exact emit_suffix { s with websocket := s.websocket.stop } .loginFailed
  | socketConnected | tokensStored =>
    obtain rfl := Option.some.inj hStep
    exact List.suffix_refl _
  | socketDisconnected =>
    obtain rfl := Option.some.inj hStep
    simp only [onDisconnected]
    split
    · exact List.suffix_refl _
    · exact emit_suffix { s with websocket := { s.websocket with valid := false } } _

end SrcLink.ApiClient
