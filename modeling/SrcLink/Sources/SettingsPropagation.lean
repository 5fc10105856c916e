import SrcLink.Client.PrivateIp
import SrcLink.Client.SettingsDialog
import SrcLink.Sources.DownlinkRevisions
import SrcLink.Sources.ListeningPorts

/-! # How the settings reach the sources and the outputs

A source copies the settings into its request, an output into its snapshot timer. The
settings dialog asks them to copy again when a value that they use has changed. A source
also copies the private address of the machine, whose changes nobody announces. What the
lambdas of a source do after its destruction is left out.
-/

namespace SrcLink.SettingsPropagation

open Json Schema StepSystem SettingsStore IngressLinkSource ApiClient
open QString (qUtf8Printable)

set_option autoImplicit false

/-- What the sources read of the API client. -/
structure Client where
  settings : Store
  /-- the addresses of the machine -/
  allAddresses : List QHostAddress
  used : Int → Bool

def apiSettings (s : Store) : ApiSettings where
  ingressProtocol := getIngressProtocol s
  ingressSrtLatency := (getIngressSrtLatency s).toInt
  ingressSrtPbkeylen := (getIngressSrtPbkeylen s).toInt
  ingressReconnectDelayTime := (getIngressReconnectDelayTime s).toInt
  ingressNetworkBufferSize := (getIngressNetworkBufferSize s).toInt

namespace Client

def privateAddresses (client : Client) : List String :=
  getPrivateIPv4Addresses client.allAddresses

def ports (client : Client) : Ports where
  portMin := (getIngressPortMin client.settings).toInt
  portMax := (getIngressPortMax client.settings).toInt
  used := client.used

/-- What a source reads when it captures its settings; `retrievePrivateIp` writes to the store. -/
def capture (client : Client) (settings : ObsData) (streamId : String) :
    Option (Capture × Client) :=
  (retrievePrivateIp client.privateAddresses client.settings).map fun retrieved =>
    ({ settings := settings, apiSettings := apiSettings retrieved.2
       privateIp := retrieved.1, streamId := streamId },
      { client with settings := retrieved.2 })

/-- The snapshot interval in milliseconds. -/
def snapshotInterval (client : Client) : Int :=
  toInt32 ((getEgressScreenshotInterval client.settings).toInt * 1000)

end Client

/-- A source with the OBS settings that it captured last. -/
structure Instance where
  source : Source
  captured : ObsData

/-- What OBS and the password generator give to a source that captures its settings. -/
structure Input where
  settings : ObsData
  streamId : String

def create (client : Client) (uuid : String) (input : Input) : Option (Instance × Client) :=
  (client.capture input.settings input.streamId).map fun captured =>
    let created := Source.construct uuid captured.2.ports captured.1
    (⟨created.1, input.settings⟩, { captured.2 with used := created.2.used })

def reactivate (client : Client) (i : Instance) (input : Input) : Option (Instance × Client) :=
  (client.capture input.settings input.streamId).map fun captured =>
    let updated := i.source.onSettingsUpdate captured.2.ports captured.1
    (⟨updated.1, input.settings⟩, { captured.2 with used := updated.2.used })

/-- The sources in the order in which they are connected; the k-th one has the k-th input. -/
def reactivateAll (input : Nat → Input) : Nat → List Instance → Client →
    Option (List Instance × Client)
  | _, [], client => some ([], client)
  | k, i :: rest, client =>
    (reactivate client i (input k)).bind fun first =>
      (reactivateAll input (k + 1) rest first.2).map fun others =>
        (first.1 :: others.1, others.2)

structure World where
  client : Client
  sources : List Instance := []
  /-- the intervals of the snapshot timers of the outputs -/
  intervals : List Int := []

/-- The settings that the sources and the outputs use. -/
def usedKeys : List String :=
  ["ingress.portMin", "ingress.portMax", "ingress.protocol", "ingress.srtLatency",
    "ingress.srtPbkeylen", "ingress.reconnectDelayTime", "ingress.networkBufferSize",
    "ingress.privateIpIndex", "ingress.privateIpValue", "egress.screenshotInterval"]

inductive Event where
  | createSource (uuid : String) (input : Input)
  /-- the OBS settings of the source are updated -/
  | updateSource (index : Nat) (input : Input)
  | signal (index : Nat) (e : SourceEvent) (hOther : e.capturesSettings = false)
  | licenseChanged (licenseValid : Bool) (input : Nat → Input)
  | destroySource (index : Nat)
  | createOutput
  | destroyOutput (index : Nat)
  /-- the settings dialog is accepted -/
  | accept (form : SettingsDialog.Form) (input : Nat → Input)
  | setValue (key value : String) (hOther : qUtf8Printable key ∉ usedKeys)
  | addressesChanged (allAddresses : List QHostAddress)

def World.refreshIngress (w : World) (input : Nat → Input) : Option World :=
  (reactivateAll input 0 w.sources w.client).map fun refreshed =>
    { w with sources := refreshed.1, client := refreshed.2 }

def World.refreshEgress (w : World) : World :=
  { w with intervals := w.intervals.map fun _ => w.client.snapshotInterval }

def World.accept (w : World) (form : SettingsDialog.Form) (input : Nat → Input) : Option World :=
  let ingressRefreshNeeded := form.ingressRefreshNeeded w.client.settings
  let egressRefreshNeeded := form.egressRefreshNeeded w.client.settings
  let saved := { w with client.settings := form.saveSettings w.client.settings }
  (if ingressRefreshNeeded then saved.refreshIngress input else some saved).map fun w =>
    if egressRefreshNeeded then w.refreshEgress else w

def step (w : World) : Event → Option World
  | .createSource uuid input =>
    (create w.client uuid input).map fun created =>
      { w with sources := w.sources ++ [created.1], client := created.2 }
  | .updateSource index input =>
    (w.sources[index]?).bind fun i =>
      (reactivate w.client i input).map fun updated =>
        { w with sources := w.sources.set index updated.1, client := updated.2 }
  | .signal index e _ =>
    (w.sources[index]?).map fun i =>
      { w with sources := w.sources.set index { i with source := i.source.apply e } }
  | .licenseChanged licenseValid input =>
    if licenseValid then w.refreshIngress input else some w
  | .destroySource index =>
    (w.sources[index]?).map fun i =>
      { w with
        sources := w.sources.eraseIdx index
        client.used := (Listeners.destroyed w.client.ports i.source).used }
  | .createOutput => some { w with intervals := w.intervals ++ [w.client.snapshotInterval] }
  | .destroyOutput index => some { w with intervals := w.intervals.eraseIdx index }
  | .accept form input => w.accept form input
  | .setValue key value _ =>
    some { w with client.settings := SettingsStore.setValue w.client.settings key value }
  | .addressesChanged allAddresses => some { w with client.allAddresses := allAddresses }

def Client.privateAddress (client : Client) : Option String :=
  (retrievePrivateIp client.privateAddresses client.settings).map Prod.fst

/-- The request and the options are those of a new capture of the same OBS settings with the same
stream ID, and the port is in the present range. -/
structure UpToDate (client : Client) (i : Instance) : Prop where
  captures : ∃ c client', client.capture i.captured
      (DownlinkRequestBody.getStreamId i.source.connRequest) = some (c, client') ∧
    (∀ key, (newRequest c i.source.connRequest).value key = i.source.connRequest.value key) ∧
    capturedOptions c = i.source.options
  port : i.source.port = 0 ∨ i.source.port ∈ client.ports.range

structure World.UpToDate (w : World) : Prop where
  sources : ∀ i ∈ w.sources, SettingsPropagation.UpToDate w.client i
  outputs : ∀ interval ∈ w.intervals, interval = w.client.snapshotInterval

/-- The private address does not change unless the sources are asked to refresh. -/
def KeepsAddress (w : World) : Event → Prop
  | .accept form _ => form.ingressRefreshNeeded w.client.settings = false → w.sources ≠ [] →
    { w.client with
      settings := form.saveSettings w.client.settings : Client }.privateAddress =
        w.client.privateAddress
  | .addressesChanged allAddresses => w.sources ≠ [] →
    { w.client with allAddresses := allAddresses : Client }.privateAddress =
      w.client.privateAddress
  | _ => True

section Capture

def insertAll (members : List (String × QJsonValue)) (req : QJsonObject) : QJsonObject :=
  members.foldl (fun req m => req.insert m.1 m.2) req

/-- A member is written whatever it was, or kept. -/
theorem value_insertAll (members : List (String × QJsonValue)) (key : String) :
    (∃ v, ∀ req, (insertAll members req).value key = v) ∨
      ∀ req, (insertAll members req).value key = req.value key := by
  induction members with
  | nil => exact .inr fun _ => rfl
  | cons m members ih =>
    rcases ih with ⟨v, hWritten⟩ | hKept
    · exact .inl ⟨v, fun req => hWritten (req.insert m.1 m.2)⟩
    · rcases eq_or_ne key m.1 with rfl | hOther
      · exact .inl ⟨m.2, fun req => (hKept _).trans (QJsonObject.value_insert_self req m.1 m.2)⟩
      · exact .inr fun req => (hKept _).trans (QJsonObject.value_insert_of_ne req m.2 hOther)

variable (c : Capture)

/-- The parameters are composed of two of the other members. -/
def capturedMembers : List (String × QJsonValue) :=
  let text (key : String) := QJsonValue.string (c.settings.getString key)
  let number (key : String) := QJsonValue.double (toInt32 (c.settings.getInt key) : Int)
  let relay := c.settings.getBool "relay"
  let protocol := c.apiSettings.ingressProtocol
  [("protocol", .string protocol), ("lan_server", .string c.privateIp),
    ("stage_id", text "stage_id"), ("seat_name", text "seat_name"),
    ("source_name", text "source_name"), ("max_bitrate", number "max_bitrate"),
    ("min_bitrate", number "min_bitrate"), ("width", number "width"), ("height", number "height"),
    ("relay", .bool relay), ("stream_id", .string c.streamId),
    ("parameters", .string (compositeParameters c
      [("protocol", .string protocol), ("relay", .bool relay)]))]

theorem newRequest_eq (req : QJsonObject) : newRequest c req = insertAll (capturedMembers c) req := by
  simp [newRequest, insertAll, capturedMembers, compositeParameters,
    DownlinkRequestBody.setParameters, DownlinkRequestBody.setStreamId,
    DownlinkRequestBody.setRelay, DownlinkRequestBody.setHeight, DownlinkRequestBody.setWidth,
    DownlinkRequestBody.setMinBitrate, DownlinkRequestBody.setMaxBitrate,
    DownlinkRequestBody.setSourceName, DownlinkRequestBody.setSeatName,
    DownlinkRequestBody.setStageId, DownlinkRequestBody.setLanServer,
    DownlinkRequestBody.setProtocol, DownlinkRequestBody.getProtocol, DownlinkRequestBody.getRelay,
    QJsonObject.value_insert_of_ne, QJsonObject.value_cons]

theorem newRequest_idempotent {req req' : QJsonObject} {key : String}
    (hCaptured : req'.value key = (newRequest c req).value key) :
    (newRequest c req').value key = req'.value key := by
  rw [newRequest_eq] at hCaptured ⊢
  rcases value_insertAll (capturedMembers c) key with ⟨v, hWritten⟩ | hKept
  · rw [hWritten, hCaptured, hWritten]
  · exact hKept req'

theorem value_newRequest_of_not_captured {key : String} (hKey : key = "port" ∨ key = "revision")
    (req : QJsonObject) : (newRequest c req).value key = req.value key := by
  rcases hKey with rfl | rfl
  · simp [newRequest_eq, insertAll, capturedMembers, QJsonObject.value_insert_of_ne]
  · simp [newRequest_eq, insertAll, capturedMembers, QJsonObject.value_insert_of_ne]

/-- Captured once more, a request stays what it is. -/
theorem newRequest_captured (ports : Ports) (s : Source) (key : String) :
    (newRequest c (s.captureSettings ports c).1.connRequest).value key =
      (s.captureSettings ports c).1.connRequest.value key := by
  by_cases hKey : key = "port" ∨ key = "revision"
  · exact value_newRequest_of_not_captured c hKey _
  · obtain ⟨hPort, hRevision⟩ := not_or.mp hKey
    have hCaptured : (s.captureSettings ports c).1.connRequest.value key =
        (newRequest c s.connRequest).value key := by
      rw [value_captureSettings hPort, DownlinkRequestBody.setRevision,
        QJsonObject.value_insert_of_ne _ _ hRevision]
    exact newRequest_idempotent c hCaptured

theorem getStreamId_captured (ports : Ports) (s : Source) :
    DownlinkRequestBody.getStreamId (s.captureSettings ports c).1.connRequest = c.streamId := by
  rw [DownlinkRequestBody.getStreamId, value_captureSettings (by decide),
    DownlinkRequestBody.setRevision, QJsonObject.value_insert_of_ne _ _ (by decide),
    streamId_newRequest]
  rfl

end Capture

section Address

/-- The settings that the sources copy, but for the private address. -/
def ingressView (s : Store) : ApiSettings × Int32 × Int32 :=
  (apiSettings s, getIngressPortMin s, getIngressPortMax s)

/-- What `retrievePrivateIp` does to the store. -/
structure Retrieved (privateAddresses : List String) (s s' : Store) (address : String) : Prop where
  listed : address ∈ privateAddresses
  remembered : getIngressPrivateIpValue s' = address
  others : ∀ key d, qUtf8Printable key ≠ "ingress.privateIpIndex" →
    qUtf8Printable key ≠ "ingress.privateIpValue" → value s' key d = value s key d

variable {privateAddresses : List String} {s s' : Store} {address : String}

theorem retrieved_of_eq_some (hPlain : ∀ address ∈ privateAddresses, '\x00' ∉ address.toList)
    (h : retrievePrivateIp privateAddresses s = some (address, s')) :
    Retrieved privateAddresses s s' address := by
  have hIndex (s : Store) (index : Int32) (key d : String)
      (hKey : qUtf8Printable key ≠ "ingress.privateIpIndex") :
      value (setIngressPrivateIpIndex s index) key d = value s key d :=
    value_setValue_of_ne s hKey _ d
  simp only [retrievePrivateIp] at h
  split at h
  · obtain ⟨found, hFound, hResult⟩ := Option.map_eq_some_iff.mp h
    have hListed := mem_of_element hFound
    rw [getIngressPrivateIpValue_setIndex, getIngressPrivateIpValue_set _ (hPlain _ hListed)]
      at hResult
    obtain ⟨rfl, rfl⟩ := Prod.mk.inj hResult
    refine ⟨hListed, ?_, fun key d hKey hOther => ?_⟩
    · rw [getIngressPrivateIpValue_setIndex, getIngressPrivateIpValue_set _ (hPlain _ hListed)]
    · rw [hIndex _ _ key d hKey]
      exact value_setValue_of_ne s hOther _ d
  · next hListed =>
    obtain ⟨rfl, rfl⟩ := Prod.mk.inj (Option.some.inj h)
    rw [getIngressPrivateIpValue_setIndex]
    refine ⟨?_, getIngressPrivateIpValue_setIndex .., fun key d hKey _ => hIndex s _ key d hKey⟩
    by_contra hMissing
    exact hListed (by rw [indexOf, if_neg hMissing]; decide)

theorem fst_retrievePrivateIp (hPlain : ∀ address ∈ privateAddresses, '\x00' ∉ address.toList)
    (s : Store) :
    (retrievePrivateIp privateAddresses s).map Prod.fst =
      if getIngressPrivateIpValue s ∈ privateAddresses then some (getIngressPrivateIpValue s)
      else element privateAddresses (fallbackIndex privateAddresses s) := by
  simp only [retrievePrivateIp, indexOf]
  split
  · rw [if_neg (by omega), getIngressPrivateIpValue_setIndex]
    rfl
  · rw [if_pos (by decide), Option.map_map]
    have hFound : ∀ address ∈ element privateAddresses (fallbackIndex privateAddresses s),
        getIngressPrivateIpValue (setIngressPrivateIpValue s address) = address :=
      fun address hFound => getIngressPrivateIpValue_set s (hPlain _ (mem_of_element hFound))
    simp only [Function.comp_def, getIngressPrivateIpValue_setIndex]
    exact (Option.map_congr hFound).trans Option.map_id'

/-- An address that was retrieved is retrieved again. -/
theorem Retrieved.again (hPlain : ∀ address ∈ privateAddresses, '\x00' ∉ address.toList)
    (h : Retrieved privateAddresses s s' address) :
    (retrievePrivateIp privateAddresses s').map Prod.fst = some address := by
  rw [fst_retrievePrivateIp hPlain, h.remembered, if_pos h.listed]

theorem Retrieved.ingressView_eq (h : Retrieved privateAddresses s s' address) :
    ingressView s' = ingressView s := by
  have hOther {key d : String} (hKey : qUtf8Printable key ≠ "ingress.privateIpIndex")
      (hKey' : qUtf8Printable key ≠ "ingress.privateIpValue") : value s' key d = value s key d :=
    h.others key d hKey hKey'
  simp +decide [ingressView, apiSettings, getIngressProtocol, getIngressSrtLatency,
    getIngressSrtPbkeylen, getIngressReconnectDelayTime, getIngressNetworkBufferSize,
    getIngressPortMin, getIngressPortMax, getInt, hOther]

theorem ingressView_eq_iff :
    ingressView s' = ingressView s ↔ apiSettings s' = apiSettings s ∧
      getIngressPortMin s' = getIngressPortMin s ∧ getIngressPortMax s' = getIngressPortMax s := by
  simp only [ingressView, Prod.mk.injEq]

theorem Retrieved.interval_eq (h : Retrieved privateAddresses s s' address) :
    getEgressScreenshotInterval s' = getEgressScreenshotInterval s :=
  congrArg QString.toInt (h.others _ _ (by decide) (by decide))

end Address

section Port

theorem port_reallocatePort {ports : Ports} (hBounds : ∀ i ∈ ports.range, IsInt32 i)
    (req : QJsonObject) :
    DownlinkRequestBody.getPort (reallocatePort ports req).1 = 0 ∨
      DownlinkRequestBody.getPort (reallocatePort ports req).1 ∈ ports.range := by
  have hZero : IsInt32 0 := ⟨by decide, by decide⟩
  have hTaken (ports' : Ports) (hRange : ports'.range = ports.range) (req : QJsonObject)
      (hNone : DownlinkRequestBody.getPort req = 0) :
      DownlinkRequestBody.getPort (takePort ports' req).1 = 0 ∨
        DownlinkRequestBody.getPort (takePort ports' req).1 ∈ ports.range := by
    simp only [takePort]
    split
    · rcases ports'.getFreePort_cases with ⟨i, hMem, -, hFree⟩ | ⟨-, hFree⟩
      · rw [hRange] at hMem
        rw [hFree, getPort_setPort req (hBounds i hMem)]
        exact .inr hMem
      · rw [hFree, getPort_setPort req hZero]
        exact .inl rfl
    · exact .inl hNone
  simp only [reallocatePort, giveBackPort]
  split
  · exact hTaken (ports.releasePort _) rfl _ (getPort_setPort req hZero)
  · next hNone => exact hTaken ports rfl req (not_not.mp hNone)

theorem Client.isInt32_of_mem_range (client : Client) : ∀ i ∈ client.ports.range, IsInt32 i := by
  intro i hMem
  obtain ⟨hMin, hMax⟩ := Ports.mem_range_iff.mp hMem
  simp only [Client.ports] at hMin hMax
  have hLow := (getIngressPortMin client.settings).le_toInt
  have hHigh := (getIngressPortMax client.settings).toInt_lt
  constructor
  · omega
  · omega

end Port

section View

variable {client client' client'' : Client} {i : Instance} {c : Capture} {settings : ObsData}
  {streamId address : String}

/-- Nothing that is copied differs. -/
structure SameView (client client' : Client) : Prop where
  ingress : ingressView client'.settings = ingressView client.settings
  address : client'.privateAddress = client.privateAddress
  interval : client'.snapshotInterval = client.snapshotInterval

theorem SameView.trans (h : SameView client client') (h' : SameView client' client'') :
    SameView client client'' :=
  ⟨h'.ingress.trans h.ingress, h'.address.trans h.address, h'.interval.trans h.interval⟩

def Client.captureOf (client : Client) (settings : ObsData) (address streamId : String) : Capture where
  settings := settings
  apiSettings := apiSettings client.settings
  privateIp := address
  streamId := streamId

theorem capture_cases (h : client.capture settings streamId = some (c, client')) :
    ∃ address, client.privateAddress = some address ∧
      c = client.captureOf settings address streamId ∧ SameView client client' := by
  obtain ⟨⟨address, s'⟩, hRetrieve, hResult⟩ := Option.map_eq_some_iff.mp h
  obtain ⟨rfl, rfl⟩ := Prod.mk.inj hResult
  have hPlain : ∀ address ∈ client.privateAddresses, '\x00' ∉ address.toList := fun _ =>
    plain_of_mem_getPrivateIPv4Addresses
  have hRetrieved := retrieved_of_eq_some hPlain hRetrieve
  have hAddress : client.privateAddress = some address := congrArg (Option.map Prod.fst) hRetrieve
  have hApi := (ingressView_eq_iff.mp hRetrieved.ingressView_eq).1
  refine ⟨address, hAddress, ?_, hRetrieved.ingressView_eq,
    (hRetrieved.again hPlain).trans hAddress.symm, ?_⟩
  · rw [Client.captureOf, ← hApi]
  · rw [Client.snapshotInterval, Client.snapshotInterval, hRetrieved.interval_eq]

theorem exists_capture (h : client.privateAddress = some address) (settings : ObsData)
    (streamId : String) :
    ∃ client', client.capture settings streamId =
      some (client.captureOf settings address streamId, client') := by
  obtain ⟨retrieved, hRetrieve, -⟩ := Option.map_eq_some_iff.mp h
  obtain ⟨c, client', hCapture⟩ :
      ∃ c client', client.capture settings streamId = some (c, client') := by
    rw [Client.capture, hRetrieve]
    exact ⟨_, _, rfl⟩
  obtain ⟨address', hAddress, rfl, -⟩ := capture_cases hCapture
  obtain rfl := Option.some.inj (h.symm.trans hAddress)
  exact ⟨client', hCapture⟩

theorem upToDate_iff :
    UpToDate client i ↔
      (∃ address, client.privateAddress = some address ∧
        let c := client.captureOf i.captured address
          (DownlinkRequestBody.getStreamId i.source.connRequest)
        (∀ key, (newRequest c i.source.connRequest).value key =
          i.source.connRequest.value key) ∧ capturedOptions c = i.source.options) ∧
      (i.source.port = 0 ∨ i.source.port ∈ client.ports.range) := by
  constructor
  · rintro ⟨⟨c, client', hCapture, hUnchanged⟩, hPort⟩
    obtain ⟨address, hAddress, rfl, -⟩ := capture_cases hCapture
    exact ⟨⟨address, hAddress, hUnchanged⟩, hPort⟩
  · rintro ⟨⟨address, hAddress, hUnchanged⟩, hPort⟩
    obtain ⟨client', hCapture⟩ := exists_capture hAddress i.captured _
    exact ⟨⟨_, client', hCapture, hUnchanged⟩, hPort⟩

theorem privateAddress_congr {settings' : Store}
    (hValue : getIngressPrivateIpValue settings' = getIngressPrivateIpValue client.settings)
    (hIndex : getIngressPrivateIpIndex settings' = getIngressPrivateIpIndex client.settings) :
    { client with settings := settings' : Client }.privateAddress = client.privateAddress := by
  have hPlain : ∀ address ∈ client.privateAddresses, '\x00' ∉ address.toList := fun _ =>
    plain_of_mem_getPrivateIPv4Addresses
  have hSame : { client with settings := settings' : Client }.privateAddresses =
      client.privateAddresses := rfl
  rw [Client.privateAddress, Client.privateAddress, hSame, fst_retrievePrivateIp hPlain,
    fst_retrievePrivateIp hPlain, fallbackIndex, fallbackIndex, hValue, hIndex]

theorem captureOf_congr (h : ingressView client'.settings = ingressView client.settings) :
    client'.captureOf = client.captureOf := by
  unfold Client.captureOf
  rw [(ingressView_eq_iff.mp h).1]

theorem range_congr (h : ingressView client'.settings = ingressView client.settings) :
    client'.ports.range = client.ports.range := by
  obtain ⟨-, hMin, hMax⟩ := ingressView_eq_iff.mp h
  simp only [Ports.range, Client.ports, hMin, hMax]

theorem UpToDate.congr (h : UpToDate client i) (hView : SameView client client') :
    UpToDate client' i := by
  rw [upToDate_iff] at h ⊢
  rw [captureOf_congr hView.ingress, range_congr hView.ingress, hView.address]
  exact h

/-- If no other setting has changed, a source is up to date exactly if its address is. -/
theorem UpToDate.congr_iff (h : UpToDate client i)
    (hView : ingressView client'.settings = ingressView client.settings) :
    UpToDate client' i ↔ client'.privateAddress = client.privateAddress := by
  rw [upToDate_iff] at h ⊢
  rw [captureOf_congr hView, range_congr hView]
  obtain ⟨⟨address, hAddress, hUnchanged⟩, hPort⟩ := h
  constructor
  · rintro ⟨⟨address', hAddress', hUnchanged'⟩, -⟩
    have hServer (c : Capture) (req : QJsonObject) :
        (newRequest c req).value "lan_server" = .string c.privateIp := by
      simp [newRequest_eq, insertAll, capturedMembers, QJsonObject.value_insert_of_ne]
    have hSame := (hUnchanged'.1 "lan_server").trans (hUnchanged.1 "lan_server").symm
    rw [hServer, hServer] at hSame
    rw [hAddress, hAddress']
    exact congrArg some (QJsonValue.string.inj hSame)
  · intro hSame
    exact ⟨⟨address, hSame.trans hAddress, hUnchanged⟩, hPort⟩

/-- A source that has just captured is up to date. -/
theorem upToDate_captured (hCapture : client.capture settings streamId = some (c, client'))
    (source : Source) {source' : Source}
    (hRequest : source'.connRequest = (source.captureSettings client'.ports c).1.connRequest)
    (hOptions : source'.options = capturedOptions c) : UpToDate client' ⟨source', settings⟩ := by
  obtain ⟨address, hAddress, hEq, hView⟩ := capture_cases hCapture
  have hStream : DownlinkRequestBody.getStreamId source'.connRequest = streamId := by
    rw [hRequest, getStreamId_captured, hEq, Client.captureOf]
  refine upToDate_iff.mpr ⟨⟨address, hView.address.trans hAddress, ?_⟩, ?_⟩
  · simp only
    rw [captureOf_congr hView.ingress, hStream, ← hEq, hRequest]
    exact ⟨newRequest_captured c client'.ports source, hOptions.symm⟩
  · rw [Source.port, hRequest, Source.captureSettings_connRequest]
    exact port_reallocatePort client'.isInt32_of_mem_range _

theorem options_captured (ports : Ports) (c : Capture) (source : Source) :
    (source.captureSettings ports c).1.options = capturedOptions c := by
  rw [Source.captureSettings]

theorem sameView_used (client : Client) (used : Int → Bool) :
    SameView client { client with used := used } := ⟨rfl, rfl, rfl⟩

theorem create_upToDate {uuid : String} {input : Input}
    (h : create client uuid input = some (i, client')) :
    UpToDate client' i ∧ SameView client client' := by
  obtain ⟨⟨c, captured⟩, hCapture, hResult⟩ := Option.map_eq_some_iff.mp h
  simp only [Prod.mk.injEq] at hResult
  obtain ⟨rfl, rfl⟩ := hResult
  obtain ⟨-, -, -, hView⟩ := capture_cases hCapture
  have hCaptured :
      UpToDate captured ⟨(Source.construct uuid captured.ports c).1, input.settings⟩ := by
    apply upToDate_captured hCapture (Source.unregistered uuid c)
    · simp only [Source.construct, Source.putConnection]
    · simp only [Source.construct, Source.putConnection, options_captured]
  exact ⟨hCaptured.congr (sameView_used captured _), hView.trans (sameView_used captured _)⟩

theorem reactivate_upToDate {input : Input} {i' : Instance}
    (h : reactivate client i input = some (i', client')) :
    UpToDate client' i' ∧ SameView client client' := by
  obtain ⟨⟨c, captured⟩, hCapture, hResult⟩ := Option.map_eq_some_iff.mp h
  simp only [Prod.mk.injEq] at hResult
  obtain ⟨rfl, rfl⟩ := hResult
  obtain ⟨-, -, -, hView⟩ := capture_cases hCapture
  have hCaptured :
      UpToDate captured ⟨(i.source.onSettingsUpdate captured.ports c).1, input.settings⟩ := by
    apply upToDate_captured hCapture i.source
    · simp only [Source.onSettingsUpdate, Source.putConnection]
    · simp only [Source.onSettingsUpdate, Source.putConnection, options_captured]
  exact ⟨hCaptured.congr (sameView_used captured _), hView.trans (sameView_used captured _)⟩

theorem reactivateAll_upToDate {input : Nat → Input} {sources sources' : List Instance} {k : Nat}
    (h : reactivateAll input k sources client = some (sources', client')) :
    (∀ i ∈ sources', UpToDate client' i) ∧ SameView client client' := by
  induction sources generalizing k client sources' with
  | nil =>
    obtain ⟨rfl, rfl⟩ := Prod.mk.inj (Option.some.inj h)
    exact ⟨fun i hi => absurd hi List.not_mem_nil, rfl, rfl, rfl⟩
  | cons i rest ih =>
    obtain ⟨⟨i', first⟩, hFirst, hOthers⟩ := Option.bind_eq_some_iff.mp h
    obtain ⟨⟨rest', last⟩, hRest, hResult⟩ := Option.map_eq_some_iff.mp hOthers
    obtain ⟨rfl, rfl⟩ := Prod.mk.inj hResult
    obtain ⟨hUpToDate, hView⟩ := reactivate_upToDate hFirst
    obtain ⟨hAll, hViewRest⟩ := ih hRest
    -- the captures of the later sources do not outdate the first one
    exact ⟨List.forall_mem_cons.mpr ⟨hUpToDate.congr hViewRest, hAll⟩, hView.trans hViewRest⟩

/-- The slots that capture nothing leave the copies alone. -/
theorem UpToDate.apply {source : Source} (h : UpToDate client ⟨source, settings⟩) {e : SourceEvent}
    (hOther : e.capturesSettings = false) : UpToDate client ⟨source.apply e, settings⟩ := by
  have hCopies : (source.apply e).connRequest = source.connRequest ∧
      (source.apply e).options = source.options := by
    have hApplied := applied source e
    generalize source.apply e = target at hApplied ⊢
    cases hApplied with
    | captured => cases hOther
    | _ => exact ⟨rfl, rfl⟩
  rw [upToDate_iff] at h ⊢
  simp only [Source.port, hCopies] at h ⊢
  exact h

end View

section Steps

attribute [local irreducible] SettingsDialog.Form.saveSettings

variable {w w' : World}

theorem World.UpToDate.congr (h : w.UpToDate) {client : Client} (hView : SameView w.client client) :
    { w with client := client : World }.UpToDate where
  sources i hi := (h.sources i hi).congr hView
  outputs interval hInterval := (h.outputs interval hInterval).trans hView.interval.symm

theorem refreshIngress_upToDate {input : Nat → Input} (h : w.refreshIngress input = some w') :
    (∀ i ∈ w'.sources, SettingsPropagation.UpToDate w'.client i) ∧ SameView w.client w'.client ∧
      w'.intervals = w.intervals := by
  obtain ⟨⟨sources, client⟩, hAll, rfl⟩ := Option.map_eq_some_iff.mp h
  obtain ⟨hSources, hView⟩ := reactivateAll_upToDate hAll
  exact ⟨hSources, hView, rfl⟩

theorem sameView_setValue {key : String} (hOther : qUtf8Printable key ∉ usedKeys)
    (client : Client) (v : String) :
    SameView client { client with settings := setValue client.settings key v } := by
  have hKept (key' d : String) (hKey : key' ∈ usedKeys) :
      value (setValue client.settings key v) key' d = value client.settings key' d := by
    have hUsed : ∀ used ∈ usedKeys, qUtf8Printable used = used := by decide
    refine value_setValue_of_ne _ (fun hSame => hOther ?_) v d
    rwa [← hSame, hUsed key' hKey]
  have hNumber (key' d : String) (hKey : key' ∈ usedKeys) :
      getInt (setValue client.settings key v) key' d = getInt client.settings key' d :=
    congrArg QString.toInt (hKept key' d hKey)
  refine ⟨ingressView_eq_iff.mpr ⟨?_, hNumber _ _ (by decide), hNumber _ _ (by decide)⟩, ?_, ?_⟩
  · simp only [apiSettings, getIngressProtocol, getIngressSrtLatency, getIngressSrtPbkeylen,
      getIngressReconnectDelayTime, getIngressNetworkBufferSize]
    rw [hKept _ _ (by decide), hNumber _ _ (by decide), hNumber _ _ (by decide),
      hNumber _ _ (by decide), hNumber _ _ (by decide)]
  · exact privateAddress_congr (hKept _ _ (by decide)) (hNumber _ _ (by decide))
  · rw [Client.snapshotInterval, Client.snapshotInterval, getEgressScreenshotInterval,
      getEgressScreenshotInterval, hNumber _ _ (by decide)]

/-- The addresses and the dialog change what only a refresh would copy. -/
theorem upToDate_iff_of_sameSources (h : w.UpToDate) {client : Client}
    (hView : ingressView client.settings = ingressView w.client.settings) {intervals : List Int}
    (hIntervals : ∀ interval ∈ intervals, interval = client.snapshotInterval) :
    (World.mk client w.sources intervals).UpToDate ↔
      (w.sources ≠ [] → client.privateAddress = w.client.privateAddress) := by
  constructor
  · intro hUpToDate hSome
    obtain ⟨i, hi⟩ := List.exists_mem_of_ne_nil _ hSome
    exact ((h.sources i hi).congr_iff hView).mp (hUpToDate.sources i hi)
  · intro hKeeps
    refine ⟨fun i hi => ?_, hIntervals⟩
    exact ((h.sources i hi).congr_iff hView).mpr (hKeeps (List.ne_nil_of_mem hi))

theorem ingressView_saveSettings {form : SettingsDialog.Form} {s : Store}
    (hNotNeeded : form.ingressRefreshNeeded s = false) :
    ingressView (form.saveSettings s) = ingressView s := by
  have hForm := (SettingsDialog.ingressRefreshNeeded_eq_false_iff form s).mp hNotNeeded
  have hSaved := SettingsDialog.storedIngress_saveSettings form s
  rw [hForm, (SettingsDialog.saved_eq_self_iff _).mpr (SettingsDialog.protocol_storedIngress s)]
    at hSaved
  generalize form.saveSettings s = s' at hSaved ⊢
  simp only [SettingsDialog.storedIngress, SettingsDialog.IngressValues.mk.injEq] at hSaved
  simp only [ingressView, apiSettings, hSaved]

/-- A dialog that is accepted changes the snapshot interval only if it asks for a refresh. -/
theorem snapshotInterval_saveSettings {form : SettingsDialog.Form} {client : Client}
    (hNotNeeded : form.egressRefreshNeeded client.settings = false) :
    { client with settings := form.saveSettings client.settings : Client }.snapshotInterval =
      client.snapshotInterval := by
  have hInterval : form.screenshotInterval = getEgressScreenshotInterval client.settings :=
    not_not.mp (of_decide_eq_false hNotNeeded)
  rw [Client.snapshotInterval, Client.snapshotInterval,
    SettingsDialog.getEgressScreenshotInterval_saveSettings, hInterval]

/-- Accepting the dialog treats the outputs last. -/
theorem outputs_accepted (h : w.UpToDate) {w₁ : World} {needed : Bool}
    (hInterval : needed = false → w₁.client.snapshotInterval = w.client.snapshotInterval)
    (hIntervals : w₁.intervals = w.intervals)
    (hEgress : (if needed then w₁.refreshEgress else w₁) = w') :
    w'.client = w₁.client ∧ w'.sources = w₁.sources ∧
      ∀ interval ∈ w'.intervals, interval = w'.client.snapshotInterval := by
  cases needed with
  | true =>
    obtain rfl := hEgress
    refine ⟨rfl, rfl, fun interval hMem => ?_⟩
    obtain ⟨_, _, rfl⟩ := List.mem_map.mp hMem
    rfl
  | false =>
    obtain rfl := hEgress
    refine ⟨rfl, rfl, fun interval hMem => ?_⟩
    have hOld : interval ∈ w.intervals := hIntervals ▸ hMem
    exact (h.outputs interval hOld).trans (hInterval rfl).symm

theorem accept_upToDate_iff (h : w.UpToDate) {form : SettingsDialog.Form} {input : Nat → Input}
    (hStep : w.accept form input = some w') :
    w'.UpToDate ↔ KeepsAddress w (.accept form input) := by
  let saved : World := { w with client.settings := form.saveSettings w.client.settings }
  obtain ⟨w₁, hIngress, hEgress⟩ := Option.map_eq_some_iff.mp hStep
  change (if form.ingressRefreshNeeded w.client.settings then saved.refreshIngress input
    else some saved) = some w₁ at hIngress
  have hInterval (hNot : form.egressRefreshNeeded w.client.settings = false) :
      saved.client.snapshotInterval = w.client.snapshotInterval :=
    snapshotInterval_saveSettings hNot
  split at hIngress
  · next hNeeded =>
    obtain ⟨hRefreshed, hView, hIntervals⟩ := refreshIngress_upToDate hIngress
    obtain ⟨hClient, hSources, hOutputs⟩ := outputs_accepted h
      (fun hNot => hView.interval.trans (hInterval hNot)) hIntervals hEgress
    refine iff_of_true ⟨?_, hOutputs⟩ fun hNot => ?_
    · rw [hClient, hSources]
      exact hRefreshed
    · rw [hNeeded] at hNot
      cases hNot
  · next hNotNeeded =>
    rw [Bool.not_eq_true] at hNotNeeded
    obtain rfl := Option.some.inj hIngress
    obtain ⟨hClient, hSources, hOutputs⟩ := outputs_accepted h hInterval rfl hEgress
    have hView : ingressView saved.client.settings = ingressView w.client.settings :=
      ingressView_saveSettings hNotNeeded
    obtain ⟨client, sources, intervals⟩ := w'
    obtain rfl : client = saved.client := hClient
    obtain rfl : sources = w.sources := hSources
    refine (upToDate_iff_of_sameSources h hView hOutputs).trans ?_
    exact ⟨fun hKeeps _ => hKeeps, fun hKeeps => hKeeps hNotNeeded⟩

theorem step_upToDate_iff (h : w.UpToDate) {e : Event} (hStep : step w e = some w') :
    w'.UpToDate ↔ KeepsAddress w e := by
  cases e with
  | accept form input => exact accept_upToDate_iff h hStep
  | addressesChanged allAddresses =>
    obtain rfl := Option.some.inj hStep
    have hView : ingressView { w.client with allAddresses := allAddresses : Client }.settings =
        ingressView w.client.settings := rfl
    exact upToDate_iff_of_sameSources h hView h.outputs
  | createSource uuid input =>
    refine iff_of_true ?_ trivial
    obtain ⟨⟨i, client⟩, hCreate, rfl⟩ := Option.map_eq_some_iff.mp hStep
    obtain ⟨hNew, hView⟩ := create_upToDate hCreate
    have hOld := h.congr hView
    refine ⟨fun i' hi => ?_, hOld.outputs⟩
    rcases List.mem_append.mp hi with hMem | hMem
    · exact hOld.sources i' hMem
    · obtain rfl := List.mem_singleton.mp hMem
      exact hNew
  | updateSource index input =>
    refine iff_of_true ?_ trivial
    obtain ⟨i, hSource, hUpdate⟩ := Option.bind_eq_some_iff.mp hStep
    obtain ⟨⟨i', client⟩, hReactivate, rfl⟩ := Option.map_eq_some_iff.mp hUpdate
    obtain ⟨hNew, hView⟩ := reactivate_upToDate hReactivate
    have hOld := h.congr hView
    refine ⟨fun i'' hi => ?_, hOld.outputs⟩
    rcases List.mem_or_eq_of_mem_set hi with hMem | rfl
    · exact hOld.sources i'' hMem
    · exact hNew
  | signal index e hOther =>
    refine iff_of_true ?_ trivial
    obtain ⟨⟨source, settings⟩, hSource, rfl⟩ := Option.map_eq_some_iff.mp hStep
    refine ⟨fun i hi => ?_, h.outputs⟩
    rcases List.mem_or_eq_of_mem_set hi with hMem | rfl
    · exact h.sources i hMem
    · exact (h.sources _ (List.mem_of_getElem? hSource)).apply hOther
  | licenseChanged licenseValid input =>
    refine iff_of_true ?_ trivial
    cases licenseValid with
    | false => exact Option.some.inj hStep ▸ h
    | true =>
      obtain ⟨hSources, hView, hSame⟩ := refreshIngress_upToDate hStep
      exact ⟨hSources, hSame ▸ (h.congr hView).outputs⟩
  | destroySource index =>
    refine iff_of_true ?_ trivial
    obtain ⟨i, -, rfl⟩ := Option.map_eq_some_iff.mp hStep
    have hKept :=
      h.congr (sameView_used w.client (Listeners.destroyed w.client.ports i.source).used)
    exact ⟨fun i' hi => hKept.sources i' (List.mem_of_mem_eraseIdx hi), hKept.outputs⟩
  | createOutput =>
    refine iff_of_true ?_ trivial
    obtain rfl := Option.some.inj hStep
    refine ⟨h.sources, fun interval hInterval => ?_⟩
    rcases List.mem_append.mp hInterval with hMem | hMem
    · exact h.outputs interval hMem
    · exact List.mem_singleton.mp hMem
  | destroyOutput index =>
    refine iff_of_true ?_ trivial
    obtain rfl := Option.some.inj hStep
    exact ⟨h.sources, fun interval hInterval =>
      h.outputs interval (List.mem_of_mem_eraseIdx hInterval)⟩
  | setValue key v hOther =>
    refine iff_of_true ?_ trivial
    obtain rfl := Option.some.inj hStep
    exact h.congr (sameView_setValue hOther w.client v)

end Steps

/-- In every state the sources and the outputs have the present settings, exactly if the private
address never changes unnoticed while there are sources. -/
theorem upToDate_iff_keepsAddress (x : Execution step)
    (hStart : (x.state 0).sources = [] ∧ (x.state 0).intervals = []) :
    (∀ n, (x.state n).UpToDate) ↔ ∀ n e, x.event n = some e → KeepsAddress (x.state n) e := by
  have hInitial : (x.state 0).UpToDate := by
    refine ⟨fun i hi => ?_, fun interval hInterval => ?_⟩
    · rw [hStart.1] at hi
      cases hi
    · rw [hStart.2] at hInterval
      cases hInterval
  exact x.always_iff hInitial fun n e hEvent hn => step_upToDate_iff hn (x.next_of_event hEvent)

def freshWorld : World :=
  { client := { settings := [], allAddresses := oneInterface, used := fun _ => false } }

def input : Input := ⟨(selectedCapture "a" false).settings, "a"⟩

/-- Another latency and another snapshot interval are chosen. -/
def changedForm : SettingsDialog.Form :=
  { SettingsDialog.loadSettings oneInterface [] with
    latencySpinBox := ⟨300, by decide, by decide⟩
    ssIntervalComboBox := SettingsDialog.find [5, 10, 15, 30, 60] 30
    ssInterval_items := rfl }

def dialogAccepted : List Event :=
  [.createSource "source" input, .createOutput, .accept changedForm fun _ => input]

def dialogAcceptedRun : Execution step := .ofRun step freshWorld dialogAccepted (by decide +kernel)

theorem upToDate_iff_keepsAddress_dialogAccepted :
    (dialogAcceptedRun.state 3).sources.map (fun i =>
        (i.source.connRequest.value "parameters").toString) = ["latency=300000&pbkeylen=16"] ∧
      (dialogAcceptedRun.state 3).intervals = [30000] ∧
      ∀ n, (dialogAcceptedRun.state n).UpToDate := by
  refine ⟨by decide +kernel, by decide +kernel, ?_⟩
  refine (upToDate_iff_keepsAddress dialogAcceptedRun ⟨rfl, rfl⟩).mpr ?_
  intro n e hEvent
  match n with
  | 0 => exact Option.some.inj hEvent ▸ trivial
  | 1 => exact Option.some.inj hEvent ▸ trivial
  | 2 =>
    obtain rfl := Option.some.inj hEvent
    have hNeeded : changedForm.ingressRefreshNeeded
        (dialogAcceptedRun.state 2).client.settings = true := by decide +kernel
    intro hNot
    rw [hNeeded] at hNot
    cases hNot
  | n + 3 => cases hEvent

end SrcLink.SettingsPropagation
