import SrcLink.Client.PrivateIp
import SrcLink.Library.ComboBox

/-! # The settings dialog

The dialog fills its form from the settings when it is created. What is accepted is saved,
and the sources and the outputs are asked to refresh if a value that they use has changed.
The account, the guest code and the texts are left out.
-/

namespace SrcLink.SettingsDialog

open QString (qUtf8Printable)
open SettingsStore
open ApiClient (QHostAddress getPrivateIPv4Addresses plain_of_mem_getPrivateIPv4Addresses)

set_option autoImplicit false

/-- `QSpinBox`; its value is always within the bounds. -/
structure SpinBox (minimum maximum : Int32) where
  value : Int32
  minimum_le : minimum ≤ value
  le_maximum : value ≤ maximum

namespace SpinBox

variable {minimum maximum : Int32}

/-- A value out of bounds is moved to the next bound. -/
def ofValue (hBounds : minimum ≤ maximum) (value : Int32) : SpinBox minimum maximum :=
  if hLow : value < minimum then ⟨minimum, Int32.le_refl _, hBounds⟩
  else if hHigh : maximum < value then ⟨maximum, hBounds, Int32.le_refl _⟩
  else ⟨value, Int32.not_lt.mp hLow, Int32.not_lt.mp hHigh⟩

theorem ofValue_of_eq (hBounds : minimum ≤ maximum) {s : SpinBox minimum maximum} {value : Int32}
    (hValue : value = s.value) : (ofValue hBounds value).value = s.value := by
  rw [hValue, ofValue, dif_neg (Int32.not_lt.mpr s.minimum_le),
    dif_neg (Int32.not_lt.mpr s.le_maximum)]

end SpinBox

/-- The number of the row that is shown. -/
def currentIndex {κ : Type} (c : ComboBox κ) : Int32 :=
  match c.currentIndex with
  | some i => .ofNat i
  | none => -1

/-- The row of that number; there is none before the first. -/
def row (index : Int32) : Option Nat := if index < 0 then none else some index.toNatClampNeg

structure Form where
  portMinSpinBox : SpinBox 1 65535
  portMaxSpinBox : SpinBox 1 65535
  reconnectDelayTimeSpinBox : SpinBox 1 60
  networkBufferSpinBox : SpinBox 0 16
  protocolComboBox : ComboBox String
  latencySpinBox : SpinBox 0 60000
  pbkeylenComboBox : ComboBox Int32
  advancedSettingsCheckBox : Bool
  privateIpComboBox : ComboBox String
  ssIntervalComboBox : ComboBox Int32
  uplinkHwEncoderCheckBox : Bool
  protocol_items : protocolComboBox.items = ["srt"]
  pbkeylen_items : pbkeylenComboBox.items = [16, 24, 32]
  privateIp_plain : ∀ address ∈ privateIpComboBox.items, '\x00' ∉ address.toList
  ssInterval_items : ssIntervalComboBox.items = [5, 10, 15, 30, 60]

/-- `setCurrentIndex(findData(key))` -/
def find {κ : Type} [DecidableEq κ] (items : List κ) (key : κ) : ComboBox κ :=
  let comboBox := ComboBox.ofItems items
  comboBox.setCurrentIndex (comboBox.findData key)

def loadPrivateIp (addresses : List String) (s : Store) : ComboBox String :=
  let comboBox := ComboBox.ofItems addresses
  comboBox.setCurrentIndex <|
    match comboBox.findData (getIngressPrivateIpValue s) with
    | some i => some i
    -- Private IP had been changed -> Fallback saved index.
    | none => row (getIngressPrivateIpIndex s)

/-- The form of a new dialog, on a machine with these addresses. -/
def loadSettings (allAddresses : List QHostAddress) (s : Store) : Form where
  portMinSpinBox := .ofValue (by decide) (getIngressPortMin s)
  portMaxSpinBox := .ofValue (by decide) (getIngressPortMax s)
  reconnectDelayTimeSpinBox := .ofValue (by decide) (getIngressReconnectDelayTime s)
  networkBufferSpinBox := .ofValue (by decide) (getIngressNetworkBufferSize s)
  protocolComboBox := find ["srt"] (getIngressProtocol s)
  latencySpinBox := .ofValue (by decide) (getIngressSrtLatency s)
  pbkeylenComboBox := find [16, 24, 32] (getIngressSrtPbkeylen s)
  advancedSettingsCheckBox := getIngressAdvancedSettings s
  privateIpComboBox := loadPrivateIp (getPrivateIPv4Addresses allAddresses) s
  ssIntervalComboBox := find [5, 10, 15, 30, 60] (getEgressScreenshotInterval s)
  uplinkHwEncoderCheckBox := getEgressPreferHardwareEncoder s
  protocol_items := rfl
  pbkeylen_items := rfl
  privateIp_plain _ hItem := plain_of_mem_getPrivateIPv4Addresses hItem
  ssInterval_items := rfl

/-- The values that the sources use. -/
@[ext] structure IngressValues where
  portMin : Int32
  portMax : Int32
  reconnectDelayTime : Int32
  networkBufferSize : Int32
  protocol : String
  srtLatency : Int32
  srtPbkeylen : Int32
  privateIp : String

namespace Form

/-- Without a row the data reads as the empty string and as zero. -/
def ingress (f : Form) : IngressValues where
  portMin := f.portMinSpinBox.value
  portMax := f.portMaxSpinBox.value
  reconnectDelayTime := f.reconnectDelayTimeSpinBox.value
  networkBufferSize := f.networkBufferSpinBox.value
  protocol := f.protocolComboBox.currentData.getD ""
  srtLatency := f.latencySpinBox.value
  srtPbkeylen := f.pbkeylenComboBox.currentData.getD 0
  privateIp := f.privateIpComboBox.currentData.getD ""

def screenshotInterval (f : Form) : Int32 := f.ssIntervalComboBox.currentData.getD 0

def ingressRefreshNeeded (f : Form) (s : Store) : Bool :=
  f.ingress.portMin ≠ getIngressPortMin s || f.ingress.portMax ≠ getIngressPortMax s ||
    f.ingress.reconnectDelayTime ≠ getIngressReconnectDelayTime s ||
    f.ingress.networkBufferSize ≠ getIngressNetworkBufferSize s ||
    f.ingress.protocol ≠ getIngressProtocol s || f.ingress.srtLatency ≠ getIngressSrtLatency s ||
    f.ingress.srtPbkeylen ≠ getIngressSrtPbkeylen s ||
    f.ingress.privateIp ≠ getIngressPrivateIpValue s

def egressRefreshNeeded (f : Form) (s : Store) : Bool :=
  f.screenshotInterval ≠ getEgressScreenshotInterval s

/-- The settings after `saveSettings`. -/
def saveSettings (f : Form) (s : Store) : Store :=
  let s := setIngressPortMin s f.ingress.portMin
  let s := setIngressPortMax s f.ingress.portMax
  let s := setIngressReconnectDelayTime s f.ingress.reconnectDelayTime
  let s := setIngressNetworkBufferSize s f.ingress.networkBufferSize
  let s := setIngressProtocol s f.ingress.protocol
  let s := setIngressSrtLatency s f.ingress.srtLatency
  let s := setIngressSrtPbkeylen s f.ingress.srtPbkeylen
  let s := setIngressAdvancedSettings s f.advancedSettingsCheckBox
  let s := setIngressPrivateIpIndex s (currentIndex f.privateIpComboBox)
  let s := setIngressPrivateIpValue s f.ingress.privateIp
  let s := setEgressScreenshotInterval s f.screenshotInterval
  setEgressPreferHardwareEncoder s f.uplinkHwEncoderCheckBox

end Form

def storedIngress (s : Store) : IngressValues where
  portMin := getIngressPortMin s
  portMax := getIngressPortMax s
  reconnectDelayTime := getIngressReconnectDelayTime s
  networkBufferSize := getIngressNetworkBufferSize s
  protocol := getIngressProtocol s
  srtLatency := getIngressSrtLatency s
  srtPbkeylen := getIngressSrtPbkeylen s
  privateIp := getIngressPrivateIpValue s

/-- The values as they are read back: the protocol alone has a default that is not empty. -/
def IngressValues.saved (v : IngressValues) : IngressValues :=
  { v with protocol := if v.protocol ≠ "" then v.protocol else "srt" }

theorem value_setValue (s : Store) (key key' v d : String) :
    value (setValue s key v) key' d =
      if qUtf8Printable key' = qUtf8Printable key then
        (if qUtf8Printable v ≠ "" then qUtf8Printable v else d)
      else value s key' d := by
  split
  · next hSame => rw [value_congr _ hSame, value_setValue_self]
  · next hOther => exact value_setValue_of_ne s hOther v d

theorem qUtf8Printable_number (value : Int32) :
    qUtf8Printable (QString.number value) = QString.number value :=
  QString.qUtf8Printable_eq_iff.mpr (QString.nul_notMem_number value)

theorem plain_privateIp (f : Form) : '\x00' ∉ f.ingress.privateIp.toList := by
  change '\x00' ∉ (f.privateIpComboBox.currentData.getD "").toList
  cases hData : f.privateIpComboBox.currentData with
  | none => decide
  | some address => exact f.privateIp_plain address (ComboBox.mem_of_currentData hData)

theorem plain_protocol (f : Form) : '\x00' ∉ f.ingress.protocol.toList := by
  change '\x00' ∉ (f.protocolComboBox.currentData.getD "").toList
  cases hData : f.protocolComboBox.currentData with
  | none => decide
  | some protocol =>
    have hListed := ComboBox.mem_of_currentData hData
    rw [f.protocol_items, List.mem_singleton] at hListed
    rw [hListed]
    decide

section Save

attribute [local simp] Form.saveSettings getIngressPortMin getIngressPortMax
  getIngressReconnectDelayTime getIngressNetworkBufferSize getIngressProtocol
  getIngressSrtLatency getIngressSrtPbkeylen getIngressAdvancedSettings getIngressPrivateIpIndex
  getIngressPrivateIpValue getEgressScreenshotInterval getEgressPreferHardwareEncoder
  setIngressPortMin setIngressPortMax setIngressReconnectDelayTime setIngressNetworkBufferSize
  setIngressProtocol setIngressSrtLatency setIngressSrtPbkeylen setIngressAdvancedSettings
  setIngressPrivateIpIndex setIngressPrivateIpValue setEgressScreenshotInterval
  setEgressPreferHardwareEncoder getInt setInt getBool setBool value_setValue number_ne_empty
  QString.toInt_number qUtf8Printable_number

variable (f : Form) (s : Store)

theorem ingressRefreshNeeded_eq_false_iff :
    f.ingressRefreshNeeded s = false ↔ f.ingress = storedIngress s := by
  simp only [Form.ingressRefreshNeeded, storedIngress, IngressValues.ext_iff,
    Bool.or_eq_false_iff, decide_eq_false_iff_not, ne_eq, not_not, and_assoc]

theorem storedIngress_saveSettings : storedIngress (f.saveSettings s) = f.ingress.saved := by
  simp only [storedIngress, IngressValues.saved, IngressValues.mk.injEq]
  have hProtocol := QString.qUtf8Printable_eq_iff.mpr (plain_protocol f)
  have hPrivateIp := QString.qUtf8Printable_eq_iff.mpr (plain_privateIp f)
  refine ⟨?_, ?_, ?_, ?_, ?_, ?_, ?_, ?_⟩
  all_goals simp +decide [hProtocol, hPrivateIp]

theorem getIngressPrivateIpIndex_saveSettings :
    getIngressPrivateIpIndex (f.saveSettings s) = currentIndex f.privateIpComboBox := by
  simp +decide

theorem getEgressScreenshotInterval_saveSettings :
    getEgressScreenshotInterval (f.saveSettings s) = f.screenshotInterval := by
  simp +decide

theorem getIngressAdvancedSettings_saveSettings :
    getIngressAdvancedSettings (f.saveSettings s) = f.advancedSettingsCheckBox := by
  cases hChecked : f.advancedSettingsCheckBox <;> simp +decide [hChecked]

theorem getEgressPreferHardwareEncoder_saveSettings :
    getEgressPreferHardwareEncoder (f.saveSettings s) = f.uplinkHwEncoderCheckBox := by
  cases hChecked : f.uplinkHwEncoderCheckBox <;> simp +decide [hChecked]

end Save

/-- What the form says, but for the numbers of its rows. -/
@[ext] structure Values where
  ingress : IngressValues
  screenshotInterval : Int32
  advancedSettings : Bool
  preferHardwareEncoder : Bool

def Form.values (f : Form) : Values where
  ingress := f.ingress
  screenshotInterval := f.screenshotInterval
  advancedSettings := f.advancedSettingsCheckBox
  preferHardwareEncoder := f.uplinkHwEncoderCheckBox

/-- The address is there, or none was chosen and its row does not choose one now. -/
def AddressKept (f : Form) (addresses : List String) : Prop :=
  f.ingress.privateIp ∈ addresses ∨
    f.ingress.privateIp = "" ∧
      (row (currentIndex f.privateIpComboBox)).bind (addresses[·]?) = none

theorem currentData_find {κ : Type} [DecidableEq κ] (items : List κ) (key : κ) :
    (find items key).currentData = if key ∈ items then some key else none := by
  rw [find, ComboBox.currentData_setCurrentIndex]
  cases hFound : (ComboBox.ofItems items).findData key with
  | none =>
    have hMissing : key ∉ items := ComboBox.findData_eq_none_iff.mp hFound
    rw [if_neg hMissing, Option.bind_none]
  | some i =>
    have hItem : items[i]? = some key := ComboBox.getElem?_of_findData hFound
    rw [if_pos (List.mem_of_getElem? hItem), Option.bind_some]
    exact hItem

/-- The data of a row is found again, and so is the value that stands for no row. -/
theorem getD_currentData_find {κ : Type} [DecidableEq κ] {items : List κ} {c : ComboBox κ}
    (hItems : c.items = items) (d : κ) :
    (find items (c.currentData.getD d)).currentData.getD d = c.currentData.getD d := by
  rw [currentData_find]
  split
  · rfl
  · next hMissing =>
    cases hData : c.currentData with
    | none => rfl
    | some key =>
      rw [hData] at hMissing
      exact absurd (hItems ▸ ComboBox.mem_of_currentData hData) hMissing

theorem currentData_loadPrivateIp (addresses : List String) (s : Store) :
    (loadPrivateIp addresses s).currentData =
      if getIngressPrivateIpValue s ∈ addresses then some (getIngressPrivateIpValue s)
      else (row (getIngressPrivateIpIndex s)).bind (addresses[·]?) := by
  rw [loadPrivateIp, ComboBox.currentData_setCurrentIndex]
  cases hFound : (ComboBox.ofItems addresses).findData (getIngressPrivateIpValue s) with
  | none =>
    have hMissing : getIngressPrivateIpValue s ∉ addresses :=
      ComboBox.findData_eq_none_iff.mp hFound
    rw [if_neg hMissing]
    rfl
  | some i =>
    have hItem : addresses[i]? = some (getIngressPrivateIpValue s) :=
      ComboBox.getElem?_of_findData hFound
    rw [if_pos (List.mem_of_getElem? hItem)]
    exact hItem

theorem protocol_storedIngress (s : Store) : (storedIngress s).protocol ≠ "" := by
  simp only [storedIngress, getIngressProtocol, value]
  split
  · next hChosen => exact hChosen
  · decide

theorem saved_eq_self_iff (v : IngressValues) : v.saved = v ↔ v.protocol ≠ "" := by
  constructor
  · intro hSame hEmpty
    have hProtocol := congrArg IngressValues.protocol hSame
    simp [IngressValues.saved, hEmpty] at hProtocol
  · intro hChosen
    rw [IngressValues.saved, if_pos hChosen]

section Reload

variable (f : Form) (s : Store) (allAddresses : List QHostAddress)

theorem ingress_loadSettings (s : Store) :
    (loadSettings allAddresses s).ingress =
      { portMin := (SpinBox.ofValue (by decide) (getIngressPortMin s) : SpinBox 1 65535).value
        portMax := (SpinBox.ofValue (by decide) (getIngressPortMax s) : SpinBox 1 65535).value
        reconnectDelayTime :=
          (SpinBox.ofValue (by decide) (getIngressReconnectDelayTime s) : SpinBox 1 60).value
        networkBufferSize :=
          (SpinBox.ofValue (by decide) (getIngressNetworkBufferSize s) : SpinBox 0 16).value
        protocol := (find ["srt"] (getIngressProtocol s)).currentData.getD ""
        srtLatency := (SpinBox.ofValue (by decide) (getIngressSrtLatency s) : SpinBox 0 60000).value
        srtPbkeylen := (find [16, 24, 32] (getIngressSrtPbkeylen s)).currentData.getD 0
        privateIp :=
          (loadPrivateIp (getPrivateIPv4Addresses allAddresses) s).currentData.getD "" } := rfl

theorem privateIp_loadSettings :
    (loadSettings allAddresses (f.saveSettings s)).ingress.privateIp = f.ingress.privateIp ↔
      AddressKept f (getPrivateIPv4Addresses allAddresses) := by
  have hLoaded :=
    currentData_loadPrivateIp (getPrivateIPv4Addresses allAddresses) (f.saveSettings s)
  have hValue : getIngressPrivateIpValue (f.saveSettings s) = f.ingress.privateIp :=
    congrArg IngressValues.privateIp (storedIngress_saveSettings f s)
  rw [hValue, getIngressPrivateIpIndex_saveSettings] at hLoaded
  rw [ingress_loadSettings, hLoaded, AddressKept]
  split
  · next hListed => exact iff_of_true rfl (.inl hListed)
  · next hMissing =>
    rw [or_iff_right hMissing]
    cases hRow : (row (currentIndex f.privateIpComboBox)).bind
        ((getPrivateIPv4Addresses allAddresses)[·]?) with
    | none =>
      rw [and_iff_left rfl]
      exact eq_comm
    | some address =>
      refine iff_of_false (fun hSame => hMissing ?_) fun hNone => nomatch hNone.2
      obtain ⟨_, _, hItem⟩ := Option.bind_eq_some_iff.mp hRow
      exact hSame ▸ List.mem_of_getElem? hItem

theorem protocol_ne_empty_iff : f.ingress.protocol ≠ "" ↔ f.ingress.protocol = "srt" := by
  change f.protocolComboBox.currentData.getD "" ≠ "" ↔ f.protocolComboBox.currentData.getD "" = _
  cases hData : f.protocolComboBox.currentData with
  | none => decide
  | some protocol =>
    have hListed := ComboBox.mem_of_currentData hData
    rw [f.protocol_items, List.mem_singleton] at hListed
    rw [hListed]
    decide

/-- A form that has no protocol is saved with the default one. -/
theorem protocol_loadSettings :
    (loadSettings allAddresses (f.saveSettings s)).ingress.protocol = f.ingress.protocol ↔
      f.ingress.protocol ≠ "" := by
  have hStored : getIngressProtocol (f.saveSettings s) = "srt" := by
    refine (congrArg IngressValues.protocol (storedIngress_saveSettings f s)).trans ?_
    change (if f.ingress.protocol ≠ "" then f.ingress.protocol else "srt") = "srt"
    split
    · next hChosen => exact (protocol_ne_empty_iff f).mp hChosen
    · rfl
  rw [ingress_loadSettings, hStored, protocol_ne_empty_iff]
  exact eq_comm

theorem ingress_reloaded :
    (loadSettings allAddresses (f.saveSettings s)).ingress =
      { f.ingress with
        protocol := (loadSettings allAddresses (f.saveSettings s)).ingress.protocol
        privateIp := (loadSettings allAddresses (f.saveSettings s)).ingress.privateIp } := by
  have hStored := storedIngress_saveSettings f s
  generalize f.saveSettings s = t at hStored ⊢
  rw [ingress_loadSettings]
  simp only [storedIngress, IngressValues.saved, Form.ingress, IngressValues.mk.injEq] at hStored ⊢
  obtain ⟨hMin, hMax, hDelay, hBuffer, -, hLatency, hPbkeylen, -⟩ := hStored
  rw [hPbkeylen]
  exact ⟨SpinBox.ofValue_of_eq _ hMin, SpinBox.ofValue_of_eq _ hMax,
    SpinBox.ofValue_of_eq _ hDelay, SpinBox.ofValue_of_eq _ hBuffer, trivial,
    SpinBox.ofValue_of_eq _ hLatency, getD_currentData_find f.pbkeylen_items 0,
    trivial⟩

theorem screenshotInterval_reloaded :
    (loadSettings allAddresses (f.saveSettings s)).screenshotInterval = f.screenshotInterval := by
  have hInterval := getEgressScreenshotInterval_saveSettings f s
  generalize f.saveSettings s = t at hInterval ⊢
  simp only [Form.screenshotInterval, loadSettings] at hInterval ⊢
  rw [hInterval]
  exact getD_currentData_find f.ssInterval_items 0

theorem checkBoxes_reloaded :
    (loadSettings allAddresses (f.saveSettings s)).advancedSettingsCheckBox =
        f.advancedSettingsCheckBox ∧
      (loadSettings allAddresses (f.saveSettings s)).uplinkHwEncoderCheckBox =
        f.uplinkHwEncoderCheckBox := by
  have hAdvanced := getIngressAdvancedSettings_saveSettings f s
  have hEncoder := getEgressPreferHardwareEncoder_saveSettings f s
  generalize f.saveSettings s = t at hAdvanced hEncoder ⊢
  simp only [loadSettings]
  exact ⟨hAdvanced, hEncoder⟩

/-- What a dialog saves, the next one shows, exactly if a protocol was chosen and the private
address is still there. Saved again, the same form asks for no refresh exactly if a protocol was
chosen. -/
theorem reload_iff :
    ((loadSettings allAddresses (f.saveSettings s)).values = f.values ↔
        f.ingress.protocol ≠ "" ∧ AddressKept f (getPrivateIPv4Addresses allAddresses)) ∧
      (f.ingressRefreshNeeded (f.saveSettings s) = false ↔ f.ingress.protocol ≠ "") ∧
      f.egressRefreshNeeded (f.saveSettings s) = false := by
  refine ⟨?_, ?_, ?_⟩
  · rw [← protocol_loadSettings f s allAddresses, ← privateIp_loadSettings f s allAddresses]
    constructor
    · intro hSame
      have hIngress := IngressValues.ext_iff.mp (congrArg Values.ingress hSame)
      exact ⟨hIngress.2.2.2.2.1, hIngress.2.2.2.2.2.2.2⟩
    · rintro ⟨hProtocol, hAddress⟩
      obtain ⟨hAdvanced, hEncoder⟩ := checkBoxes_reloaded f s allAddresses
      rw [Form.values, Form.values, Values.mk.injEq, screenshotInterval_reloaded, hAdvanced, hEncoder,
        ingress_reloaded, hProtocol, hAddress]
      exact ⟨rfl, rfl, rfl, rfl⟩
  · rw [ingressRefreshNeeded_eq_false_iff, storedIngress_saveSettings, ← saved_eq_self_iff]
    exact eq_comm
  · rw [Form.egressRefreshNeeded, getEgressScreenshotInterval_saveSettings]
    exact decide_eq_false (not_not.mpr rfl)

end Reload

end SrcLink.SettingsDialog
