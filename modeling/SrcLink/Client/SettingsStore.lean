import SrcLink.Document.Json
import SrcLink.Document.QString

/-! # The settings store

Every setting is kept as a C string under a C string. `value` takes the empty string
for an absent setting and returns the caller's default for it, so the empty string is
read back only where the default is empty too, and nothing behind a U+0000 is kept.
-/

namespace SrcLink.SettingsStore

open Json QString

set_option autoImplicit false

abbrev Store := QJsonObject

def value (s : Store) (key defaultValue : String) : String :=
  let value := (QJsonObject.value s (qUtf8Printable key)).toString
  if value ≠ "" then value else defaultValue

def setValue (s : Store) (key value : String) : Store :=
  s.insert (qUtf8Printable key) (.string (qUtf8Printable value))

def getInt (s : Store) (key defaultValue : String) : Int32 := toInt (value s key defaultValue)

def setInt (s : Store) (key : String) (value : Int32) : Store := setValue s key (number value)

def getBool (s : Store) (key defaultValue : String) : Bool := value s key defaultValue = "true"

def setBool (s : Store) (key : String) (value : Bool) : Store :=
  setValue s key (if value then "true" else "false")

def getPartyId (s : Store) : String := value s "partyId" ""
def setPartyId (s : Store) (partyId : String) : Store := setValue s "partyId" partyId

def getParticipantId (s : Store) : String := value s "participantId" ""
def setParticipantId (s : Store) (participantId : String) : Store :=
  setValue s "participantId" participantId

def getWsPortalId (s : Store) : String := value s "wsPortalId" ""
def setWsPortalId (s : Store) (portalId : String) : Store := setValue s "wsPortalId" portalId

def getIngressPortMax (s : Store) : Int32 := getInt s "ingress.portMax" "10099"
def setIngressPortMax (s : Store) : Int32 → Store := setInt s "ingress.portMax"

def getIngressPortMin (s : Store) : Int32 := getInt s "ingress.portMin" "10000"
def setIngressPortMin (s : Store) : Int32 → Store := setInt s "ingress.portMin"

def getIngressProtocol (s : Store) : String := value s "ingress.protocol" "srt"
def setIngressProtocol (s : Store) : String → Store := setValue s "ingress.protocol"

def getIngressSrtLatency (s : Store) : Int32 := getInt s "ingress.srtLatency" "200"
def setIngressSrtLatency (s : Store) : Int32 → Store := setInt s "ingress.srtLatency"

def getIngressSrtPbkeylen (s : Store) : Int32 := getInt s "ingress.srtPbkeylen" "16"
def setIngressSrtPbkeylen (s : Store) : Int32 → Store := setInt s "ingress.srtPbkeylen"

def getIngressAdvancedSettings (s : Store) : Bool := getBool s "ingress.advancedSettings" "false"
def setIngressAdvancedSettings (s : Store) : Bool → Store := setBool s "ingress.advancedSettings"

def getIngressReconnectDelayTime (s : Store) : Int32 := getInt s "ingress.reconnectDelayTime" "1"
def setIngressReconnectDelayTime (s : Store) : Int32 → Store :=
  setInt s "ingress.reconnectDelayTime"

def getIngressNetworkBufferSize (s : Store) : Int32 := getInt s "ingress.networkBufferSize" "1"
def setIngressNetworkBufferSize (s : Store) : Int32 → Store := setInt s "ingress.networkBufferSize"

def getIngressPrivateIpIndex (s : Store) : Int32 := getInt s "ingress.privateIpIndex" "0"
def setIngressPrivateIpIndex (s : Store) : Int32 → Store := setInt s "ingress.privateIpIndex"

def getIngressPrivateIpValue (s : Store) : String := value s "ingress.privateIpValue" ""
def setIngressPrivateIpValue (s : Store) : String → Store := setValue s "ingress.privateIpValue"

def getEgressScreenshotInterval (s : Store) : Int32 := getInt s "egress.screenshotInterval" "5"
def setEgressScreenshotInterval (s : Store) : Int32 → Store := setInt s "egress.screenshotInterval"

def getEgressPreferHardwareEncoder (s : Store) : Bool :=
  getBool s "egress.preferHardwareEncoder" "true"
def setEgressPreferHardwareEncoder (s : Store) : Bool → Store :=
  setBool s "egress.preferHardwareEncoder"

def defaultInterlockType : String := "virtual_cam"

/-- A null string, which is stored as the empty one. -/
def interlockTypeNone : String := ""

/-- What the output monitor reads. -/
def interlockType (s : Store) : String := value s "interlock_type" defaultInterlockType

section Store

variable (s : Store) (key : String)

theorem value_setValue_self (v d : String) :
    value (setValue s key v) key d = if qUtf8Printable v ≠ "" then qUtf8Printable v else d := by
  rw [value, setValue, QJsonObject.value_insert_self]
  rfl

theorem value_setValue_plain {v : String} (hPlain : '\x00' ∉ v.toList) (d : String) :
    value (setValue s key v) key d = if v ≠ "" then v else d := by
  rw [value_setValue_self, qUtf8Printable_eq_iff.mpr hPlain]

theorem value_setValue_emptyDefault (v : String) :
    value (setValue s key v) key "" = qUtf8Printable v := by
  rw [value_setValue_self]
  split
  · rfl
  · next hEmpty => exact (not_not.mp hEmpty).symm

theorem value_congr {key key' : String} (hSame : qUtf8Printable key' = qUtf8Printable key)
    (d : String) : value s key' d = value s key d := by
  rw [value, value, hSame]

theorem value_setValue_of_ne {key key' : String} (hNe : qUtf8Printable key' ≠ qUtf8Printable key)
    (v d : String) : value (setValue s key v) key' d = value s key' d := by
  rw [value, setValue, QJsonObject.value_insert_of_ne s _ hNe]
  rfl

theorem number_ne_empty (value : Int32) : number value ≠ "" := by
  intro hEmpty
  have hSigned := signed_number value
  rw [hEmpty] at hSigned
  cases hSigned

theorem getInt_setInt (value : Int32) (d : String) :
    getInt (setInt s key value) key d = value := by
  rw [getInt, setInt, value_setValue_plain s key (nul_notMem_number value),
    if_pos (number_ne_empty value), toInt_number]

theorem getBool_setBool (value : Bool) (d : String) :
    getBool (setBool s key value) key d = value := by
  have hPlain : '\x00' ∉ (if value then "true" else "false").toList := by cases value <;> decide
  rw [getBool, setBool, value_setValue_plain s key hPlain]
  cases value <;> rfl

/-- What is written under the key is read with the default, and another key is not touched. -/
structure ReadAfterWrite (v d key' : String) : Prop where
  same : value (setValue s key v) key d = v
  other : key' ≠ key → ∀ d', value (setValue s key v) key' d' = value s key' d'

/-- The value has no U+0000 and is not empty, unless its default stands for it; the other key is
another one also where it is cut, unless what is stored there is not changed. -/
structure ReadsBack (v d key' : String) : Prop where
  written : v ≠ "" ∧ '\x00' ∉ v.toList ∨ qUtf8Printable v = "" ∧ d = v
  otherKey : key' = key ∨ qUtf8Printable key' ≠ qUtf8Printable key ∨
    value s key "" = qUtf8Printable v

theorem value_same_iff (v d : String) :
    value (setValue s key v) key d = v ↔
      v ≠ "" ∧ '\x00' ∉ v.toList ∨ qUtf8Printable v = "" ∧ d = v := by
  rw [value_setValue_self, ← qUtf8Printable_eq_iff]
  split
  · next hCut =>
    rw [or_iff_left fun hDefault => hCut hDefault.1]
    exact ⟨fun hSame => ⟨hSame ▸ hCut, hSame⟩, And.right⟩
  · next hCut =>
    rw [not_not] at hCut
    rw [and_iff_right hCut, or_iff_right fun hKept => hKept.1 (hKept.2.symm.trans hCut)]

/-- A key that is cut to the written one keeps its value if that is the written one already. -/
theorem value_other_iff {v key' : String} (hSame : qUtf8Printable key' = qUtf8Printable key) :
    (∀ d', value (setValue s key v) key' d' = value s key' d') ↔
      value s key "" = qUtf8Printable v := by
  constructor
  · intro hKept
    rw [← value_congr s hSame "", ← hKept "", value_congr _ hSame, value_setValue_emptyDefault]
  · intro hStored d'
    rw [value_congr _ hSame, value_congr s hSame, value_setValue_self, ← hStored]
    simp only [value]
    split <;> simp_all

theorem readAfterWrite_iff (v d key' : String) :
    ReadAfterWrite s key v d key' ↔ ReadsBack s key v d key' := by
  have hKey : (key' ≠ key → ∀ d', value (setValue s key v) key' d' = value s key' d') ↔
      key' = key ∨ qUtf8Printable key' ≠ qUtf8Printable key ∨
        value s key "" = qUtf8Printable v := by
    rw [← or_iff_not_imp_left]
    refine or_congr_right ?_
    by_cases hSame : qUtf8Printable key' = qUtf8Printable key
    · rw [or_iff_right (not_not.mpr hSame)]
      exact value_other_iff s key hSame
    · exact iff_of_true (fun d' => value_setValue_of_ne s hSame v d') (.inl hSame)
  exact ⟨fun h => ⟨(value_same_iff s key v d).mp h.same, hKey.mp h.other⟩,
    fun h => ⟨(value_same_iff s key v d).mpr h.written, hKey.mpr h.otherKey⟩⟩

end Store

structure RoundTrips (s : Store) : Prop where
  ingressPortMax : ∀ v, getIngressPortMax (setIngressPortMax s v) = v
  ingressPortMin : ∀ v, getIngressPortMin (setIngressPortMin s v) = v
  ingressSrtLatency : ∀ v, getIngressSrtLatency (setIngressSrtLatency s v) = v
  ingressSrtPbkeylen : ∀ v, getIngressSrtPbkeylen (setIngressSrtPbkeylen s v) = v
  ingressAdvancedSettings : ∀ v, getIngressAdvancedSettings (setIngressAdvancedSettings s v) = v
  ingressReconnectDelayTime :
    ∀ v, getIngressReconnectDelayTime (setIngressReconnectDelayTime s v) = v
  ingressNetworkBufferSize :
    ∀ v, getIngressNetworkBufferSize (setIngressNetworkBufferSize s v) = v
  ingressPrivateIpIndex : ∀ v, getIngressPrivateIpIndex (setIngressPrivateIpIndex s v) = v
  egressScreenshotInterval : ∀ v, getEgressScreenshotInterval (setEgressScreenshotInterval s v) = v
  egressPreferHardwareEncoder :
    ∀ v, getEgressPreferHardwareEncoder (setEgressPreferHardwareEncoder s v) = v

theorem roundTrips (s : Store) : RoundTrips s where
  ingressPortMax v := getInt_setInt s _ v _
  ingressPortMin v := getInt_setInt s _ v _
  ingressSrtLatency v := getInt_setInt s _ v _
  ingressSrtPbkeylen v := getInt_setInt s _ v _
  ingressAdvancedSettings v := getBool_setBool s _ v _
  ingressReconnectDelayTime v := getInt_setInt s _ v _
  ingressNetworkBufferSize v := getInt_setInt s _ v _
  ingressPrivateIpIndex v := getInt_setInt s _ v _
  egressScreenshotInterval v := getInt_setInt s _ v _
  egressPreferHardwareEncoder v := getBool_setBool s _ v _

structure KeepsStrings (s : Store) (v : String) : Prop where
  partyId : getPartyId (setPartyId s v) = v
  participantId : getParticipantId (setParticipantId s v) = v
  wsPortalId : getWsPortalId (setWsPortalId s v) = v
  ingressPrivateIpValue : getIngressPrivateIpValue (setIngressPrivateIpValue s v) = v
  /-- the only one with a default that is not empty -/
  ingressProtocol : v ≠ "" → getIngressProtocol (setIngressProtocol s v) = v

theorem keepsStrings (s : Store) {v : String} (hPlain : '\x00' ∉ v.toList) : KeepsStrings s v := by
  have hEmptyDefault (key : String) : value (setValue s key v) key "" = v :=
    (value_setValue_emptyDefault s key v).trans (qUtf8Printable_eq_iff.mpr hPlain)
  refine ⟨hEmptyDefault _, hEmptyDefault _, hEmptyDefault _, hEmptyDefault _, fun hValue => ?_⟩
  exact (value_setValue_plain s _ hPlain _).trans (if_pos hValue)

theorem interlockType_setValue_iff (s : Store) (v : String) :
    interlockType (setValue s "interlock_type" v) = v ↔ v ≠ "" ∧ '\x00' ∉ v.toList := by
  refine (value_same_iff s "interlock_type" v defaultInterlockType).trans ?_
  refine or_iff_left ?_
  rintro ⟨hCut, rfl⟩
  exact absurd hCut (by decide)

/-- Where what is written is read back. The accessors of numbers and flags write no empty value;
the interlock type for `Always off` is one. -/
theorem settings_readBack_iff (s : Store) :
    (∀ key v d key', ReadAfterWrite s key v d key' ↔ ReadsBack s key v d key') ∧ RoundTrips s ∧
      ∀ v, interlockType (setValue s "interlock_type" v) = v ↔ v ≠ "" ∧ '\x00' ∉ v.toList :=
  ⟨readAfterWrite_iff s, roundTrips s, interlockType_setValue_iff s⟩

theorem alwaysOff_not_read :
    ¬∀ (s : Store) (key v d key' : String), ReadAfterWrite s key v d key' := by
  intro hAll
  have hSame := (hAll [] "interlock_type" interlockTypeNone defaultInterlockType "").same
  exact absurd hSame (by decide)

end SrcLink.SettingsStore
