import Mathlib.Algebra.Ring.Nat
import Mathlib.Data.List.Basic
import SrcLink.Client.SettingsStore

/-! # The private address

The settings remember the private address by value and by position. When the value is
not among the addresses of the machine, the position is used, limited to the end of
the list; a negative position, or an empty list, is not caught.
-/

namespace SrcLink.ApiClient

open SettingsStore

set_option autoImplicit false

structure QHostAddress where
  isIPv4 : Bool
  toIPv4Address : UInt32
  toString : String
  /-- digits, letters and punctuation -/
  toString_plain : '\x00' ∉ toString.toList

def isPrivateIPv4 (ip : UInt32) : Bool :=
  ip &&& 0xFF000000 = 0x0A000000 || ip &&& 0xFFF00000 = 0xAC100000 ||
    ip &&& 0xFFFF0000 = 0xC0A80000

def getPrivateIPv4Addresses (allAddresses : List QHostAddress) : List String :=
  (allAddresses.filter fun address =>
    address.isIPv4 && isPrivateIPv4 address.toIPv4Address).map QHostAddress.toString

theorem plain_of_mem_getPrivateIPv4Addresses {allAddresses : List QHostAddress} {address : String}
    (h : address ∈ getPrivateIPv4Addresses allAddresses) : '\x00' ∉ address.toList := by
  obtain ⟨hostAddress, _, rfl⟩ := List.mem_map.mp h
  exact hostAddress.toString_plain

def indexOf (addresses : List String) (value : String) : Int :=
  if value ∈ addresses then addresses.idxOf value else -1

/-- `operator[]`; none outside of the list, which is undefined behaviour. -/
def element (addresses : List String) (index : Int) : Option String :=
  if index < 0 then none else addresses[index.toNat]?

/-- The remembered position, limited to the end of the list. -/
def fallbackIndex (privateAddresses : List String) (s : Store) : Int :=
  min (getIngressPrivateIpIndex s).toInt (privateAddresses.length - 1)

/-- The address that is returned, with the settings; none if the list was indexed out of bounds. -/
def retrievePrivateIp (privateAddresses : List String) (s : Store) : Option (String × Store) :=
  let index := indexOf privateAddresses (getIngressPrivateIpValue s)
  if index < 0 then
    -- IP had been changed -> fallback to index
    let index := fallbackIndex privateAddresses s
    (element privateAddresses index).map fun address =>
      let s := setIngressPrivateIpIndex (setIngressPrivateIpValue s address) (.ofInt index)
      (getIngressPrivateIpValue s, s)
  else
    let s := setIngressPrivateIpIndex s (.ofInt index)
    some (getIngressPrivateIpValue s, s)

/-- What is returned is an address of the list, and the settings remember it and a position that
holds it. -/
structure Remembers (privateAddresses : List String) (address : String) (s : Store) : Prop where
  listed : address ∈ privateAddresses
  value : getIngressPrivateIpValue s = address
  index : element privateAddresses (getIngressPrivateIpIndex s).toInt = some address

/-- The list is not indexed out of bounds, and gives the address if there is one. -/
def Retrieves (privateAddresses : List String) (s : Store) : Prop :=
  ∃ address s', retrievePrivateIp privateAddresses s = some (address, s') ∧
    (privateAddresses ≠ [] → Remembers privateAddresses address s')

/-- A remembered address is found at a position that an `int` holds, or else there is an address
and the remembered position is not negative. -/
def Retrievable (privateAddresses : List String) (s : Store) : Prop :=
  if getIngressPrivateIpValue s ∈ privateAddresses then
    privateAddresses.idxOf (getIngressPrivateIpValue s) < 2 ^ 31
  else privateAddresses ≠ [] ∧ 0 ≤ (getIngressPrivateIpIndex s).toInt

section Retrieve

variable {privateAddresses : List String} {s : Store}

theorem getIngressPrivateIpIndex_set (s : Store) (index : Int32) :
    getIngressPrivateIpIndex (setIngressPrivateIpIndex s index) = index :=
  getInt_setInt s _ index _

theorem getIngressPrivateIpValue_setIndex (s : Store) (index : Int32) :
    getIngressPrivateIpValue (setIngressPrivateIpIndex s index) = getIngressPrivateIpValue s :=
  value_setValue_of_ne s (by decide) _ _

theorem getIngressPrivateIpValue_set (s : Store) {address : String}
    (hPlain : '\x00' ∉ address.toList) :
    getIngressPrivateIpValue (setIngressPrivateIpValue s address) = address :=
  (keepsStrings s hPlain).ingressPrivateIpValue

theorem element_of_nonneg {index : Int} (hPos : 0 ≤ index) :
    element privateAddresses index = privateAddresses[index.toNat]? :=
  if_neg (Int.not_lt.mpr hPos)

theorem mem_of_element {index : Int} {address : String}
    (h : element privateAddresses index = some address) : address ∈ privateAddresses := by
  unfold element at h
  split at h
  · cases h
  · exact List.mem_of_getElem? h

theorem toInt_ofInt_of_lt {index : Int} (hPos : 0 ≤ index) (hFits : index < 2 ^ 31) :
    (Int32.ofInt index).toInt = index := by
  rw [Int32.toInt_ofInt]
  exact Int.bmod_eq_of_le_mul_two (by simp [Int32.size]; omega) (by simp [Int32.size]; omega)

/-- The first position of an address is found, unless the conversion to `int` changes it: then no
position before it holds the address either. -/
theorem element_idxOf_iff {address : String} (hListed : address ∈ privateAddresses) :
    element privateAddresses (Int32.ofInt (privateAddresses.idxOf address)).toInt =
        some address ↔ privateAddresses.idxOf address < 2 ^ 31 := by
  have hLength := List.idxOf_lt_length_of_mem hListed
  constructor
  · intro hFound
    by_contra hLong
    have hSmall := (Int32.ofInt (privateAddresses.idxOf address)).toInt_lt
    by_cases hPos : 0 ≤ (Int32.ofInt (privateAddresses.idxOf address)).toInt
    · rw [element_of_nonneg hPos] at hFound
      obtain ⟨hIndex, hSame⟩ := List.getElem?_eq_some_iff.mp hFound
      have hEarlier : (Int32.ofInt (privateAddresses.idxOf address)).toInt.toNat <
          privateAddresses.findIdx (· == address) :=
        lt_of_lt_of_le (b := 2 ^ 31) (by omega) (not_lt.mp hLong)
      exact absurd (beq_iff_eq.mpr hSame) (Bool.not_eq_true _ ▸ List.not_of_lt_findIdx hEarlier)
    · rw [element, if_pos (Int.not_le.mp hPos)] at hFound
      cases hFound
  · intro hFits
    rw [toInt_ofInt_of_lt (by omega) (by omega), element_of_nonneg (by omega), Int.toNat_natCast,
      List.getElem?_eq_getElem hLength, List.getElem_idxOf]

theorem remembers_of_index (hPlain : ∀ address ∈ privateAddresses, '\x00' ∉ address.toList)
    (s : Store) {index : Int} (hPos : 0 ≤ index)
    (hLength : index < privateAddresses.length) (hFits : index < 2 ^ 31) :
    ∃ address, element privateAddresses index = some address ∧
      Remembers privateAddresses address
        (setIngressPrivateIpIndex (setIngressPrivateIpValue s address) (.ofInt index)) := by
  have hIndex : index.toNat < privateAddresses.length := by omega
  have hElement : element privateAddresses index = some privateAddresses[index.toNat] := by
    rw [element_of_nonneg hPos, List.getElem?_eq_getElem hIndex]
  have hListed := List.getElem_mem hIndex
  refine ⟨_, hElement, hListed, ?_, ?_⟩
  · rw [getIngressPrivateIpValue_setIndex, getIngressPrivateIpValue_set s (hPlain _ hListed)]
  · rw [getIngressPrivateIpIndex_set, toInt_ofInt_of_lt hPos hFits, hElement]

theorem retrieves_of_mem (hListed : getIngressPrivateIpValue s ∈ privateAddresses) :
    Retrieves privateAddresses s ↔
      privateAddresses.idxOf (getIngressPrivateIpValue s) < 2 ^ 31 := by
  have hRetrieve : retrievePrivateIp privateAddresses s =
      some (getIngressPrivateIpValue s, setIngressPrivateIpIndex s
        (.ofInt (privateAddresses.idxOf (getIngressPrivateIpValue s)))) := by
    rw [retrievePrivateIp, indexOf, if_pos hListed]
    simp only
    rw [if_neg (by omega), getIngressPrivateIpValue_setIndex]
  rw [← element_idxOf_iff hListed]
  constructor
  · rintro ⟨address, s', hResult, hRemembers⟩
    obtain ⟨rfl, rfl⟩ := Prod.mk.inj (Option.some.inj (hRetrieve.symm.trans hResult))
    have hIndex := (hRemembers (List.ne_nil_of_mem hListed)).index
    rwa [getIngressPrivateIpIndex_set] at hIndex
  · intro hElement
    refine ⟨_, _, hRetrieve, fun _ => ⟨hListed, getIngressPrivateIpValue_setIndex s _, ?_⟩⟩
    rwa [getIngressPrivateIpIndex_set]

theorem retrieves_of_not_mem (hPlain : ∀ address ∈ privateAddresses, '\x00' ∉ address.toList)
    (hMissing : getIngressPrivateIpValue s ∉ privateAddresses) :
    Retrieves privateAddresses s ↔
      privateAddresses ≠ [] ∧ 0 ≤ (getIngressPrivateIpIndex s).toInt := by
  have hFallback : retrievePrivateIp privateAddresses s =
      (element privateAddresses (fallbackIndex privateAddresses s)).map fun address =>
        let s := setIngressPrivateIpIndex (setIngressPrivateIpValue s address)
          (.ofInt (fallbackIndex privateAddresses s))
        (getIngressPrivateIpValue s, s) := by
    rw [retrievePrivateIp, indexOf, if_neg hMissing]
    exact if_pos (by decide)
  -- the fallback position is never beyond the list, but it may be negative
  have hSmall := (getIngressPrivateIpIndex s).toInt_lt
  constructor
  · rintro ⟨address, s', hResult, -⟩
    rw [hFallback] at hResult
    obtain ⟨found, hFound, -⟩ := Option.map_eq_some_iff.mp hResult
    rw [element] at hFound
    split at hFound
    · cases hFound
    · next hIndex =>
      rw [fallbackIndex] at hIndex
      refine ⟨fun hNone => ?_, by omega⟩
      rw [hNone, List.length_nil] at hIndex
      omega
  · rintro ⟨hSome, hPos⟩
    have hLength := List.length_pos_of_ne_nil hSome
    have hIndex : 0 ≤ fallbackIndex privateAddresses s := by
      rw [fallbackIndex]
      omega
    have hWithin : fallbackIndex privateAddresses s < privateAddresses.length := by
      rw [fallbackIndex]
      omega
    have hFits : fallbackIndex privateAddresses s < 2 ^ 31 := by
      rw [fallbackIndex]
      omega
    obtain ⟨address, hElement, hRemembers⟩ := remembers_of_index hPlain s hIndex hWithin hFits
    refine ⟨address, _, ?_, fun _ => hRemembers⟩
    rw [hFallback, hElement]
    exact congrArg (fun value => some (value, _)) hRemembers.value

theorem retrievePrivateIp_iff (allAddresses : List QHostAddress) (s : Store) :
    Retrieves (getPrivateIPv4Addresses allAddresses) s ↔
      Retrievable (getPrivateIPv4Addresses allAddresses) s := by
  rw [Retrievable]
  split
  · next hListed => exact retrieves_of_mem hListed
  · next hMissing =>
    exact retrieves_of_not_mem (fun _ => plain_of_mem_getPrivateIPv4Addresses) hMissing

end Retrieve

/-- The settings as the dialog stores them when no address is selected. -/
def unselected : Store := setIngressPrivateIpValue (setIngressPrivateIpIndex [] (-1)) ""

def oneInterface : List QHostAddress := [⟨true, 0x0A000001, "10.0.0.1", by decide⟩]

theorem unselected_not_retrieved :
    ¬∀ (allAddresses : List QHostAddress) (s : Store),
      Retrieves (getPrivateIPv4Addresses allAddresses) s := by
  intro hAll
  obtain ⟨address, s', hResult, -⟩ := hAll oneInterface unselected
  have hOutside : retrievePrivateIp (getPrivateIPv4Addresses oneInterface) unselected = none := by
    decide +kernel
  rw [hOutside] at hResult
  cases hResult

end SrcLink.ApiClient
