import Mathlib.Data.Option.Basic
import Mathlib.Logic.Function.Basic

/-! # Followers of a store

A store keeps documents under keys and announces what it puts and drops. A follower of a key
holds the last document that was announced as its own. Whose a document is, it says itself, so
that it can be put under another key, and an operation can go unannounced.
-/

namespace SrcLink.Followers

set_option autoImplicit false

inductive Op (κ α : Type*) where
  | put (key : κ) (doc : α) (announced : Bool)
  | drop (key : κ) (announced : Bool)
  /-- nothing is dropped, but the follower is told so -/
  | release (key : κ)
  | clear

/-- What the followers are told. -/
inductive Notice (κ α : Type*) where
  | ready (doc : α)
  | lost (key : κ)
  | cleared

variable {κ α : Type*}

def Op.notice : Op κ α → Option (Notice κ α)
  | put _ doc announced => if announced then some (.ready doc) else none
  | drop key announced => if announced then some (.lost key) else none
  | release key => some (.lost key)
  | clear => some .cleared

/-- The follower holds nothing but what the store keeps for it. -/
def Follows (store : κ → Option α) (key : κ) (held : Option α) : Prop :=
  ∀ doc, held = some doc → store key = some doc

theorem follows_none {store : κ → Option α} {key : κ} : Follows store key none := nofun

theorem follows_some {store : κ → Option α} {key : κ} {doc : α} :
    Follows store key (some doc) ↔ store key = some doc :=
  ⟨fun h => h doc rfl, fun h _ hDoc => Option.some.inj hDoc ▸ h⟩

variable [DecidableEq κ]

def Op.store : Op κ α → (κ → Option α) → κ → Option α
  | put key doc _, store => Function.update store key (some doc)
  | drop key _, store => Function.update store key none
  | release _, store => store
  | clear, _ => fun _ => none

def Notice.held (owner : α → κ) (key : κ) : Notice κ α → Option α → Option α
  | ready doc, held => if owner doc = key then some doc else held
  | lost key', held => if key' = key then none else held
  | cleared, _ => none

/-- A document is taken from under another key, or what the store keeps for the follower is
replaced or dropped without its being told. -/
def Op.Misleads (owner : α → κ) (key : κ) (store : κ → Option α) (held : Option α) :
    Op κ α → Prop
  | put key' doc announced =>
    if announced ∧ owner doc = key then key' ≠ key ∧ store key ≠ some doc
    else key' = key ∧ ∃ other, held = some other ∧ other ≠ doc
  | drop key' announced => announced = false ∧ key' = key ∧ held ≠ none
  | release _ | clear => False

section Follows

variable {key : κ} {store : κ → Option α} {held : Option α}

theorem follows_put_iff (h : Follows store key held) (key' : κ) (doc : α) :
    Follows (Function.update store key' (some doc)) key held ↔
      ¬(key' = key ∧ ∃ other, held = some other ∧ other ≠ doc) := by
  by_cases hKey : key' = key
  · subst hKey
    rw [Follows, Function.update_self]
    refine ⟨fun hFollows hOther => ?_, fun hSame other hHeld => ?_⟩
    · obtain ⟨-, other, hHeld, hNe⟩ := hOther
      exact hNe (Option.some.inj (hFollows other hHeld)).symm
    · by_contra hNe
      exact hSame ⟨rfl, other, hHeld, fun hEq => hNe (congrArg some hEq.symm)⟩
  · refine iff_of_true (fun other hHeld => ?_) fun hOther => hKey hOther.1
    rw [Function.update_of_ne (Ne.symm hKey)]
    exact h other hHeld

theorem follows_drop_iff (h : Follows store key held) (key' : κ) :
    Follows (Function.update store key' none) key held ↔ ¬(key' = key ∧ held ≠ none) := by
  by_cases hKey : key' = key
  · subst hKey
    rw [Follows, Function.update_self]
    cases held with
    | none => exact iff_of_true nofun fun hSome => hSome.2 rfl
    | some other => exact iff_of_false (fun hFollows => nomatch hFollows other rfl) (by simp)
  · refine iff_of_true (fun other hHeld => ?_) fun hSome => hKey hSome.1
    rw [Function.update_of_ne (Ne.symm hKey)]
    exact h other hHeld

/-- An announced document under its own key misleads nobody. -/
theorem Op.not_misleads_own {owner : α → κ} {key' : κ} {doc : α} (hOwn : owner doc = key') :
    ¬(Op.put key' doc true).Misleads owner key store held := by
  subst hOwn
  rw [Op.Misleads]
  split
  · next hTold => exact fun hOther => hOther.1 hTold.2
  · next hUntold => exact fun hSame => hUntold ⟨rfl, hSame.1⟩

/-- An operation keeps the follower right exactly if it does not mislead it. -/
theorem Op.follows_iff (owner : α → κ) (op : Op κ α) (h : Follows store key held) :
    Follows (op.store store) key (op.notice.elim held fun n => n.held owner key held) ↔
      ¬op.Misleads owner key store held := by
  cases op with
  | put key' doc announced =>
    by_cases hTold : announced ∧ owner doc = key
    · obtain ⟨rfl, hOwner⟩ := hTold
      simp only [Op.notice, Op.store, Op.Misleads, Notice.held, hOwner, if_true, Option.elim_some,
        and_self, follows_some, not_and_not_right]
      by_cases hKey : key' = key
      · rw [hKey, Function.update_self]
        exact iff_of_true rfl fun hNe => absurd rfl hNe
      · rw [Function.update_of_ne (Ne.symm hKey)]
        exact ⟨fun hKept _ => hKept, fun hKept => hKept hKey⟩
    · have hHeld : ((Op.put key' doc announced).notice.elim held fun n => n.held owner key held) =
          held := by
        cases announced with
        | false => rfl
        | true => exact if_neg fun hOwner => hTold ⟨rfl, hOwner⟩
      rw [hHeld, Op.Misleads, if_neg hTold]
      exact follows_put_iff h key' doc
  | drop key' announced =>
    cases announced with
    | false => simpa [Op.notice, Op.store, Op.Misleads] using follows_drop_iff h key'
    | true =>
      refine iff_of_true (fun doc hHeld => ?_) fun hMisleads => Bool.noConfusion hMisleads.1
      by_cases hKey : key' = key
      · simp [Op.notice, Notice.held, hKey] at hHeld
      · simp only [Op.notice, Notice.held, hKey, if_true, if_false, Option.elim_some] at hHeld
        rw [Op.store, Function.update_of_ne (Ne.symm hKey)]
        exact h doc hHeld
  | release key' =>
    refine iff_of_true (fun doc hHeld => h doc ?_) id
    simp only [Op.notice, Notice.held, Option.elim_some] at hHeld
    split at hHeld
    · cases hHeld
    · exact hHeld
  | clear => exact iff_of_true nofun id

end Follows

end SrcLink.Followers
