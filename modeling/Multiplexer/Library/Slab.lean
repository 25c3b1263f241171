import Mathlib.Data.List.Basic
import Mathlib.Logic.Function.Basic

/-! A slab: values stored in numbered slots that are used again once freed. A key names a slot with
how often it was freed, so that a key kept after its value went finds nothing. -/

set_option autoImplicit false

/-- Where a value is stored: its slot, and how often the slot was freed before. -/
structure Slab.Key where
  index : Nat
  generation : Nat
deriving DecidableEq, Repr

structure Slab.Slot (α : Type) where
  generation : Nat
  value : Option α

/-- The slots and the stack of the free ones, each of which is empty. -/
structure Slab (α : Type) where
  slots : List (Slab.Slot α)
  free : List Nat
  vacant : ∀ index ∈ free, ∃ generation, slots[index]? = some ⟨generation, none⟩
  distinct : free.Nodup

namespace Slab

open List Function

variable {α : Type}

def empty : Slab α where
  slots := []
  free := []
  vacant := by simp
  distinct := by simp

instance : Inhabited (Slab α) := ⟨empty⟩

def get? (slab : Slab α) (key : Key) : Option α :=
  match slab.slots[key.index]? with
  | some slot => if slot.generation = key.generation then slot.value else none
  | none => none

private theorem vacant_set {slots : List (Slot α)} {free : List Nat} {index : Nat} (slot : Slot α)
    (outside : index ∉ free)
    (vacant : ∀ other ∈ free, ∃ generation, slots[other]? = some ⟨generation, none⟩) :
    ∀ other ∈ free, ∃ generation, (slots.set index slot)[other]? = some ⟨generation, none⟩ := by
  intro other member
  obtain ⟨generation, found⟩ := vacant other member
  have different : index ≠ other := fun same => outside (same ▸ member)
  exact ⟨generation, by rw [getElem?_set_ne different, found]⟩

def nextKey (slab : Slab α) : Key :=
  match slab.free with
  | index :: _ => ⟨index, (slab.slots[index]?.map Slot.generation).getD 0⟩
  | [] => ⟨slab.slots.length, 0⟩

/-- `value` stored at `nextKey`: in the slot freed last, or in a new one. -/
def store (slab : Slab α) (value : α) : Slab α :=
  match shape : slab.free with
  | index :: rest =>
    { slots := slab.slots.set index ⟨slab.nextKey.generation, some value⟩
      free := rest
      vacant := by
        have distinct := slab.distinct
        rw [shape, nodup_cons] at distinct
        exact vacant_set _ distinct.1 fun other member =>
          slab.vacant other (by rw [shape]; exact .tail _ member)
      distinct := by
        have distinct := slab.distinct
        rw [shape, nodup_cons] at distinct
        exact distinct.2 }
  | [] =>
    { slots := slab.slots ++ [⟨0, some value⟩]
      free := []
      vacant := by simp
      distinct := by simp }

def modify (slab : Slab α) (key : Key) (change : α → α) : Slab α :=
  match found : slab.get? key with
  | some value =>
    { slots := slab.slots.set key.index ⟨key.generation, some (change value)⟩
      free := slab.free
      vacant := by
        refine vacant_set _ (fun member => ?_) slab.vacant
        obtain ⟨generation, empty⟩ := slab.vacant _ member
        simp [get?, empty] at found
      distinct := slab.distinct }
  | none => slab

def release (slab : Slab α) (key : Key) : Slab α :=
  match found : slab.get? key with
  | some _ =>
    { slots := slab.slots.set key.index ⟨key.generation + 1, none⟩
      free := key.index :: slab.free
      vacant := by
        have stored : ∃ slot, slab.slots[key.index]? = some slot ∧ slot.value.isSome := by
          unfold get? at found
          split at found
          · rename_i slot at_
            split at found
            · exact ⟨slot, at_, by simp [found]⟩
            · cases found
          · cases found
        obtain ⟨slot, at_, occupied⟩ := stored
        have outside : key.index ∉ slab.free := by
          intro member
          obtain ⟨generation, empty⟩ := slab.vacant _ member
          cases at_.symm.trans empty
          simp at occupied
        intro other member
        rcases mem_cons.mp member with rfl | member
        · obtain ⟨bound, _⟩ := List.getElem?_eq_some_iff.mp at_
          exact ⟨_, getElem?_set_self bound⟩
        · exact vacant_set _ outside slab.vacant other member
      distinct := by
        refine nodup_cons.mpr ⟨fun member => ?_, slab.distinct⟩
        obtain ⟨generation, empty⟩ := slab.vacant _ member
        simp [get?, empty] at found }
  | none => slab

/-! ## What is stored where -/

theorem get?_eq_some_iff {slab : Slab α} {key : Key} {value : α} :
    slab.get? key = some value ↔ slab.slots[key.index]? = some ⟨key.generation, some value⟩ := by
  unfold get?
  cases slab.slots[key.index]? with
  | none => simp
  | some slot =>
    rcases slot with ⟨generation, _⟩
    by_cases same : generation = key.generation <;> simp [same]

def freed (slab : Slab α) (index : Nat) : Nat := slab.slots[index]?.elim 0 Slot.generation

/-- The slot stored in next is a new one, or free. -/
theorem nextKey_vacant (slab : Slab α) : slab.freed slab.nextKey.index = slab.nextKey.generation ∧
    ∀ old, slab.slots[slab.nextKey.index]? = some old → old = ⟨slab.nextKey.generation, none⟩ := by
  unfold freed nextKey
  cases shape : slab.free with
  | nil => simp
  | cons index =>
    obtain ⟨_, vacant⟩ := slab.vacant index (by simp [shape])
    simp [vacant]

/-- `after` is `slab` with one slot set. -/
structure Sets (slab after : Slab α) (index : Nat) (slot : Slot α) : Prop where
  self : after.slots[index]? = some slot
  others : ∀ other, other ≠ index → after.slots[other]? = slab.slots[other]?

section Changes

variable {slab after : Slab α} {key : Key} {value : α}

theorem store_sets (slab : Slab α) (value : α) : slab.Sets (slab.store value) slab.nextKey.index
    ⟨slab.nextKey.generation, some value⟩ := by
  unfold store
  split
  · rename_i index rest shape
    obtain ⟨generation, vacant⟩ := slab.vacant index (by simp [shape])
    obtain ⟨bound, -⟩ := List.getElem?_eq_some_iff.mp vacant
    rw [show slab.nextKey.index = index by simp [nextKey, shape]]
    exact ⟨getElem?_set_self bound, fun other differ => getElem?_set_ne differ.symm⟩
  · rename_i shape
    simp only [nextKey, shape]
    refine ⟨by simp, fun other differ => ?_⟩
    simp only [getElem?_append]
    grind

private theorem sets_of_set {slot : Slot α} (found : slab.get? key = some value)
    (set : after.slots = slab.slots.set key.index slot) : slab.Sets after key.index slot := by
  obtain ⟨bound, -⟩ := List.getElem?_eq_some_iff.mp (get?_eq_some_iff.mp found)
  refine ⟨?_, fun other differ => ?_⟩
  · rw [set, getElem?_set_self bound]
  · rw [set, getElem?_set_ne differ.symm]

theorem modify_sets (change : α → α) (found : slab.get? key = some value) :
    slab.Sets (slab.modify key change) key.index ⟨key.generation, some (change value)⟩ := by
  refine sets_of_set found ?_
  unfold modify
  split
  · rename_i other same
    cases found.symm.trans same
    rfl
  · rename_i missing
    cases found.symm.trans missing

theorem release_sets (found : slab.get? key = some value) :
    slab.Sets (slab.release key) key.index ⟨key.generation + 1, none⟩ := by
  refine sets_of_set found ?_
  unfold release
  split
  · rfl
  · rename_i missing
    cases found.symm.trans missing

theorem modify_of_missing (change : α → α) (missing : slab.get? key = none) : slab.modify key change = slab := by
  unfold modify
  split
  · rename_i found
    cases missing.symm.trans found
  · rfl

theorem get?_of_slot {slot : Slot α} (found : slab.slots[key.index]? = some slot) :
    slab.get? key = if slot.generation = key.generation then slot.value else none := by
  rw [get?, found]

theorem Sets.get?_eq {slot : Slot α} {found : Option α} (sets : slab.Sets after key.index slot)
    (was : slab.freed key.index = key.generation)
    (is : slot.generation = key.generation ∧ slot.value = found ∨ slot.value = none ∧ found = none) :
    after.get? = update slab.get? key found := by
  funext other
  by_cases same : other = key
  · subst same
    rw [update_self, get?_of_slot sets.self]
    rcases is with ⟨generation, value⟩ | ⟨value, rfl⟩
    · rw [if_pos generation, value]
    · rw [value, ite_self]
  · rw [update_of_ne same]
    by_cases place : other.index = key.index
    · have differ : key.generation ≠ other.generation := by
        cases other
        cases key
        simp_all [eq_comm]
      have missing : slab.get? other = none := by
        unfold freed at was
        unfold Slab.get?
        rw [place]
        cases slot : slab.slots[key.index]? with
        | none => rfl
        | some =>
          rw [slot] at was
          exact if_neg (was.trans_ne differ)
      rw [missing, get?_of_slot (place ▸ sets.self)]
      rcases is with ⟨generation, -⟩ | ⟨value, -⟩
      · exact if_neg (generation.trans_ne differ)
      · rw [value, ite_self]
    · rw [Slab.get?, sets.others _ place, Slab.get?]

theorem Sets.freed_eq {index : Nat} {slot : Slot α} (sets : slab.Sets after index slot) :
    after.freed = update slab.freed index slot.generation := by
  funext other
  rw [update_apply, freed, freed]
  split
  · rename_i same
    rw [same, sets.self]
    rfl
  · rename_i differ
    rw [sets.others _ differ]

/-- Whether a key was given: its slot was freed since, or holds what was stored under it. -/
def Used (slab : Slab α) (key : Key) : Prop :=
  ∃ slot, slab.slots[key.index]? = some slot ∧ key.generation ≤ slot.generation ∧
    (slot.value = none → key.generation < slot.generation)

theorem nextKey_unused (slab : Slab α) : ¬slab.Used slab.nextKey := by
  rintro ⟨slot, found, -, freed⟩
  cases slab.nextKey_vacant.2 slot found
  exact absurd (freed rfl) (Nat.lt_irrefl _)

theorem Used.sets {index : Nat} {slot : Slot α} (used : slab.Used key)
    (sets : slab.Sets after index slot) (later : ∀ old, slab.slots[index]? = some old →
      old.generation ≤ slot.generation ∧ (slot.value = none → old.generation < slot.generation)) :
    after.Used key := by
  obtain ⟨old, found, le, freed⟩ := used
  by_cases same : key.index = index
  · obtain ⟨le', freed'⟩ := later old (same ▸ found)
    exact ⟨slot, same ▸ sets.self, Nat.le_trans le le', fun none => Nat.lt_of_le_of_lt le (freed' none)⟩
  · exact ⟨old, (sets.others _ same).trans found, le, freed⟩

end Changes

end Slab
