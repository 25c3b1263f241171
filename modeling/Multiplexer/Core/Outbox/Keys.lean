import Multiplexer.Core.Outbox.Place

/-! The keys of what waits in the outbox: a key finds what was stored under it until that is
released, and nothing after, whatever is stored in its slot then. -/

set_option autoImplicit false

namespace Multiplexer.Outbox

open List Option Function

/-- What the outbox asks of its slots; `change` is what it does with `get_mut`. -/
inductive Call where
  | store (waiting : Waiting)
  | change (key : WaitKey) (update : Waiting → Waiting)
  | release (key : WaitKey)

/-- The outbox with a record of what was asked: the keys given, the slots freed, each time anew, and
what was stored under each key and not released. -/
structure Ledger where
  outbox : Outbox := {}
  given : List WaitKey := []
  freed : List Nat := []
  entries : WaitKey → Option Waiting := fun _ => none

namespace Ledger

def call (ledger : Ledger) : Call → Ledger
  | .store waiting =>
    let key := ledger.outbox.slab.nextKey
    { ledger with
      outbox := ledger.outbox.store waiting
      given := ledger.given ++ [key]
      entries := Function.update ledger.entries key (some waiting) }
  | .change key update =>
    { ledger with
      outbox := ledger.outbox.change key update
      entries := Function.update ledger.entries key ((ledger.entries key).map update) }
  | .release key =>
    let outbox := ledger.outbox.release key
    if (ledger.entries key).any (·.finished) then
      { ledger with
        outbox
        freed := key.index :: ledger.freed
        entries := Function.update ledger.entries key none }
    else { ledger with outbox }

def run (ledger : Ledger) (calls : List Call) : Ledger := calls.foldl call ledger

structure Agrees (ledger : Ledger) : Prop where
  reads : ledger.outbox.get = ledger.entries
  used : ∀ key ∈ ledger.given, ledger.outbox.slab.Used key
  once : ledger.given.Nodup
  counts : ledger.outbox.slab.freed = fun index => ledger.freed.count index

theorem agrees_start : Agrees {} where
  reads := by
    funext key
    simp [get, Slab.get?, Slab.empty]
  used := by simp
  once := .nil
  counts := by
    funext index
    simp [Slab.freed, Slab.empty]

namespace Agrees

variable {ledger : Ledger} (agrees : ledger.Agrees)

include agrees

theorem fresh : ledger.outbox.slab.nextKey ∉ ledger.given := fun member =>
  Slab.nextKey_unused _ (agrees.used _ member)

theorem store (waiting : Waiting) : (ledger.call (.store waiting)).Agrees := by
  have sets := ledger.outbox.slab.store_sets waiting
  obtain ⟨freed, was⟩ := ledger.outbox.slab.nextKey_vacant
  constructor
  · exact (sets.get?_eq freed (.inl ⟨rfl, rfl⟩)).trans (congrArg (Function.update · _ _) agrees.reads)
  · intro key member
    rcases mem_append.mp member with before | same
    · exact (agrees.used key before).sets sets fun old found => by simp [was old found]
    · cases mem_singleton.mp same
      exact ⟨_, sets.self, le_rfl, nofun⟩
  · refine nodup_append.mpr ⟨agrees.once, nodup_singleton _, ?_⟩
    rintro _ member _ same rfl
    cases mem_singleton.mp same
    exact agrees.fresh member
  · exact sets.freed_eq.trans ((update_eq_self_iff.mpr freed.symm).trans agrees.counts)

theorem slot_of {key : WaitKey} {waiting : Waiting} (found : ledger.entries key = some waiting) :
    ledger.outbox.slab.get? key = some waiting ∧
      ledger.outbox.slab.slots[key.index]? = some ⟨key.generation, some waiting⟩ ∧
      ledger.outbox.slab.freed key.index = key.generation := by
  have got : ledger.outbox.slab.get? key = some waiting := (congrFun agrees.reads key).trans found
  have slot := Slab.get?_eq_some_iff.mp got
  exact ⟨got, slot, by rw [Slab.freed, slot]; rfl⟩

theorem change (key : WaitKey) (update : Waiting → Waiting) : (ledger.call (.change key update)).Agrees := by
  cases found : ledger.entries key with
  | none =>
    have missing : ledger.outbox.slab.get? key = none := (congrFun agrees.reads key).trans found
    have kept : ledger.outbox.change key update = ledger.outbox :=
      congrArg (fun slab => { ledger.outbox with slab }) (Slab.modify_of_missing update missing)
    have same : ledger.call (.change key update) = ledger := by
      simp only [call, kept, found, map_none]
      rw [← found, update_eq_self]
    rw [same]
    exact agrees
  | some =>
    obtain ⟨got, slot, freed⟩ := agrees.slot_of found
    have sets := Slab.modify_sets update got
    refine ⟨?_, fun other member => (agrees.used other member).sets sets fun old was => ?_, agrees.once, ?_⟩
    · refine (sets.get?_eq freed (.inl ⟨rfl, rfl⟩)).trans ?_
      simp only [call, found, map_some]
      exact congrArg (Function.update · _ _) agrees.reads
    · cases slot.symm.trans was
      exact ⟨le_rfl, nofun⟩
    · exact sets.freed_eq.trans ((update_eq_self_iff.mpr freed.symm).trans agrees.counts)

theorem release (key : WaitKey) : (ledger.call (.release key)).Agrees := by
  have isOver : ledger.outbox.isOver key = (ledger.entries key).any (·.finished) :=
    congrArg (Option.any _) (congrFun agrees.reads key)
  simp only [call, Outbox.release, isOver]
  split
  · rename_i finished
    obtain ⟨waiting, found⟩ : ∃ waiting, ledger.entries key = some waiting :=
      isSome_iff_exists.mp (isSome_of_any finished)
    obtain ⟨got, slot, freed⟩ := agrees.slot_of found
    have sets := Slab.release_sets got
    refine ⟨?_, fun other member => (agrees.used other member).sets sets fun old was => ?_, agrees.once, ?_⟩
    · exact (sets.get?_eq freed (.inr ⟨rfl, rfl⟩)).trans (congrArg (Function.update · _ _) agrees.reads)
    · cases slot.symm.trans was
      exact ⟨Nat.le_succ _, fun _ => Nat.lt_succ_self _⟩
    · refine sets.freed_eq.trans ?_
      funext index
      rw [agrees.counts] at freed ⊢
      rw [update_apply, count_cons]
      by_cases same : index = key.index
      · simp [same, freed]
      · simp [same, Ne.symm same]
  · exact agrees

theorem run (calls : List Call) : (ledger.run calls).Agrees := by
  induction calls generalizing ledger with
  | nil => exact agrees
  | cons call _ ih =>
    cases call with
    | store waiting => exact ih (agrees.store waiting)
    | change key update => exact ih (agrees.change key update)
    | release key => exact ih (agrees.release key)

theorem stale {key : WaitKey} (given : key ∈ ledger.given) (released : ledger.entries key = none)
    (calls : List Call) : (ledger.run calls).entries key = none := by
  induction calls generalizing ledger with
  | nil => exact released
  | cons call calls ih =>
    cases call with
    | store waiting =>
      have other : key ≠ ledger.outbox.slab.nextKey := fun same => agrees.fresh (same ▸ given)
      exact ih (agrees.store waiting) (mem_append_left _ given) ((update_of_ne other _ _).trans released)
    | change other update =>
      refine ih (agrees.change other update) given ?_
      simp only [call, update_apply]
      split
      · rename_i same
        rw [← same, released]
        rfl
      · exact released
    | release other =>
      refine ih (agrees.release other) ?_ ?_
      all_goals
        simp only [call]
        split
      · exact given
      · exact given
      · exact update_apply .. |>.trans (ite_eq_left_iff.mpr fun _ => released)
      · exact released

end Agrees

structure Kept (ledger : Ledger) : Prop where
  reads : ∀ key, ledger.outbox.get key = ledger.entries key
  once : ledger.given.Nodup
  free : ledger.outbox.slab.free.Nodup
  vacant : ∀ index ∈ ledger.outbox.slab.free,
    ∃ generation, ledger.outbox.slab.slots[index]? = some ⟨generation, none⟩
  stale : ∀ key ∈ ledger.given, ledger.entries key = none → ∀ calls,
    (ledger.run calls).outbox.get key = none ∧
      (ledger.run calls).outbox.release key = (ledger.run calls).outbox
  counts : ∀ key ∈ ledger.given, key.generation ≤ ledger.freed.count key.index

/-- A stale key finds nothing, whatever is asked of the outbox. -/
theorem stale_keys_find_nothing (calls : List Call) : (run {} calls).Kept := by
  have agrees := agrees_start.run calls
  generalize run {} calls = ledger at agrees
  refine ⟨congrFun agrees.reads, agrees.once, ledger.outbox.slab.distinct, ledger.outbox.slab.vacant, ?_, ?_⟩
  · intro key given released more
    have missing := (congrFun (agrees.run more).reads key).trans (agrees.stale given released more)
    exact ⟨missing, by simp [Outbox.release, isOver, missing]⟩
  · intro key given
    obtain ⟨_, found, le, -⟩ := agrees.used key given
    rw [← congrFun agrees.counts key.index, Slab.freed, found]
    exact le

end Ledger

end Multiplexer.Outbox
