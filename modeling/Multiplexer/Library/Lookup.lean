import Mathlib.Logic.Function.Basic
import Mathlib.Order.Basic
import Mathlib.Tactic.Common

/-! Ordered maps read as functions from their keys: what a change of the map is as a change
of the function, and the values as those some key has. -/

set_option autoImplicit false

namespace Lookup

open Std

variable {α β : Type} [Ord α] [Std.TransOrd α] [LawfulEqOrd α] [DecidableEq α]
  (map : TreeMap α β) (key : α)

omit [Std.TransOrd α] [DecidableEq α] in
theorem compare_ne {key each : α} (differ : each ≠ key) : ¬compare key each = .eq :=
  mt LawfulEqOrd.compare_eq_iff_eq.mp differ.symm

theorem insert_apply (value : β) (each : α) :
    (map.insert key value)[each]? = if each = key then some value else map[each]? := by
  rw [TreeMap.getElem?_insert]
  by_cases same : each = key
  · subst same
    simp
  · rw [if_neg (compare_ne same), if_neg same]

variable {map key} in
theorem of_insert {value found : β} {each : α} (read : (map.insert key value)[each]? = some found) :
    each = key ∧ found = value ∨ each ≠ key ∧ map[each]? = some found := by
  rw [insert_apply] at read
  split at read
  · rename_i same
    exact .inl ⟨same, (Option.some.inj read).symm⟩
  · rename_i other
    exact .inr ⟨other, read⟩

theorem erase_apply (each : α) : (map.erase key)[each]? = if each = key then none else map[each]? := by
  rw [TreeMap.getElem?_erase]
  by_cases same : each = key
  · subst same
    simp
  · rw [if_neg (compare_ne same), if_neg same]

theorem modify_apply (change : β → β) (each : α) :
    (map.modify key change)[each]? = if each = key then map[key]?.map change else map[each]? := by
  rw [TreeMap.getElem?_modify]
  by_cases same : each = key
  · subst same
    simp
  · rw [if_neg (compare_ne same), if_neg same]

/-! The same when only what `view` shows of the values is read. -/

variable {γ : Type} (view : β → γ)

theorem insert_view (value : β) : (fun each => (map.insert key value)[each]?.map view) =
      Function.update (fun each => map[each]?.map view) key (some (view value)) := by
  funext each
  rw [insert_apply, Function.update_apply]
  split <;> rfl

theorem insert_view_self {value after : β} (found : map[key]? = some value)
    (same : view after = view value) :
    (fun each => (map.insert key after)[each]?.map view) = fun each : α => map[each]?.map view := by
  rw [insert_view, same]
  refine Function.update_eq_iff.mpr ⟨?_, fun _ _ => rfl⟩
  rw [found]
  rfl

theorem modify_view_self {change : β → β} (same : ∀ value, view (change value) = view value) :
    (fun each => (map.modify key change)[each]?.map view) = fun each : α => map[each]?.map view := by
  funext each
  rw [modify_apply]
  split
  · rename_i equal
    rw [equal]
    cases map[key]? with
    | none => rfl
    | some => simp [same]
  · rfl

omit [Std.TransOrd α] [LawfulEqOrd α] [DecidableEq α] in
theorem values_eq : map.values = map.toList.map Prod.snd := by
  change DTreeMap.Internal.Impl.values map.inner.inner =
    List.map Prod.snd (DTreeMap.Internal.Impl.Const.toList map.inner.inner)
  rw [DTreeMap.Internal.Impl.values_eq_map_snd,
    DTreeMap.Internal.Impl.Const.toList_eq_toListModel_map, List.map_map]
  rfl

omit [DecidableEq α] in
theorem nodup_values (injective : ∀ (one two : α) (value : β), map[one]? = some value →
    map[two]? = some value → one = two) : map.values.Nodup := by
  rw [values_eq, List.Nodup, List.pairwise_map]
  refine TreeMap.distinct_keys_toList.imp_of_mem fun {one two} first second differ same => ?_
  have found := TreeMap.mem_toList_iff_getElem?_eq_some.mp first
  have also := TreeMap.mem_toList_iff_getElem?_eq_some.mp second
  exact differ (LawfulEqOrd.compare_eq_iff_eq.mpr (injective _ _ _ found (same ▸ also)))

omit [DecidableEq α] in
theorem mem_values {value : β} : value ∈ map.values ↔ ∃ key : α, map[key]? = some value := by
  rw [values_eq, List.mem_map]
  constructor
  · rintro ⟨⟨key, value⟩, member, rfl⟩
    exact ⟨key, TreeMap.mem_toList_iff_getElem?_eq_some.mp member⟩
  · rintro ⟨key, found⟩
    exact ⟨(key, value), TreeMap.mem_toList_iff_getElem?_eq_some.mpr found, rfl⟩

end Lookup
