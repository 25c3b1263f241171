import Mathlib.Data.List.TakeDrop
import Multiplexer.Core.Batching.Bodies

/-! How a batch is cut: the messages a frame holds are the first of those left, at least one, within
the bound when they are two or more, and as many as fit when the bodies past those cover the excess. -/

set_option autoImplicit false

namespace Multiplexer

open Program List

/-! ## The cut -/

theorem cutLast_suffix (excess : Nat) (records : List Record) : cutLast excess records <:+ records := by
  induction records generalizing excess with
  | nil => exact suffix_refl _
  | cons _ rest ih =>
    cases rest with
    | nil => exact suffix_refl _
    | cons =>
      unfold cutLast
      split
      · exact suffix_refl _
      · exact (ih _).trans (suffix_cons _ _)

theorem cutLast_ne_nil (excess : Nat) {records : List Record} (some : records ≠ []) :
    cutLast excess records ≠ [] := by
  induction records generalizing excess with
  | nil => exact absurd rfl some
  | cons _ rest ih =>
    cases rest with
    | nil => simp [cutLast]
    | cons =>
      unfold cutLast
      split
      · simp
      · exact ih _ (by simp)

theorem cutLast_length_lt {excess : Nat} {records : List Record} (exceeds : 0 < excess)
    (many : 1 < records.length) : (cutLast excess records).length < records.length := by
  match records, many with
  | last :: next :: rest, _ =>
    have cut := (cutLast_suffix (excess - last.body.length) (next :: rest)).length_le
    rw [cutLast, if_neg (by omega)]
    exact Nat.lt_succ_of_le cut

def bodyBytes (records : List Record) : Nat := (records.map (·.body.length)).sum

/-- Of the records cut from the end on, `kept` stay exactly when the bodies behind them cover the
excess. -/
theorem cutLast_keeps (excess : Nat) (behind : List Record) {kept : List Record} (two : 1 < kept.length) :
    kept.length ≤ (cutLast excess (behind ++ kept)).length ↔ excess ≤ bodyBytes behind := by
  induction behind generalizing excess with
  | nil =>
    rw [nil_append, bodyBytes, map_nil, sum_nil]
    rcases Nat.eq_zero_or_pos excess with rfl | exceeds
    · match kept, two with
      | _ :: _ :: _, _ => simp [cutLast]
    · have cut := cutLast_length_lt exceeds two
      omega
  | cons last behind ih =>
    obtain ⟨next, rest, split⟩ : ∃ next rest, behind ++ kept = next :: rest :=
      exists_cons_of_ne_nil fun none => by simp [(append_eq_nil_iff.mp none).2] at two
    have whole : bodyBytes (last :: behind) = last.body.length + bodyBytes behind := by simp [bodyBytes]
    rw [cons_append, split, cutLast, ← split]
    split
    · simp only [length_cons, length_append]
      omega
    · rw [ih, whole]
      omega

theorem cutLast_reverse (excess : Nat) (records : List Record) : (cutLast excess records.reverse).reverse =
      records.take (cutLast excess records.reverse).length := by
  obtain ⟨cut, split⟩ := cutLast_suffix excess records.reverse
  have whole : (cutLast excess records.reverse).reverse ++ cut.reverse = records := by
    rw [← reverse_append, split, reverse_reverse]
  generalize cutLast excess records.reverse = kept at whole
  subst whole
  simp

section Fitting

variable {measure : List Record → Nat} {maxBytes : Nat}

theorem fitting_begins (steps : Nat) (records : List Record) :
    fitting measure maxBytes steps records <+: records := by
  induction steps generalizing records with
  | zero => exact prefix_refl _
  | succ _ ih =>
    unfold fitting
    split
    · refine (ih _).trans ?_
      rw [cutLast_reverse]
      exact take_prefix _ _
    · exact prefix_refl _

variable {records : List Record}

theorem fitting_ne_nil (steps : Nat) (some : records ≠ []) : fitting measure maxBytes steps records ≠ [] := by
  induction steps generalizing records with
  | zero => exact some
  | succ _ ih =>
    unfold fitting
    split
    · apply ih
      simpa using cutLast_ne_nil _ (by simpa using some)
    · exact some

theorem fitting_fits {steps : Nat} (enough : records.length ≤ steps + 1) :
    (fitting measure maxBytes steps records).length ≤ 1 ∨
      measure (fitting measure maxBytes steps records) ≤ maxBytes := by
  induction steps generalizing records with
  | zero => exact .inl enough
  | succ steps ih =>
    unfold fitting
    split
    · rename_i exceeds
      apply ih
      have cut : (cutLast (measure records - maxBytes) records.reverse).length <
          records.reverse.length := cutLast_length_lt (by omega) (by simpa using exceeds.1)
      simp only [length_reverse] at cut ⊢
      omega
    · rename_i fits
      rcases not_and_or.mp fits with one | within
      · exact .inl (Nat.le_of_not_lt one)
      · exact .inr (Nat.le_of_not_lt within)

theorem cut_keeps {fit : Nat} (two : 1 < fit) (within : fit ≤ records.length) (excess : Nat) :
    fit ≤ (cutLast excess records.reverse).length ↔ excess ≤ bodyBytes (records.drop fit) := by
  have kept : (records.take fit).reverse.length = fit := by simp [within]
  have keeps := cutLast_keeps excess (records.drop fit).reverse (two.trans_eq kept.symm)
  rwa [← reverse_append, take_append_drop, kept, bodyBytes, map_reverse, sum_reverse] at keeps

/-- Whenever the first `fit`, two or more, are within the bound, the bodies of the others cover what
all of them have too much. -/
def CoversExcess (measure : List Record → Nat) (maxBytes : Nat) (records : List Record) : Prop :=
  ∀ fit, 1 < fit → fit ≤ records.length → measure (records.take fit) ≤ maxBytes →
    measure records ≤ maxBytes + bodyBytes (records.drop fit)

variable (grows : ∀ first behind, measure first + bodyBytes behind ≤ measure (first ++ behind))

include grows

theorem measure_take_mono {few more : Nat} (fewer : few ≤ more) :
    measure (records.take few) ≤ measure (records.take more) := by
  have added := grows (records.take few) ((records.take more).drop few)
  have first : records.take few = (records.take more).take few := by rw [take_take, Nat.min_eq_left fewer]
  rw [first, take_append_drop, ← first] at added
  omega

/-- Records whose others cover the excess are in no cut: each cut takes at least the bodies it drops
off the measure, so that the others left cover what is then too much. -/
theorem fitting_keeps {steps fit : Nat} (two : 1 < fit) (within : fit ≤ records.length)
    (covers : measure records ≤ maxBytes + bodyBytes (records.drop fit)) :
    fit ≤ (fitting measure maxBytes steps records).length := by
  induction steps generalizing records with
  | zero => exact within
  | succ steps ih =>
    unfold fitting
    split
    · have keeps := (cut_keeps two within (measure records - maxBytes)).mpr (by omega)
      rw [cutLast_reverse]
      generalize (cutLast (measure records - maxBytes) records.reverse).length = stop at keeps
      have stays : fit ≤ (records.take stop).length := by simp [keeps, within]
      refine ih stays ?_
      have added := grows (records.take stop) (records.drop stop)
      have behind : records.drop fit = (records.take stop).drop fit ++ records.drop stop := by
        rw [← drop_append_of_le_length stays, take_append_drop]
      rw [take_append_drop] at added
      rw [behind, bodyBytes, map_append, sum_append] at covers
      unfold bodyBytes at added ⊢
      omega
    · exact within

/-- No one more would fit, exactly when the bodies past those that fit cover the excess. -/
theorem fitting_full_iff {steps : Nat} (enough : records.length ≤ steps + 1) {inside left : List Record}
    (fits : fitting measure maxBytes steps records = inside) (whole : inside ++ left = records) :
    (left ≠ [] → maxBytes < measure (records.take (inside.length + 1))) ↔
      CoversExcess measure maxBytes records := by
  have size : inside.length + left.length = records.length := by rw [← length_append, whole]
  constructor
  · intro full fit two within fit_fits
    by_contra uncovered
    rw [Nat.not_le] at uncovered
    -- the first cut already drops one of the `fit`
    have less : inside.length < fit := by
      cases steps with
      | zero => omega
      | succ steps =>
        unfold fitting at fits
        rw [if_pos (by omega)] at fits
        have cut := mt (cut_keeps two within (measure records - maxBytes)).mp (by omega)
        have begins := (@fitting_begins measure maxBytes steps
          (cutLast (measure records - maxBytes) records.reverse).reverse).length_le
        rw [fits, length_reverse] at begins
        omega
    have exceeds := full (length_pos_iff.mp (by omega))
    have few : measure (records.take (inside.length + 1)) ≤ measure (records.take fit) :=
      measure_take_mono grows less
    omega
  · intro covers more
    by_contra fit
    have some : records ≠ [] := by
      rw [← whole]
      simp [more]
    have one : 0 < inside.length := fits ▸ length_pos_iff.mpr (fitting_ne_nil steps some)
    have next := length_pos_iff.mpr more
    have keeps : inside.length + 1 ≤ (fitting measure maxBytes steps records).length :=
      fitting_keeps grows (by omega) (by omega) (covers _ (by omega) (by omega) (Nat.le_of_not_lt fit))
    rw [fits] at keeps
    omega

end Fitting

end Multiplexer
