import Multiplexer.Core.Client.Messages
import Mathlib.Data.Finset.Basic

/-! The ids seen: a set and an order that hold the same values, and what the log of the ids that
came tells of the ids kept. -/

set_option autoImplicit false

namespace Multiplexer

open List

/-! ## The set and the order -/

/-- `SpanSet` as it is kept, a set beside the order. -/
structure SpanCells where
  span : Nat
  set : Finset Nat := ∅
  order : List Nat := []

namespace SpanCells

def insert (cells : SpanCells) (value : Nat) : Bool × SpanCells :=
  if value ∈ cells.set then (false, cells)
  else
    let set := Insert.insert value cells.set
    let (set, order) :=
      if cells.order.length = cells.span then
        match cells.order with
        | oldest :: rest => (set.erase oldest, rest)
        | [] => (set, [])
      else (set, cells.order)
    (true, { cells with set, order := order ++ [value] })

def forgetLast (cells : SpanCells) : SpanCells :=
  match cells.order.getLast? with
  | some last => { cells with set := cells.set.erase last, order := cells.order.dropLast }
  | none => cells

end SpanCells

inductive SpanCall where
  | insert (value : Nat)
  | forgetLast

def SpanCells.call (cells : SpanCells) : SpanCall → SpanCells
  | .insert value => (cells.insert value).2
  | .forgetLast => cells.forgetLast

def SpanSet.call (set : SpanSet) : SpanCall → SpanSet
  | .insert value => (set.insert value).getD set
  | .forgetLast => set.forgetLast

/-- A set of ids without repeats and within its span. -/
structure SpanSet.Within (set : SpanSet) : Prop where
  nodup : set.order.Nodup
  few : set.order.length ≤ set.span
  positive : 0 < set.span

variable {set : SpanSet} {log recent : List Arrival}

theorem SpanSet.mem_of_room {each : Nat}
    (member : each ∈ if set.order.length = set.span then set.order.tail else set.order) :
    each ∈ set.order := by
  split at member
  · exact mem_of_mem_tail member
  · exact member

theorem SpanSet.Within.insert {after : SpanSet} {value : Nat} (within : set.Within)
    (inserted : set.insert value = some after) :
    after.Within ∧ value ∉ set.order ∧ after.span = set.span ∧ after.order =
      (if set.order.length = set.span then set.order.tail else set.order) ++ [value] := by
  unfold SpanSet.insert at inserted
  split at inserted
  · cases inserted
  rename_i fresh
  cases inserted
  refine ⟨⟨?_, ?_, within.positive⟩, fresh, rfl, rfl⟩
  · refine Nodup.append ?_ (nodup_singleton value) ?_
    · split
      · exact within.nodup.tail
      · exact within.nodup
    · intro _ before last
      exact fresh (mem_singleton.mp last ▸ SpanSet.mem_of_room before)
  · have few := within.few
    have positive := within.positive
    simp only [length_append, length_singleton]
    split
    · rw [length_tail]
      omega
    · omega

theorem SpanSet.Within.forgetLast (within : set.Within) : set.forgetLast.Within where
  nodup := within.nodup.sublist (dropLast_sublist _)
  few := (dropLast_sublist _).length_le.trans within.few
  positive := within.positive

theorem SpanSet.calls_span (set : SpanSet) (calls : List SpanCall) :
    (calls.foldl SpanSet.call set).span = set.span := by
  induction calls generalizing set with
  | nil => rfl
  | cons call _ ih =>
    refine (ih _).trans ?_
    cases call with
    | insert =>
      simp only [SpanSet.call, SpanSet.insert]
      split <;> rfl
    | forgetLast => rfl

/-- The cells of a set of ids: the same order, and a set of the same values. -/
structure SpanCells.Shows (cells : SpanCells) (set : SpanSet) : Prop where
  within : set.Within
  span : cells.span = set.span
  order : cells.order = set.order
  same : ∀ value, value ∈ cells.set ↔ value ∈ set.order

theorem SpanCells.Shows.insert {cells : SpanCells} (shown : cells.Shows set) (value : Nat) :
    ((cells.insert value).1 = true ↔ value ∉ set.order) ∧
      (cells.insert value).2.Shows (set.call (.insert value)) := by
  by_cases seen : value ∈ set.order
  · have kept : set.call (.insert value) = set := by simp [SpanSet.call, SpanSet.insert, seen]
    have none : cells.insert value = (false, cells) := if_pos ((shown.same value).mpr seen)
    simp only [none, kept]
    exact ⟨by simp [seen], shown⟩
  · have taken : set.insert value = some (set.call (.insert value)) := by
      simp [SpanSet.call, SpanSet.insert, seen]
    obtain ⟨within, -, span, order⟩ := shown.within.insert taken
    have fresh : value ∉ cells.set := fun member => seen ((shown.same value).mp member)
    unfold SpanCells.insert
    rw [if_neg fresh, shown.order, shown.span]
    dsimp only
    by_cases full : set.order.length = set.span
    · rw [if_pos full]
      cases front : set.order with
      | nil =>
        have positive := shown.within.positive
        simp [front] at full
        omega
      | cons oldest =>
        have nodup := shown.within.nodup
        rw [front, nodup_cons] at nodup
        rw [if_pos full, front] at order
        refine ⟨by simp [← front, seen], within, span.symm, order.symm, fun each => ?_⟩
        have other : oldest ≠ value := fun same => seen (same ▸ front ▸ mem_cons_self)
        simp only [order, front, tail_cons, Finset.mem_erase, Finset.mem_insert, shown.same,
          mem_cons, mem_append, not_mem_nil, or_false]
        constructor
        · rintro ⟨differ, rfl | rfl | inside⟩
          · exact .inr rfl
          · exact absurd rfl differ
          · exact .inl inside
        · rintro (inside | rfl)
          · exact ⟨fun same => nodup.1 (same ▸ inside), .inr (.inr inside)⟩
          · exact ⟨other.symm, .inl rfl⟩
    · rw [if_neg full] at order ⊢
      refine ⟨by simp [seen], within, span.symm, order.symm, fun each => ?_⟩
      simp [order, shown.same, or_comm]

theorem SpanCells.Shows.forgetLast {cells : SpanCells} (shown : cells.Shows set) :
    cells.forgetLast.Shows set.forgetLast := by
  have within := shown.within.forgetLast
  unfold SpanCells.forgetLast
  rw [shown.order]
  rcases eq_nil_or_concat' set.order with empty | ⟨earlier, last, order⟩
  · have same : set.forgetLast = set := by
      cases set
      simp_all [SpanSet.forgetLast]
    rw [empty, same]
    exact shown
  · have kept : set.forgetLast.order = earlier := by simp [SpanSet.forgetLast, order]
    have nodup := shown.within.nodup
    rw [order, nodup_append] at nodup
    rw [order, getLast?_concat, dropLast_concat]
    refine ⟨within, shown.span, kept.symm, fun each => ?_⟩
    simp only [kept, Finset.mem_erase, shown.same, order, mem_append, mem_singleton]
    constructor
    · rintro ⟨differ, inside | rfl⟩
      · exact inside
      · exact absurd rfl differ
    · exact fun inside => ⟨nodup.2.2 each inside last mem_cons_self, .inl inside⟩

theorem SpanCells.shows_calls {span : Nat} (positive : 0 < span) (calls : List SpanCall) :
    (calls.foldl SpanCells.call { span }).Shows (calls.foldl SpanSet.call ⟨span, []⟩) := by
  have kept : ∀ {cells : SpanCells} {set : SpanSet}, cells.Shows set →
      (calls.foldl SpanCells.call cells).Shows (calls.foldl SpanSet.call set) := by
    induction calls with
    | nil => exact id
    | cons call _ ih =>
      intro _ _ shown
      cases call with
      | insert value => exact ih (shown.insert value).2
      | forgetLast => exact ih shown.forgetLast
  exact kept ⟨⟨nodup_nil, Nat.zero_le _, positive⟩, rfl, rfl, by simp⟩

/-! ## The log of the ids that came -/

/-- The ids taken and not let go again, oldest first, by a log that has the newest first. -/
def keptIn : List Arrival → List Nat
  | .took id :: log => keptIn log ++ [id]
  | .letGo :: log => (keptIn log).dropLast
  | _ :: log => keptIn log
  | [] => []

/-- A log as the client writes it, with the ids it keeps. -/
inductive Logged : List Arrival → SpanSet → Prop
  | start {span : Nat} (positive : 0 < span) : Logged [] ⟨span, []⟩
  | took {log : List Arrival} {set after : SpanSet} {id : Nat} (logged : Logged log set)
      (fresh : set.insert id = some after) : Logged (.took id :: log) after
  | letGo {log : List Arrival} {set : SpanSet} {id : Nat} (logged : Logged (.took id :: log) set) :
      Logged (.letGo :: .took id :: log) set.forgetLast
  | made {log : List Arrival} {set : SpanSet} {id : Nat} (logged : Logged log set) :
      Logged (.made id :: log) set
  | passed {log : List Arrival} {set : SpanSet} {message : Message} (logged : Logged log set)
      (came : message.confirmation ≠ none ∨ log.head? = some (.took (message.id.getD 0)) ∨
        log.head? = some (.made (message.id.getD 0))) : Logged (.passed message :: log) set

theorem Logged.within (logged : Logged log set) : set.Within := by
  induction logged with
  | start positive => exact ⟨nodup_nil, Nat.zero_le _, positive⟩
  | took _ fresh ih => exact (ih.insert fresh).1
  | letGo _ ih => exact ih.forgetLast
  | made _ ih | passed _ _ ih => exact ih

theorem took_of_keptIn {id : Nat} (kept : id ∈ keptIn log) : .took id ∈ log := by
  induction log with
  | nil => cases kept
  | cons arrival _ ih =>
    refine mem_cons.mpr ?_
    cases arrival with
    | took =>
      rcases mem_append.mp kept with earlier | last
      · exact .inr (ih earlier)
      · exact .inl (mem_singleton.mp last ▸ rfl)
    | letGo => exact .inr (ih (mem_of_mem_dropLast kept))
    | made | passed => exact .inr (ih kept)

/-- An id handed out once taken stays until as many others as the span holds beside it were taken,
all different. -/
theorem Logged.stays {message : Message} {id : Nat}
    (logged : Logged (recent ++ .passed message :: .took id :: log) set) :
    (∃ earlier, set.order = earlier ++ id :: keptIn recent) ∨
      ∃ others : List Nat, others.Nodup ∧ set.span ≤ others.length + 1 ∧
        ∀ other ∈ others, other ≠ id ∧ .took other ∈ recent := by
  induction recent generalizing set with
  | nil =>
    cases logged with
    | passed logged =>
      cases logged with
      | took logged fresh =>
        obtain ⟨-, -, -, order⟩ := logged.within.insert fresh
        exact .inl ⟨_, order⟩
  | cons arrival recent ih =>
    have later : ∀ others : List Nat, (∀ other ∈ others, other ≠ id ∧ .took other ∈ recent) →
        ∀ other ∈ others, other ≠ id ∧ .took other ∈ arrival :: recent :=
      fun others taken other member => ⟨(taken other member).1, .tail _ (taken other member).2⟩
    rw [cons_append] at logged
    generalize whole : recent ++ .passed message :: .took id :: log = rest at logged
    cases logged with
    | @took _ before after new logged fresh =>
      obtain ⟨-, -, span, order⟩ := logged.within.insert fresh
      rcases ih (whole ▸ logged) with ⟨earlier, kept⟩ | ⟨others, nodup, many, taken⟩
      · have unique := logged.within.nodup
        rw [kept, nodup_append, nodup_cons] at unique
        rw [kept] at order
        split at order
        · rename_i full
          cases earlier with
          | nil =>
            -- it goes now, those taken since fill the span but for it
            refine .inr ⟨keptIn recent, unique.2.1.2, ?_, later _ fun other member => ?_⟩
            · rw [span, ← full]
              simp
            · exact ⟨fun same => unique.2.1.1 (same ▸ member), took_of_keptIn member⟩
          | cons _ earlier => exact .inl ⟨earlier, by simpa [keptIn] using order⟩
        · exact .inl ⟨earlier, by simpa [keptIn] using order⟩
      · exact .inr ⟨others, nodup, span ▸ many, later _ taken⟩
    | @letGo earliest before new logged =>
      rcases ih (whole ▸ logged) with ⟨earlier, kept⟩ | ⟨others, nodup, many, taken⟩
      · -- what goes is what was taken just before, after it
        cases recent with
        | nil => cases whole
        | cons =>
          obtain ⟨rfl, -⟩ := cons.inj whole
          refine .inl ⟨earlier, ?_⟩
          simp only [SpanSet.forgetLast, kept, keptIn]
          rw [dropLast_concat, ← cons_append, ← append_assoc, dropLast_concat]
      · exact .inr ⟨others, nodup, many, later _ taken⟩
    | made logged | passed logged came =>
      exact (ih (whole ▸ logged)).imp_right fun ⟨others, nodup, many, taken⟩ =>
        ⟨others, nodup, many, later _ taken⟩

theorem Logged.earlier (logged : Logged (recent ++ log) set) :
    ∃ before : SpanSet, Logged log before ∧ before.span = set.span := by
  induction recent generalizing set with
  | nil => exact ⟨set, logged, rfl⟩
  | cons _ recent ih =>
    rw [cons_append] at logged
    generalize whole : recent ++ log = rest at logged
    cases logged with
    | took logged fresh =>
      obtain ⟨before, earlier, span⟩ := ih (whole ▸ logged)
      exact ⟨before, earlier, span.trans (logged.within.insert fresh).2.2.1.symm⟩
    | letGo logged =>
      obtain ⟨before, earlier, span⟩ := ih (whole ▸ logged)
      exact ⟨before, earlier, span⟩
    | made logged | passed logged => exact ih (whole ▸ logged)

/-- What is handed out, of no confirmed batch, was taken or made just before. -/
theorem Logged.came {message : Message} (logged : Logged (recent ++ .passed message :: log) set)
    (plain : message.confirmation = none) : log.head? = some (.took (message.id.getD 0)) ∨
      log.head? = some (.made (message.id.getD 0)) := by
  obtain ⟨_, logged, -⟩ := logged.earlier
  cases logged with
  | passed _ came => exact came.resolve_left fun confirmed => confirmed plain

/-- Two messages that came are handed out with one id only when, between them, as many other ids
were taken as the span holds beside one. -/
theorem Logged.handed_twice {later : List Arrival} {first second : Message}
    (logged : Logged (later ++ .took (second.id.getD 0) ::
      (recent ++ .passed first :: .took (first.id.getD 0) :: log)) set) :
    first.id.getD 0 ≠ second.id.getD 0 ∨ ∃ others : List Nat, others.Nodup ∧ set.span ≤ others.length + 1 ∧
      ∀ other ∈ others, other ≠ second.id.getD 0 ∧ .took other ∈ recent := by
  obtain ⟨_, logged, span⟩ := logged.earlier
  rw [← span]
  cases logged with
  | took prior fresh =>
    obtain ⟨-, unseen, span, -⟩ := prior.within.insert fresh
    refine (ne_or_eq _ _).imp_right fun same => ?_
    rcases prior.stays with ⟨_, kept⟩ | ⟨others, nodup, many, taken⟩
    · rw [kept, ← same] at unseen
      exact absurd (mem_append_right _ mem_cons_self) unseen
    · exact ⟨others, nodup, span ▸ many, same ▸ taken⟩

end Multiplexer
