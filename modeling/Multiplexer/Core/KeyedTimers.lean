import Multiplexer.Core.Basic
import Multiplexer.Library.Lookup
import Mathlib.Data.List.TakeWhile

/-! The timers by themselves, each with its key and whatever it is for, against the priority queue
with cancellation they stand for. Cancelled entries stay in the heap until they come to its top or
it is rebuilt; neither is seen from outside. -/

set_option autoImplicit false

namespace Multiplexer

open List Option Function

/-- Every timer armed, and the heap of their deadlines, its top first. -/
structure KeyedTimers (Due : Type) where
  heap : List (Instant × TimerKey) := []
  armed : Std.TreeMap TimerKey Due := ∅
  nextKey : Nat := 0

namespace KeyedTimers

section Operations

variable {Due : Type} (timers : KeyedTimers Due)

def arm (deadline : Instant) (due : Due) : TimerKey × KeyedTimers Due :=
  let key := timers.nextKey + 1
  (key,
    { heap := timers.heap.orderedInsert dueBefore (deadline, key)
      armed := timers.armed.insert key due
      nextKey := key })

def isArmed (entry : Instant × TimerKey) : Bool := timers.armed.contains entry.2

def rebuild : KeyedTimers Due := { timers with heap := timers.heap.filter timers.isArmed }

def disarm (key : TimerKey) : KeyedTimers Due := { timers with armed := timers.armed.erase key }

def cancel : Option TimerKey → KeyedTimers Due
  | none => timers
  | some key =>
    let timers := timers.disarm key
    if timers.heap.length > 2 * timers.armed.size + Timers.CANCELLED_SLACK then timers.rebuild
    else timers

def rearm (slot : Option TimerKey) (deadline : Instant) (due : Due) : TimerKey × KeyedTimers Due :=
  (timers.cancel slot).arm deadline due

def popCancelled : KeyedTimers Due :=
  { timers with heap := timers.heap.dropWhile fun entry => !timers.isArmed entry }

def nextDeadline : Option Instant × KeyedTimers Due :=
  (timers.popCancelled.heap.head?.map Prod.fst, timers.popCancelled)

def takeDue (now : Instant) : Option (TimerKey × Due) × KeyedTimers Due :=
  match timers.popCancelled.heap with
  | [] => (none, timers.popCancelled)
  | (deadline, key) :: rest =>
    if deadline > now then (none, timers.popCancelled)
    else (timers.armed[key]?.map fun due => (key, due), { timers.disarm key with heap := rest })

variable {timers} {now : Instant}

theorem takeDue_of_nil (empty : timers.popCancelled.heap = []) :
    timers.takeDue now = (none, timers.popCancelled) := by
  simp only [takeDue, empty]

theorem takeDue_of_cons {deadline : Instant} {key : TimerKey} {rest : List (Instant × TimerKey)}
    (top : timers.popCancelled.heap = (deadline, key) :: rest) : timers.takeDue now =
      if deadline > now then (none, timers.popCancelled)
      else (timers.armed[key]?.map fun due => (key, due), { timers.disarm key with heap := rest }) := by
  simp only [takeDue, top]

end Operations

/-- A call of the timers' owner, or a rebuilding of the heap, which `cancel` makes of itself. -/
inductive Call (Due : Type) where
  | arm (deadline : Instant) (due : Due)
  | rearm (slot : Option TimerKey) (deadline : Instant) (due : Due)
  | cancel (slot : Option TimerKey)
  | nextDeadline
  | takeDue (now : Instant)
  | rebuild

inductive Answer (Due : Type) where
  | key (key : TimerKey)
  | done
  | deadline (next : Option Instant)
  | due (taken : Option (TimerKey × Due))

variable {Due : Type}

def Answer.taken : Answer Due → Option TimerKey
  | .due taken => taken.map Prod.fst
  | _ => none

def Call.cancels : Call Due → Option TimerKey
  | .rearm slot .. | .cancel slot => slot
  | _ => none

def call (timers : KeyedTimers Due) : Call Due → Answer Due × KeyedTimers Due
  | .arm deadline due => (timers.arm deadline due).map .key id
  | .rearm slot deadline due => (timers.rearm slot deadline due).map .key id
  | .cancel slot => (.done, timers.cancel slot)
  | .nextDeadline => timers.nextDeadline.map .deadline id
  | .takeDue now => (timers.takeDue now).map .due id
  | .rebuild => (.done, timers.rebuild)

def answers (timers : KeyedTimers Due) : List (Call Due) → List (Answer Due)
  | [] => []
  | call :: calls => (timers.call call).1 :: (timers.call call).2.answers calls

/-- The calls, each with the timers it is made on. -/
def made (timers : KeyedTimers Due) : List (Call Due) → List (KeyedTimers Due × Call Due)
  | [] => []
  | call :: calls => (timers, call) :: (timers.call call).2.made calls

/-! ## The queue -/

/-- A priority queue with cancellation: what is armed under each key, and the last key given. -/
structure Queue (Due : Type) where
  armed : TimerKey → Option (Instant × Due)
  lastKey : Nat
  known : ∀ key, (armed key).isSome → key ≤ lastKey

namespace Queue

def empty : Queue Due := ⟨fun _ => none, 0, by simp⟩

def add (queue : Queue Due) (key : TimerKey) (deadline : Instant) (due : Due)
    (fresh : queue.lastKey < key) : Queue Due where
  armed := Function.update queue.armed key (some (deadline, due))
  lastKey := key
  known each armed := by
    rw [update_apply] at armed
    split at armed
    · exact le_of_eq ‹_›
    · exact (queue.known each armed).trans fresh.le

def without (queue : Queue Due) (slot : Option TimerKey) : Queue Due where
  armed key := if slot = some key then none else queue.armed key
  lastKey := queue.lastKey
  known key armed := by
    split at armed
    · cases armed
    · exact queue.known key armed

structure Earliest (queue : Queue Due) (deadline : Instant) : Prop where
  armed : ∃ key due, queue.armed key = some (deadline, due)
  least : ∀ key other due, queue.armed key = some (other, due) → deadline ≤ other

/-- What a call may answer, and the queue after it. -/
inductive Serves (queue : Queue Due) : Call Due → Answer Due → Queue Due → Prop
  | arm {deadline due} (key) (fresh : queue.lastKey < key) :
      Serves queue (.arm deadline due) (.key key) (queue.add key deadline due fresh)
  | rearm {slot deadline due} (key) (fresh : queue.lastKey < key) :
      Serves queue (.rearm slot deadline due) (.key key) ((queue.without slot).add key deadline due fresh)
  | cancel {slot} : Serves queue (.cancel slot) .done (queue.without slot)
  | earliest {deadline} (earliest : queue.Earliest deadline) :
      Serves queue .nextDeadline (.deadline (some deadline)) queue
  | idle (idle : ∀ key, queue.armed key = none) : Serves queue .nextDeadline (.deadline none) queue
  | due {now deadline due} (key) (armed : queue.armed key = some (deadline, due))
      (earliest : queue.Earliest deadline) (time : deadline ≤ now) :
      Serves queue (.takeDue now) (.due (some (key, due))) (queue.without (some key))
  | early {now} (early : ∀ key deadline due, queue.armed key = some (deadline, due) → now < deadline) :
      Serves queue (.takeDue now) (.due none) queue
  | rebuild : Serves queue .rebuild .done queue

inductive Run : Queue Due → List (Call Due) → List (Answer Due) → Queue Due → Prop
  | nil {queue} : Run queue [] [] queue
  | cons {queue middle last call calls answer answers} (serves : queue.Serves call answer middle)
      (rest : Run middle calls answers last) : Run queue (call :: calls) (answer :: answers) last

variable {queue middle last : Queue Due} {call : Call Due} {answer : Answer Due}
  {calls : List (Call Due)} {answers : List (Answer Due)} {key : TimerKey}

theorem Serves.lastKey_le (serves : queue.Serves call answer middle) : queue.lastKey ≤ middle.lastKey := by
  cases serves with
  | arm _ fresh | rearm _ fresh => exact fresh.le
  | _ => exact le_rfl

theorem Serves.disarmed (serves : queue.Serves call answer middle) (given : key ≤ queue.lastKey)
    (disarmed : queue.armed key = none) : middle.armed key = none := by
  have without (slot : Option TimerKey) : (queue.without slot).armed key = none := by
    simp [Queue.without, disarmed]
  cases serves with
  | arm _ fresh => exact (update_of_ne (given.trans_lt fresh).ne _ _).trans disarmed
  | rearm _ fresh => exact (update_of_ne (given.trans_lt fresh).ne _ _).trans (without _)
  | cancel | due => exact without _
  | _ => exact disarmed

theorem Run.taken_armed (run : queue.Run calls answers last) (given : key ≤ queue.lastKey)
    (taken : key ∈ answers.filterMap Answer.taken) : queue.armed key ≠ none := by
  intro disarmed
  induction run with
  | nil => cases taken
  | cons serves _ ih =>
    obtain ⟨answer, member, same⟩ := mem_filterMap.mp taken
    rcases mem_cons.mp member with rfl | member
    · cases serves with
      | due _ armed =>
        cases same
        cases armed.symm.trans disarmed
      | _ => cases same
    · exact ih (given.trans serves.lastKey_le) (mem_filterMap.mpr ⟨answer, member, same⟩)
        (serves.disarmed given disarmed)

theorem Run.taken_once (run : queue.Run calls answers last) : (answers.filterMap Answer.taken).Nodup := by
  induction run with
  | nil => exact .nil
  | cons serves rest ih =>
    cases serves with
    | due key armed =>
      have given := known _ key (isSome_of_eq_some armed)
      exact nodup_cons.mpr ⟨fun again => rest.taken_armed given again (if_pos rfl), ih⟩
    | _ => exact ih

theorem Run.split {first rest : List (Call Due)} (run : queue.Run (first ++ rest) answers last) :
    ∃ middle, queue.Run first (answers.take first.length) middle ∧
      middle.Run rest (answers.drop first.length) last := by
  induction first generalizing queue answers with
  | nil => exact ⟨queue, .nil, run⟩
  | cons _ _ ih =>
    cases run with
    | cons serves run =>
      obtain ⟨middle, begins, ends⟩ := ih run
      exact ⟨middle, .cons serves begins, ends⟩

theorem Run.given (run : queue.Run calls answers last) : queue.lastKey ≤ last.lastKey ∧
    ∀ key, .key key ∈ answers → key ≤ last.lastKey := by
  induction run with
  | nil => exact ⟨le_rfl, by simp⟩
  | cons serves _ ih =>
    refine ⟨serves.lastKey_le.trans ih.1, fun key member => ?_⟩
    rcases mem_cons.mp member with rfl | member
    · cases serves with
      | arm | rearm => exact ih.1
    · exact ih.2 key member

/-- What the owner of a queue is served: the answers of a queue with cancellation, no timer twice,
and none after a call that cancels it or arms it anew, under the key it had. -/
structure Served (calls : List (Call Due)) (answers : List (Answer Due)) : Prop where
  refines : ∃ last, Queue.empty.Run calls answers last
  once : (answers.filterMap Answer.taken).Nodup
  never : ∀ before call after, calls = before ++ call :: after → ∀ key, call.cancels = some key →
    .key key ∈ answers.take before.length →
    key ∉ (answers.drop before.length).filterMap Answer.taken

theorem Run.served (run : Queue.empty.Run calls answers last) : Served calls answers where
  refines := ⟨last, run⟩
  once := run.taken_once
  never := by
    rintro before _ _ rfl key cancels given again
    obtain ⟨_, begins, ends⟩ := run.split
    have known := begins.given.2 key given
    generalize answers.drop before.length = served at ends again
    cases ends with
    | cons serves ends =>
      have later := known.trans serves.lastKey_le
      cases serves with
      | cancel =>
        cases cancels
        exact ends.taken_armed later again (if_pos rfl)
      | rearm _ fresh =>
        cases cancels
        refine ends.taken_armed later again ((update_of_ne ?_ _ _).trans (if_pos rfl))
        exact (known.trans_lt fresh).ne
      | _ => cases cancels

end Queue

/-! ## What the timers stand for -/

instance : Std.Total dueBefore := ⟨fun one two => by unfold dueBefore; omega⟩

instance : IsTrans (Nat × Nat) dueBefore := ⟨fun one two three => by unfold dueBefore; omega⟩

structure Stands (timers : KeyedTimers Due) (queue : Queue Due) : Prop where
  sorted : timers.heap.Pairwise dueBefore
  distinct : (timers.heap.map Prod.snd).Nodup
  below : ∀ entry ∈ timers.heap, entry.2 ≤ timers.nextKey
  last : queue.lastKey = timers.nextKey
  armed : ∀ key, timers.armed[key]? = (queue.armed key).map Prod.snd
  listed : ∀ key entry, queue.armed key = some entry → (entry.1, key) ∈ timers.heap

namespace Stands

variable {timers : KeyedTimers Due} {queue : Queue Due} (stands : timers.Stands queue)

include stands

theorem contains_iff (key : TimerKey) : timers.armed.contains key = true ↔ (queue.armed key).isSome := by
  rw [Std.TreeMap.contains_eq_isSome_getElem?, stands.armed, isSome_map]

/-- An entry of the heap whose timer is armed is that timer's. -/
theorem armed_of_listed {deadline : Instant} {key : TimerKey} (member : (deadline, key) ∈ timers.heap)
    (armed : timers.isArmed (deadline, key) = true) : ∃ due, queue.armed key = some (deadline, due) := by
  obtain ⟨⟨_, due⟩, found⟩ := isSome_iff_exists.mp ((stands.contains_iff _).mp armed)
  have same := inj_on_of_nodup_map stands.distinct (stands.listed key _ found) member rfl
  cases same
  exact ⟨due, found⟩

theorem shrink {heap : List (Instant × TimerKey)} (part : heap.Sublist timers.heap)
    (kept : ∀ entry ∈ timers.heap, timers.isArmed entry = true → entry ∈ heap) :
    { timers with heap }.Stands queue where
  sorted := stands.sorted.sublist part
  distinct := stands.distinct.sublist (part.map _)
  below entry member := stands.below entry (part.subset member)
  last := stands.last
  armed := stands.armed
  listed key entry found := kept _ (stands.listed key entry found)
    ((stands.contains_iff _).mpr (isSome_of_eq_some found))

theorem rebuild : timers.rebuild.Stands queue :=
  stands.shrink filter_sublist fun _ member armed => mem_filter.mpr ⟨member, armed⟩

theorem disarm (key : TimerKey) : (timers.disarm key).Stands (queue.without (some key)) where
  sorted := stands.sorted
  distinct := stands.distinct
  below := stands.below
  last := stands.last
  armed _ := by
    simp only [KeyedTimers.disarm, Queue.without, Lookup.erase_apply, stands.armed, Option.some.injEq,
      eq_comm (a := key)]
    split <;> rfl
  listed each entry found := by
    simp only [Queue.without] at found
    split at found
    · cases found
    · exact stands.listed each entry found

theorem cancel (slot : Option TimerKey) : (timers.cancel slot).Stands (queue.without slot) := by
  cases slot with
  | none => exact stands
  | some key =>
    unfold KeyedTimers.cancel
    dsimp only
    split
    · exact (stands.disarm key).rebuild
    · exact stands.disarm key

theorem fresh : queue.lastKey < timers.nextKey + 1 := stands.last.trans_lt (Nat.lt_succ_self _)

theorem arm (deadline : Instant) (due : Due) : (timers.arm deadline due).2.Stands
    (queue.add (timers.nextKey + 1) deadline due stands.fresh) where
  sorted := stands.sorted.orderedInsert _ _
  distinct := by
    refine ((perm_orderedInsert _ _ _).map Prod.snd).nodup_iff.mpr (nodup_cons.mpr ⟨?_, stands.distinct⟩)
    intro member
    obtain ⟨entry, member, same⟩ := List.mem_map.mp member
    exact absurd (same ▸ stands.below entry member) (Nat.not_succ_le_self _)
  below entry member := by
    rcases (mem_orderedInsert _).mp member with rfl | member
    · exact le_rfl
    · exact (stands.below entry member).trans (Nat.le_succ _)
  last := rfl
  armed _ := by
    simp only [KeyedTimers.arm, Queue.add, Lookup.insert_apply, update_apply, stands.armed]
    split <;> rfl
  listed each entry found := by
    simp only [Queue.add, update_apply] at found
    refine (mem_orderedInsert _).mpr ?_
    split at found
    · cases found
      exact .inl (by rw [‹each = _›])
    · exact .inr (stands.listed each entry found)

theorem popCancelled : timers.popCancelled.Stands queue := by
  refine stands.shrink (dropWhile_sublist _) fun entry member armed => ?_
  rw [← takeWhile_append_dropWhile (p := fun entry => !timers.isArmed entry) (l := timers.heap)]
    at member
  rcases mem_append.mp member with popped | kept
  · simpa [armed] using mem_takeWhile_imp popped
  · exact kept

/-- What is on top once the cancelled entries are popped: the earliest of the armed timers. -/
theorem top {deadline : Instant} {key : TimerKey} {rest : List (Instant × TimerKey)}
    (top : timers.popCancelled.heap = (deadline, key) :: rest) :
    (∃ due, queue.armed key = some (deadline, due)) ∧
      ∀ key other due, queue.armed key = some (other, due) → deadline ≤ other := by
  have popped := stands.popCancelled
  have first := head?_dropWhile_not (fun entry => !timers.isArmed entry) timers.heap
  rw [show timers.heap.dropWhile _ = _ from top] at first
  have isArmed : timers.isArmed (deadline, key) = true := by simpa using first
  have sorted := popped.sorted
  rw [top, pairwise_cons] at sorted
  constructor
  · exact popped.armed_of_listed (top ▸ mem_cons_self) isArmed
  · intro each _ _ armed
    rcases mem_cons.mp (top ▸ popped.listed each _ armed) with same | behind
    · cases same
      exact le_rfl
    · rcases sorted.1 _ behind with before | ⟨same, -⟩
      · exact before.le
      · exact same.le

theorem idle (empty : timers.popCancelled.heap = []) (key : TimerKey) : queue.armed key = none := by
  cases armed : queue.armed key with
  | none => rfl
  | some entry =>
    have listed := stands.popCancelled.listed key entry armed
    rw [empty] at listed
    cases listed

theorem serves (call : Call Due) : ∃ after, queue.Serves call (timers.call call).1 after ∧
    (timers.call call).2.Stands after := by
  cases call with
  | arm deadline due => exact ⟨_, .arm _ stands.fresh, stands.arm deadline due⟩
  | rearm slot deadline due =>
    have cancelled := stands.cancel slot
    have fresh : queue.lastKey < (timers.cancel slot).nextKey + 1 := cancelled.fresh
    exact ⟨_, .rearm _ fresh, cancelled.arm deadline due⟩
  | cancel slot => exact ⟨_, .cancel, stands.cancel slot⟩
  | nextDeadline =>
    refine ⟨queue, ?_, stands.popCancelled⟩
    unfold call nextDeadline
    cases heap : timers.popCancelled.heap with
    | nil => exact .idle (stands.idle heap)
    | cons =>
      obtain ⟨⟨due, armed⟩, least⟩ := stands.top heap
      exact .earliest ⟨⟨_, due, armed⟩, least⟩
  | takeDue now =>
    change ∃ after, queue.Serves (.takeDue now) (.due (timers.takeDue now).1) after ∧
      (timers.takeDue now).2.Stands after
    have popped := stands.popCancelled
    cases heap : timers.popCancelled.heap with
    | nil =>
      rw [takeDue_of_nil heap]
      refine ⟨queue, .early fun key _ _ armed => ?_, popped⟩
      cases (stands.idle heap key).symm.trans armed
    | cons entry rest =>
      obtain ⟨deadline, key⟩ := entry
      obtain ⟨⟨due, armed⟩, least⟩ := stands.top heap
      rw [takeDue_of_cons heap]
      split
      · rename_i late
        exact ⟨queue, .early fun key other due armed => late.trans_le (least key other due armed), popped⟩
      · rename_i time
        refine ⟨queue.without (some key), ?_, (popped.disarm key).shrink ?_ fun entry member armed => ?_⟩
        · rw [stands.armed, armed]
          exact .due key armed ⟨⟨key, due, armed⟩, least⟩ (Nat.le_of_not_lt time)
        · exact heap ▸ sublist_cons_self _ _
        · rcases mem_cons.mp (heap ▸ member) with rfl | behind
          · simp [isArmed, KeyedTimers.disarm] at armed
          · exact behind
  | rebuild => exact ⟨queue, .rebuild, stands.rebuild⟩

theorem run (calls : List (Call Due)) : ∃ last, queue.Run calls (timers.answers calls) last := by
  induction calls generalizing timers queue with
  | nil => exact ⟨queue, .nil⟩
  | cons call _ ih =>
    obtain ⟨_, serves, after⟩ := stands.serves call
    obtain ⟨last, run⟩ := ih after
    exact ⟨last, .cons serves run⟩

end Stands

theorem start_stands : ({} : KeyedTimers Due).Stands .empty where
  sorted := .nil
  distinct := .nil
  below := by simp
  last := rfl
  armed _ := Std.TreeMap.getElem?_emptyc
  listed := nofun

/-- For every sequence of calls the timers are a priority queue with cancellation. -/
theorem timers_refine_queue (calls : List (Call Due)) :
    Queue.Served calls (({} : KeyedTimers Due).answers calls) := by
  obtain ⟨_, run⟩ := start_stands.run calls
  exact run.served

/-! ## How many entries the heap holds -/

def Bounded (timers : KeyedTimers Due) : Prop :=
  timers.heap.length ≤ 2 * timers.armed.size + Timers.CANCELLED_SLACK

instance (timers : KeyedTimers Due) : Decidable timers.Bounded := inferInstanceAs (Decidable (_ ≤ _))

/-- Whether a call leaves room for the timer it takes: `take_due` does not rebuild the heap, so
where a timer is due there must be an entry less than the bound, those popped on the way aside. -/
def Roomy (timers : KeyedTimers Due) : Call Due → Prop
  | .takeDue now => (∀ deadline ∈ timers.nextDeadline.1, now < deadline) ∨
      timers.popCancelled.heap.length < 2 * timers.armed.size + Timers.CANCELLED_SLACK
  | _ => True

section Bound

variable {timers : KeyedTimers Due} {queue : Queue Due} (stands : timers.Stands queue)

include stands

theorem Stands.bounded_rebuild : timers.rebuild.Bounded := by
  have part : (timers.rebuild.heap.map Prod.snd).length ≤ timers.armed.keys.length := by
    refine stands.rebuild.distinct.length_le_of_subset fun key member => ?_
    obtain ⟨_, listed, rfl⟩ := List.mem_map.mp member
    exact Std.TreeMap.mem_keys.mpr (mem_filter.mp listed).2
  rw [length_map, Std.TreeMap.length_keys] at part
  unfold Bounded
  change _ ≤ 2 * timers.armed.size + _
  omega

theorem Stands.bounded_cancel (bounded : timers.Bounded) (slot : Option TimerKey) :
    (timers.cancel slot).Bounded := by
  cases slot with
  | none => exact bounded
  | some key =>
    unfold KeyedTimers.cancel
    dsimp only
    split
    · exact (stands.disarm key).bounded_rebuild
    · exact Nat.le_of_not_lt ‹_›

theorem Stands.bounded_arm (bounded : timers.Bounded) (deadline : Instant) (due : Due) :
    (timers.arm deadline due).2.Bounded := by
  have unarmed : ¬timers.armed.contains (timers.nextKey + 1) = true := fun armed =>
    absurd (queue.known _ ((stands.contains_iff _).mp armed)) stands.fresh.not_ge
  unfold Bounded KeyedTimers.arm at *
  dsimp only
  rw [orderedInsert_length, Std.TreeMap.size_insert, if_neg unarmed]
  omega

omit stands in
theorem bounded_popCancelled (bounded : timers.Bounded) : timers.popCancelled.Bounded :=
  (dropWhile_sublist _).length_le.trans bounded

theorem Stands.bounded_call_iff (bounded : timers.Bounded) (call : Call Due) :
    (timers.call call).2.Bounded ↔ timers.Roomy call := by
  cases call with
  | arm deadline due => exact iff_of_true (stands.bounded_arm bounded deadline due) trivial
  | rearm slot deadline due =>
    exact iff_of_true ((stands.cancel slot).bounded_arm (stands.bounded_cancel bounded slot) deadline due)
      trivial
  | cancel slot => exact iff_of_true (stands.bounded_cancel bounded slot) trivial
  | nextDeadline => exact iff_of_true (bounded_popCancelled bounded) trivial
  | rebuild => exact iff_of_true stands.bounded_rebuild trivial
  | takeDue now =>
    change (timers.takeDue now).2.Bounded ↔ _ ∨ _
    have popped := bounded_popCancelled bounded
    cases heap : timers.popCancelled.heap with
    | nil =>
      rw [takeDue_of_nil heap]
      exact iff_of_true popped (.inl (by simp [nextDeadline, heap]))
    | cons entry rest =>
      obtain ⟨deadline, key⟩ := entry
      obtain ⟨⟨due, armed⟩, -⟩ := stands.top heap
      rw [takeDue_of_cons heap]
      split
      · rename_i late
        exact iff_of_true popped (.inl (by simpa [nextDeadline, heap] using late))
      · rename_i time
        have member : timers.armed.contains key = true :=
          (stands.contains_iff _).mpr (isSome_of_eq_some armed)
        have positive := length_pos_of_mem (Std.TreeMap.mem_keys.mpr member)
        rw [Std.TreeMap.length_keys] at positive
        have due : ¬∀ deadline ∈ timers.nextDeadline.1, now < deadline := fun late =>
          time (late deadline (by simp [nextDeadline, heap]))
        rw [or_iff_right due]
        change rest.length ≤ 2 * (timers.armed.erase key).size + _ ↔ _
        rw [Std.TreeMap.size_erase, if_pos member, length_cons]
        omega

theorem Stands.bounded_run_iff (bounded : timers.Bounded) (calls : List (Call Due)) :
    (∀ step ∈ timers.made calls, (step.1.call step.2).2.Bounded) ↔
      ∀ step ∈ timers.made calls, step.1.Roomy step.2 := by
  induction calls generalizing timers queue with
  | nil => exact iff_of_true nofun nofun
  | cons call _ ih =>
    simp only [made, forall_mem_cons]
    rw [stands.bounded_call_iff bounded call]
    refine and_congr_right fun roomy => ?_
    obtain ⟨_, -, next⟩ := stands.serves call
    exact ih next ((stands.bounded_call_iff bounded call).mpr roomy)

end Bound

/-- For every sequence of calls, the heap holds at most twice as many entries as timers are armed,
plus the slack, after each of them, just when each `take_due` that has a timer due finds fewer. -/
theorem heap_bounded_iff (calls : List (Call Due)) :
    (∀ step ∈ ({} : KeyedTimers Due).made calls, (step.1.call step.2).2.Bounded) ↔
      ∀ step ∈ ({} : KeyedTimers Due).made calls, step.1.Roomy step.2 :=
  start_stands.bounded_run_iff (by unfold Bounded; simp) calls

/-- One timer due and as many later ones cancelled as the heap may hold beside it: what `take_due`
leaves is over the bound. -/
def cancelledBehind : List (Call Unit) :=
  .arm 0 () :: (List.range 65).flatMap (fun index => [.arm 1 (), .cancel (some (index + 2))]) ++
    [.takeDue 0]

theorem heap_unbounded_cancelledBehind :
    ¬∀ step ∈ ({} : KeyedTimers Unit).made cancelledBehind, (step.1.call step.2).2.Bounded := by
  decide +kernel

end KeyedTimers

/-! ## The core's timers -/

namespace Timers

/-- The core's timers, a query's apart from the others', and the same with all in one table. -/
structure Keyed (timers : Timers) (keyed : KeyedTimers (Due ⊕ QueryId × Nat)) : Prop where
  heap : timers.heap = keyed.heap
  nextKey : timers.nextKey = keyed.nextKey
  due : ∀ key : TimerKey, timers.armed[key]? = keyed.armed[key]?.bind Sum.getLeft?
  query : ∀ key : TimerKey, timers.queries[key]? = keyed.armed[key]?.bind Sum.getRight?
  size : keyed.armed.size = timers.armed.size + timers.queries.size
  fresh : ∀ key : TimerKey, keyed.nextKey < key → keyed.armed[key]? = none

/-- What the core is told of the timer taken out. -/
def Fired.of : Option (TimerKey × (Due ⊕ QueryId × Nat)) → Fired
  | none => .nothing
  | some (_, .inl due) => .other due
  | some (_, .inr asked) => .query asked.1 asked.2

namespace Keyed

theorem size_pos {α : Type} {map : Std.TreeMap TimerKey α} {key : TimerKey} {value : α}
    (found : map[key]? = some value) : 0 < map.size := by
  have member : key ∈ map := Std.TreeMap.mem_iff_isSome_getElem?.mpr (isSome_of_eq_some found)
  rw [← Std.TreeMap.length_keys]
  exact length_pos_of_mem (Std.TreeMap.mem_keys.mpr member)

variable {timers : Timers} {keyed : KeyedTimers (Due ⊕ QueryId × Nat)} (same : timers.Keyed keyed)

include same

theorem isArmed (entry : Instant × TimerKey) : timers.isArmed entry.2 = keyed.isArmed entry := by
  simp only [Timers.isArmed, KeyedTimers.isArmed, Std.TreeMap.contains_eq_isSome_getElem?, same.due, same.query]
  rcases keyed.armed[entry.2]? with _ | due | query <;> rfl

theorem arm (deadline : Instant) (due : Due) :
    (timers.arm deadline due).Keyed (keyed.arm deadline (.inl due)).2 := by
  have missing := same.fresh (keyed.nextKey + 1) (Nat.lt_succ_self _)
  constructor <;> simp only [Timers.arm, KeyedTimers.arm, same.heap, same.nextKey, Lookup.insert_apply]
  · intro key
    split <;> simp [*, same.due]
  · intro key
    split <;> simp [*, same.query]
  · simp only [Std.TreeMap.size_insert, Std.TreeMap.contains_eq_isSome_getElem?, missing, same.due, same.size]
    exact Nat.add_right_comm _ _ _
  · intro key later
    rw [if_neg (Nat.ne_of_gt later), same.fresh key (Nat.lt_of_succ_lt later)]

theorem armQuery (deadline : Instant) (query : QueryId) (generation : Nat) :
    (timers.armQuery deadline query generation).Keyed (keyed.arm deadline (.inr (query, generation))).2 := by
  have missing := same.fresh (keyed.nextKey + 1) (Nat.lt_succ_self _)
  constructor <;> simp only [Timers.armQuery, KeyedTimers.arm, same.heap, same.nextKey, Lookup.insert_apply]
  · intro key
    split <;> simp [*, same.due]
  · intro key
    split <;> simp [*, same.query]
  · simp only [Std.TreeMap.size_insert, Std.TreeMap.contains_eq_isSome_getElem?, missing, same.query, same.size]
    rfl
  · intro key later
    rw [if_neg (Nat.ne_of_gt later), same.fresh key (Nat.lt_of_succ_lt later)]

theorem withHeap (heap : List (Instant × TimerKey)) : { timers with heap }.Keyed { keyed with heap } :=
  { same with heap := rfl }

theorem disarm {key : TimerKey} (missing : timers.queries[key]? = none) :
    { timers with armed := timers.armed.erase key }.Keyed (keyed.disarm key) := by
  have size : (keyed.armed.erase key).size = (timers.armed.erase key).size + timers.queries.size := by
    simp only [Std.TreeMap.size_erase, Std.TreeMap.contains_eq_isSome_getElem?, same.size]
    rw [same.query] at missing
    rcases found : keyed.armed[key]? with _ | due | query
    · simp [same.due, found]
    · have armed : timers.armed[key]? = some due := by rw [same.due, found]; rfl
      have positive := size_pos armed
      simp only [armed, isSome_some, if_true]
      omega
    · rw [found] at missing
      cases missing
  refine ⟨same.heap, same.nextKey, fun each => ?_, fun each => ?_, size, fun each later => ?_⟩ <;>
    simp only [KeyedTimers.disarm, Lookup.erase_apply]
  · split <;> simp [same.due]
  · split <;> simp_all [same.query]
  · rw [same.fresh each later, ite_self]

theorem disarmQuery {key : TimerKey} (missing : timers.armed[key]? = none) :
    { timers with queries := timers.queries.erase key }.Keyed (keyed.disarm key) := by
  have size : (keyed.armed.erase key).size = timers.armed.size + (timers.queries.erase key).size := by
    simp only [Std.TreeMap.size_erase, Std.TreeMap.contains_eq_isSome_getElem?, same.size]
    rw [same.due] at missing
    rcases found : keyed.armed[key]? with _ | due | query
    · simp [same.query, found]
    · rw [found] at missing
      cases missing
    · have armed : timers.queries[key]? = some query := by rw [same.query, found]; rfl
      have positive := size_pos armed
      simp only [armed, isSome_some, if_true]
      omega
  refine ⟨same.heap, same.nextKey, fun each => ?_, fun each => ?_, size, fun each later => ?_⟩ <;>
    simp only [KeyedTimers.disarm, Lookup.erase_apply]
  · split <;> simp_all [same.due]
  · split <;> simp [same.query]
  · rw [same.fresh each later, ite_self]

theorem compact : timers.compact.Keyed
    (if keyed.heap.length > 2 * keyed.armed.size + CANCELLED_SLACK then keyed.rebuild else keyed) := by
  unfold Timers.compact
  rw [same.heap, same.size]
  split
  · have filtered : keyed.heap.filter (fun entry => timers.isArmed entry.2) = keyed.heap.filter keyed.isArmed :=
      filter_congr fun entry _ => same.isArmed entry
    rw [filtered]
    exact same.withHeap _
  · exact same

/-- A timer that is no query's, cancelled. -/
theorem cancel {slot : Option TimerKey} (other : ∀ key ∈ slot, timers.queries[key]? = none) :
    (timers.cancel slot).Keyed (keyed.cancel slot) := by
  cases slot with
  | none => exact same
  | some key => exact (same.disarm (other key rfl)).compact

theorem cancelQuery {slot : Option TimerKey} (asked : ∀ key ∈ slot, timers.armed[key]? = none) :
    (timers.cancelQuery slot).Keyed (keyed.cancel slot) := by
  cases slot with
  | none => exact same
  | some key => exact (same.disarmQuery (asked key rfl)).compact

/-- The core's timers fire as the queue they stand for. -/
theorem takeDue (now : Instant) : (timers.takeDue now).1 = .of (keyed.takeDue now).1 ∧
    (timers.takeDue now).2.Keyed (keyed.takeDue now).2 := by
  have popped : timers.heap.dropWhile (fun entry => !timers.isArmed entry.2) = keyed.popCancelled.heap := by
    rw [same.heap, KeyedTimers.popCancelled]
    congr 1
    funext entry
    rw [same.isArmed entry]
  unfold Timers.takeDue
  rw [popped]
  cases top : keyed.popCancelled.heap with
  | nil =>
    rw [KeyedTimers.takeDue_of_nil top]
    exact ⟨rfl, { same with heap := top.symm }⟩
  | cons entry rest =>
    obtain ⟨deadline, key⟩ := entry
    rw [KeyedTimers.takeDue_of_cons top]
    dsimp only
    split
    · exact ⟨rfl, { same with heap := top.symm }⟩
    · rw [same.query, same.due]
      rcases found : keyed.armed[key]? with _ | due | asked
      · exact ⟨rfl, (same.disarm (by rw [same.query, found]; rfl)).withHeap rest⟩
      · exact ⟨rfl, (same.disarm (by rw [same.query, found]; rfl)).withHeap rest⟩
      · exact ⟨rfl, (same.disarmQuery (by rw [same.due, found]; rfl)).withHeap rest⟩

end Keyed

end Timers

end Multiplexer
