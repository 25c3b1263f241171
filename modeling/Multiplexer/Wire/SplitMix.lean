import Mathlib.Data.BitVec

/-! The generator of ids: SplitMix64 on a counter that any number of threads step. -/

set_option autoImplicit false

namespace Multiplexer.SplitMix

open List

abbrev Word := BitVec 64

def GOLDEN_GAMMA : Word := 0x9E3779B97F4A7C15#64

def mix (mixed : Word) : Word :=
  let mixed := (mixed ^^^ (mixed >>> 30)) * 0xBF58476D1CE4E5B9#64
  let mixed := (mixed ^^^ (mixed >>> 27)) * 0x94D049BB133111EB#64
  mixed ^^^ (mixed >>> 31)

/-- The counter, and the ids the threads' calls returned, the last first. -/
structure Ids (Thread : Type) where
  counter : Word
  returned : List (Thread × Word) := []

section Run

variable {Thread : Type}

/-- One turn of the loop of `next` on `thread`: the call returns what it mixed, but for zero, with
which it goes on to another turn. -/
def Ids.turn (ids : Ids Thread) (thread : Thread) : Ids Thread :=
  let counter := ids.counter + GOLDEN_GAMMA
  let mixed := mix counter
  { counter, returned := if mixed ≠ 0#64 then (thread, mixed) :: ids.returned else ids.returned }

/-- The turns of all threads, in the order of their steps of the counter. -/
def run (seed : Word) (turns : List Thread) : Ids Thread := turns.foldl Ids.turn { counter := seed }

end Run

/-! ## The mix -/

theorem eq_zero_of_eq_shift {word : Word} {places : Nat} (positive : 0 < places)
    (same : word = word >>> places) : word = 0#64 := by
  have shifts : ∀ times : Nat, word = word >>> (places * times) := by
    intro times
    induction times with
    | zero => simp
    | succ _ ih =>
      rw [Nat.mul_succ, BitVec.shiftRight_add, ← ih]
      exact same
  have out : 64 ≤ places * 64 := Nat.le_mul_of_pos_left 64 positive
  rw [shifts 64]
  exact BitVec.ushiftRight_eq_zero out

theorem xorShift_injective {places : Nat} (positive : 0 < places) :
    Function.Injective fun word : Word => word ^^^ (word >>> places) := by
  intro first second same
  have differ : first ^^^ second = (first ^^^ second) >>> places := by
    rw [BitVec.ushiftRight_xor_distrib]
    have both : first ^^^ (first >>> places) = second ^^^ (second >>> places) := same
    calc first ^^^ second
        = first ^^^ (first >>> places) ^^^ (first >>> places) ^^^ second := by
          rw [BitVec.xor_assoc first, BitVec.xor_self, BitVec.xor_zero]
      _ = (first >>> places) ^^^ (second >>> places) := by
        rw [both, BitVec.xor_comm, BitVec.xor_assoc, ← BitVec.xor_assoc, BitVec.xor_self]
        simp [BitVec.xor_comm]
  exact BitVec.xor_eq_zero_iff.mp (eq_zero_of_eq_shift positive differ)

theorem mul_injective {factor inverse : Word} (inverts : factor * inverse = 1#64) :
    Function.Injective fun word : Word => word * factor := by
  intro first second same
  calc first = first * factor * inverse := by rw [BitVec.mul_assoc, inverts, BitVec.mul_one]
    _ = second * factor * inverse := congrArg (· * inverse) same
    _ = second := by rw [BitVec.mul_assoc, inverts, BitVec.mul_one]

theorem mix_injective : Function.Injective mix := by
  have third := @xorShift_injective 31 (by decide)
  have second := (@mul_injective 0x94D049BB133111EB#64 0x319642B2D24D8EC3#64 (by decide)).comp
    (@xorShift_injective 27 (by decide))
  have first := (@mul_injective 0xBF58476D1CE4E5B9#64 0x96DE1B173F119089#64 (by decide)).comp
    (@xorShift_injective 30 (by decide))
  exact (third.comp second).comp first

theorem eq_zero_of_mix {counter : Word} (zero : mix counter = 0#64) : counter = 0#64 :=
  mix_injective (zero.trans (by decide))

/-! ## The counter -/

/-- The counter once it was stepped `steps` times. -/
def counterAt (seed : Word) (steps : Nat) : Word := seed + BitVec.ofNat 64 steps * GOLDEN_GAMMA

theorem counterAt_succ (seed : Word) (steps : Nat) :
    counterAt seed (steps + 1) = counterAt seed steps + GOLDEN_GAMMA := by
  have next : BitVec.ofNat 64 (steps + 1) = BitVec.ofNat 64 steps + 1#64 := by
    rw [BitVec.ofNat_add]
  rw [counterAt, next, BitVec.add_mul, BitVec.one_mul, ← BitVec.add_assoc, counterAt]

theorem counterAt_ne {seed : Word} {early late : Nat} (before : early < late)
    (near : late - early < 2 ^ 64) : counterAt seed early ≠ counterAt seed late := by
  intro same
  have steps : BitVec.ofNat 64 early = BitVec.ofNat 64 late :=
    @mul_injective GOLDEN_GAMMA 0xF1DE83E19937733D#64 (by decide) _ _ ((BitVec.add_right_inj seed).mp same)
  have equal : early % 2 ^ 64 = late % 2 ^ 64 := by
    simpa using congrArg BitVec.toNat steps
  omega

/-! ## Every run -/

section Runs

variable {Thread : Type}

/-- The state after `steps` steps of the counter, each id mixed from the counter of its own step. -/
structure Ids.Stepped (seed : Word) (steps : Nat) (ids : Ids Thread) : Prop where
  counter : ids.counter = counterAt seed steps
  mixed : ∀ entry ∈ ids.returned, ∃ step, 0 < step ∧ step ≤ steps ∧ entry.2 = mix (counterAt seed step)
  nonzero : ∀ entry ∈ ids.returned, entry.2 ≠ 0#64
  distinct : (ids.returned.map Prod.snd).Nodup

theorem Ids.Stepped.turn {seed : Word} {steps : Nat} {ids : Ids Thread}
    (stepped : ids.Stepped seed steps) (few : steps < 2 ^ 64) (thread : Thread) :
    (ids.turn thread).Stepped seed (steps + 1) := by
  have counter : ids.counter + GOLDEN_GAMMA = counterAt seed (steps + 1) := by
    rw [stepped.counter, counterAt_succ]
  have earlier : ∀ entry ∈ ids.returned, ∃ step, 0 < step ∧ step ≤ steps + 1 ∧
      entry.2 = mix (counterAt seed step) := by
    intro entry member
    obtain ⟨step, positive, le, is⟩ := stepped.mixed entry member
    exact ⟨step, positive, le.trans (Nat.le_succ _), is⟩
  unfold Ids.turn
  rw [counter]
  dsimp only
  by_cases zero : mix (counterAt seed (steps + 1)) ≠ 0#64
  · rw [if_pos zero]
    constructor
    · rfl
    · intro entry member
      rcases mem_cons.mp member with rfl | before
      · exact ⟨steps + 1, Nat.succ_pos _, le_rfl, rfl⟩
      · exact earlier entry before
    · intro entry member
      rcases mem_cons.mp member with rfl | before
      · exact zero
      · exact stepped.nonzero entry before
    · apply nodup_cons.mpr
      constructor
      · intro member
        obtain ⟨entry, before, same⟩ := mem_map.mp member
        obtain ⟨step, _, _, is⟩ := stepped.mixed entry before
        have differ := @counterAt_ne seed step (steps + 1) (by omega) (by omega)
        exact differ (mix_injective (is.symm.trans same))
      · exact stepped.distinct
  · rw [if_neg zero]
    exact ⟨rfl, earlier, stepped.nonzero, stepped.distinct⟩

theorem run_stepped (seed : Word) (turns : List Thread) (few : turns.length ≤ 2 ^ 64) :
    (run seed turns).Stepped seed turns.length := by
  induction turns using List.reverseRecOn with
  | nil => exact ⟨by simp [run, counterAt], nofun, nofun, nodup_nil⟩
  | append_singleton _ thread ih =>
    rw [length_append, length_singleton] at few ⊢
    rw [run, foldl_append]
    exact (ih (by omega)).turn (by omega) thread

/-- As long as the counter was stepped at most 2^64 times, the ids returned are distinct and none is
zero; and a call whose turns no other thread's come between returns after two of them at most. -/
theorem ids_do_not_repeat (seed : Word) (turns : List Thread) (few : turns.length ≤ 2 ^ 64) :
    ((run seed turns).returned.map Prod.snd).Nodup ∧ (∀ entry ∈ (run seed turns).returned, entry.2 ≠ 0#64) ∧
      ∀ thread, ∃ id, (run seed (turns ++ [thread])).returned = (thread, id) :: (run seed turns).returned ∨
          (run seed (turns ++ [thread, thread])).returned = (thread, id) :: (run seed turns).returned := by
  have stepped := run_stepped seed turns few
  refine ⟨stepped.distinct, stepped.nonzero, fun thread => ?_⟩
  simp only [run, foldl_append, foldl_cons, foldl_nil]
  generalize turns.foldl Ids.turn { counter := seed } = ids
  by_cases zero : mix (ids.counter + GOLDEN_GAMMA) = 0#64
  · -- only zero mixes to zero, and the step after it is another
    have next : mix (ids.counter + GOLDEN_GAMMA + GOLDEN_GAMMA) ≠ 0#64 := by
      rw [eq_zero_of_mix zero]
      decide
    exact ⟨mix (ids.counter + GOLDEN_GAMMA + GOLDEN_GAMMA), .inr (by simp [Ids.turn, zero, next])⟩
  · exact ⟨mix (ids.counter + GOLDEN_GAMMA), .inl (by simp [Ids.turn, zero])⟩

theorem ids_do_not_repeat_two : ((run 1234567 [true, false]).returned.map Prod.snd).Nodup :=
  (ids_do_not_repeat 1234567 [true, false] (by decide)).1

end Runs

end Multiplexer.SplitMix
