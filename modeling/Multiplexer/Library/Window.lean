import Mathlib.Data.List.Basic
import Mathlib.Tactic.Common

/-! Buffers of a fixed size read into at their end and taken from at their front: what they
hold is the cells between two marks, in the order they were read. -/

set_option autoImplicit false

structure Window (α : Type) (size : Nat) where
  cells : List α
  start : Nat
  stop : Nat
  length_cells : cells.length = size
  start_le : start ≤ stop
  stop_le : stop ≤ size

namespace Window

open List

variable {α : Type} {size : Nat}

def empty (blank : α) : Window α size where
  cells := replicate size blank
  start := 0
  stop := 0
  length_cells := length_replicate
  start_le := Nat.le_refl 0
  stop_le := Nat.zero_le size

def held (window : Window α size) : List α :=
  (window.cells.drop window.start).take (window.stop - window.start)

def room (window : Window α size) : Nat := size - window.stop

def fill (window : Window α size) (chunk : List α) (fits : chunk.length ≤ window.room) : Window α size where
  cells := window.cells.take window.stop ++ chunk ++ window.cells.drop (window.stop + chunk.length)
  start := window.start
  stop := window.stop + chunk.length
  length_cells := by
    have stop_le := window.stop_le
    have length_cells := window.length_cells
    simp only [room] at fits
    simp only [length_append, length_take, length_drop, length_cells]
    omega
  start_le := Nat.le_add_right_of_le window.start_le
  stop_le := by
    have stop_le := window.stop_le
    simp only [room] at fits
    omega

theorem length_held (window : Window α size) : window.held.length = window.stop - window.start := by
  have start_le := window.start_le
  have stop_le := window.stop_le
  simp only [held, length_take, length_drop, window.length_cells]
  omega

/-- A window never holds more than its size. -/
theorem length_held_le (window : Window α size) : window.held.length ≤ size := by
  have stop_le := window.stop_le
  rw [length_held]
  omega

def compact (window : Window α size) : Window α size where
  cells := window.held ++ window.cells.drop (window.stop - window.start)
  start := 0
  stop := window.stop - window.start
  length_cells := by
    have stop_le := window.stop_le
    simp only [length_append, length_held, length_drop, window.length_cells]
    omega
  start_le := Nat.zero_le _
  stop_le := Nat.le_trans (Nat.sub_le _ _) window.stop_le

def skip (window : Window α size) (count : Nat) (held : count ≤ window.held.length) : Window α size where
  cells := window.cells
  start := window.start + count
  stop := window.stop
  length_cells := window.length_cells
  start_le := by
    have start_le := window.start_le
    rw [length_held] at held
    omega
  stop_le := window.stop_le

def clear (window : Window α size) : Window α size where
  cells := window.cells
  start := 0
  stop := 0
  length_cells := window.length_cells
  start_le := Nat.le_refl 0
  stop_le := Nat.zero_le size

section

variable (window : Window α size)

include window

@[simp] theorem held_clear : window.clear.held = [] := rfl

@[simp] theorem held_fill (chunk : List α)
    (fits : chunk.length ≤ window.room) : (window.fill chunk fits).held = window.held ++ chunk := by
  have start_le := window.start_le
  have stop_le := window.stop_le
  have length_cells := window.length_cells
  have before : (window.cells.take window.stop).drop window.start = window.held := by
    rw [held, drop_take]
  have length : (window.cells.take window.stop).length = window.stop := by
    rw [length_take, length_cells]
    omega
  simp only [held, fill, append_assoc]
  rw [drop_append_of_le_length (by omega), before, take_append, length_held,
    take_of_length_le (by rw [length_held]; omega)]
  congr 1
  have enough : window.stop + chunk.length - window.start - (window.stop - window.start) = chunk.length := by omega
  rw [enough, take_left']
  rfl

@[simp] theorem held_compact : window.compact.held = window.held := by
  have length := window.length_held
  change ((window.held ++ window.cells.drop (window.stop - window.start)).drop 0).take
    (window.stop - window.start - 0) = window.held
  rw [drop_zero, Nat.sub_zero, ← length, take_left']
  rfl

@[simp] theorem held_skip (count : Nat) (isHeld : count ≤ window.held.length) :
    (window.skip count isHeld).held = window.held.drop count := by
  simp only [held, skip, drop_take, drop_drop]
  congr 1
  omega

theorem room_compact : window.compact.room = size - window.held.length := by
  rw [length_held]
  rfl

theorem held_of_full (fromFront : window.start = 0) (full : window.stop = size) : window.held = window.cells := by
  rw [held, fromFront, full, drop_zero, Nat.sub_zero]
  exact take_of_length_le (Nat.le_of_eq window.length_cells)

end

end Window
