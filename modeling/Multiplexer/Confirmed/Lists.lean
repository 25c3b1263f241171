import Multiplexer.Core.Event

/-! Lists of numbers as (first, count) pairs: what was added number by number is read back number
by number. -/

set_option autoImplicit false

namespace Multiplexer

open Program List

def runOf (first count : Nat) : List Nat := (range count).map fun past => (first + past) % NUMBERS

/-- The numbers (first, count) pairs stand for. -/
def numbersIn : List Nat → List Nat
  | first :: count :: rest => runOf first count ++ numbersIn rest
  | _ => []

theorem numbersIn_append : ∀ {pairs : List Nat}, pairs.length % 2 = 0 → ∀ more,
    numbersIn (pairs ++ more) = numbersIn pairs ++ numbersIn more
  | [], _, _ => rfl
  | [_], odd, _ => by cases odd
  | _ :: _ :: rest, even, more => by
    have even : rest.length % 2 = 0 := by
      simp only [length_cons] at even
      omega
    simp [numbersIn, numbersIn_append even more]

theorem runOf_succ (first count : Nat) :
    runOf first (count + 1) = runOf first count ++ [(first + count) % NUMBERS] := by
  simp [runOf, range_succ]

theorem runOf_one {number : Nat} (small : number < NUMBERS) : runOf number 1 = [number] := by
  simp [runOf, Nat.mod_eq_of_lt small]

variable {pairs : List Nat}

theorem even_cases (even : pairs.length % 2 = 0) :
    pairs = [] ∨ ∃ earlier first count, pairs = earlier ++ [first, count] ∧ earlier.length % 2 = 0 := by
  rcases eq_nil_or_concat' pairs with rfl | ⟨others, count, rfl⟩
  · exact .inl rfl
  rcases eq_nil_or_concat' others with rfl | ⟨earlier, first, rfl⟩
  · cases even
  · simp only [length_append, length_cons, length_nil] at even
    exact .inr ⟨earlier, first, count, by simp, by omega⟩

/-- A number added is the last one the pairs stand for. -/
theorem addNumber_numbers {number : Nat} (even : pairs.length % 2 = 0) (small : number < NUMBERS) :
    (addNumber pairs number).length % 2 = 0 ∧ numbersIn (addNumber pairs number) = numbersIn pairs ++ [number] := by
  have fresh : (pairs ++ [number, 1]).length % 2 = 0 ∧
      numbersIn (pairs ++ [number, 1]) = numbersIn pairs ++ [number] :=
    ⟨by simpa using even, by simp [numbersIn_append even, numbersIn, runOf_one small]⟩
  rcases even_cases even with rfl | ⟨earlier, first, count, rfl, before⟩
  · exact fresh
  · simp only [addNumber, reverse_append, reverse_cons, reverse_nil, nil_append, cons_append]
    split
    · rename_i next
      refine ⟨by simpa using before, ?_⟩
      simp [numbersIn_append before, numbersIn, runOf_succ, next]
    · exact fresh

theorem foldl_numbers {numbers : List Nat} (even : pairs.length % 2 = 0)
    (small : ∀ number ∈ numbers, number < NUMBERS) :
    numbersIn (numbers.foldl addNumber pairs) = numbersIn pairs ++ numbers := by
  induction numbers generalizing pairs with
  | nil => simp
  | cons number rest ih =>
    obtain ⟨even, adds⟩ := addNumber_numbers even (small number mem_cons_self)
    have others : ∀ each ∈ rest, each < NUMBERS := fun each member =>
      small each (mem_cons_of_mem _ member)
    rw [foldl_cons, ih even others, adds, append_assoc, singleton_append]

/-- What an envelope's pairs give the messages of a batch, one after another. -/
def readNumbers : Nat → List Nat → Nat → List Nat
  | 0, _, _ => []
  | steps + 1, pairs, past =>
    let (number, pairs, past) := nextConfirm pairs past
    number :: readNumbers steps pairs past

def firstCount : List Nat → Nat
  | _ :: count :: _ => count
  | _ => 0

theorem nextConfirm_reads : ∀ {pairs : List Nat} {past number : Nat} {rest : List Nat},
    past ≤ firstCount pairs → (numbersIn pairs).drop past = number :: rest →
    ∃ left next, nextConfirm pairs past = (number, left, next) ∧ next ≤ firstCount left ∧
      (numbersIn left).drop next = rest
  | [], _, _, _, _, reads => by simp [numbersIn] at reads
  | [_], _, _, _, _, reads => by simp [numbersIn] at reads
  | first :: count :: pairs, past, number, rest, within, reads => by
    have counted : (runOf first count).length = count := by simp [runOf]
    by_cases past_all : past ≥ count
    · -- the first pair is used up
      obtain rfl : past = count := Nat.le_antisymm within past_all
      rw [numbersIn, drop_left' counted] at reads
      obtain ⟨left, next, eq⟩ := nextConfirm_reads (Nat.zero_le _) (drop_zero.trans reads)
      exact ⟨left, next, by rw [nextConfirm, if_pos le_rfl]; exact eq.1, eq.2⟩
    · have here : past < count := Nat.not_le.mp past_all
      have split : (runOf first count).drop past =
          (first + past) % NUMBERS :: (runOf first count).drop (past + 1) := by
        rw [drop_eq_getElem_cons (by omega)]
        simp [runOf]
      rw [numbersIn, drop_append_of_le_length (by omega), split, cons_append] at reads
      obtain ⟨rfl, rfl⟩ := cons.inj reads
      refine ⟨first :: count :: pairs, past + 1, by rw [nextConfirm, if_neg past_all], here, ?_⟩
      rw [numbersIn, drop_append_of_le_length (by omega)]

/-- Reading from a place in the first run on gives the numbers from there. -/
theorem readNumbers_reads {steps past : Nat} (within : past ≤ firstCount pairs)
    (enough : steps ≤ ((numbersIn pairs).drop past).length) :
    readNumbers steps pairs past = ((numbersIn pairs).drop past).take steps := by
  induction steps generalizing pairs past with
  | zero => rfl
  | succ steps ih =>
    cases reads : (numbersIn pairs).drop past with
    | nil => simp [reads] at enough
    | cons =>
      obtain ⟨left, next, eq, within, reads'⟩ := nextConfirm_reads within reads
      have more : steps ≤ ((numbersIn left).drop next).length := by simpa [reads, reads'] using enough
      rw [readNumbers, eq, take_succ_cons, ← reads', ← ih within more]

end Multiplexer
