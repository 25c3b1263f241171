import Mathlib.Logic.Relation
import Mathlib.Order.Defs.Unbundled

/-! State programs: deterministic commands over a state, with the few control
forms a translation of imperative code needs, and the rules by which a relation
between states that composes is carried through them. -/

set_option autoImplicit false

universe u

/-- A row of steps is within any preorder each step is within. -/
theorem Relation.ReflTransGen.within {σ : Type u} {Step Relates : σ → σ → Prop} [Std.Refl Relates]
    [IsTrans σ Relates] {state after : σ} (steps : Relation.ReflTransGen Step state after)
    (step : ∀ {state after}, Step state after → Relates state after) : Relates state after := by
  have allowed : Step ≤ Relates := fun _ _ => step
  exact Relation.reflTransGen_le_of_le allowed _ _ steps

/-- A deterministic command: it reads a state, returns a value, leaves a state. -/
def Program (σ α : Type u) : Type u := σ → α × σ

namespace Program

variable {σ α β : Type u}

/-- The value and the state a program leaves when started in `state`. -/
def run (program : Program σ α) (state : σ) : α × σ := program state

def value (program : Program σ α) (state : σ) : α := (program.run state).1

def after (program : Program σ α) (state : σ) : σ := (program.run state).2

instance : Monad (Program σ) where
  pure result := fun state => (result, state)
  bind program next := fun state => next (program.value state) (program.after state)

def get : Program σ σ := fun state => (state, state)

def gets (read : σ → α) : Program σ α := fun state => (read state, state)

end Program

namespace Program

variable {σ : Type} {α β : Type}

def modify (change : σ → σ) : Program σ Unit := fun state => ((), change state)

def when (condition : Bool) (body : Program σ Unit) : Program σ Unit :=
  if condition then body else pure ()

def ifSome (value : Option α) (body : α → Program σ Unit) : Program σ Unit :=
  match value with
  | some found => body found
  | none => pure ()

def forEach : List α → (α → Program σ Unit) → Program σ Unit
  | [], _ => pure ()
  | item :: rest, body => do
    body item
    forEach rest body

@[simp] theorem value_pure (result : α) (state : σ) : (pure result : Program σ α).value state = result := rfl

@[simp] theorem after_pure (result : α) (state : σ) : (pure result : Program σ α).after state = state := rfl

@[simp] theorem value_bind (program : Program σ α) (next : α → Program σ β) (state : σ) :
    (program >>= next).value state = (next (program.value state)).value (program.after state) := rfl

@[simp] theorem after_bind (program : Program σ α) (next : α → Program σ β) (state : σ) :
    (program >>= next).after state = (next (program.value state)).after (program.after state) := rfl

@[simp] theorem run_pure (result : α) (state : σ) : (pure result : Program σ α).run state = (result, state) := rfl

@[simp] theorem run_bind (program : Program σ α) (next : α → Program σ β) (state : σ) :
    (program >>= next).run state = (next (program.value state)).run (program.after state) := rfl

@[simp] theorem value_gets (read : σ → α) (state : σ) : (gets read).value state = read state := rfl

@[simp] theorem after_gets (read : σ → α) (state : σ) : (gets read).after state = state := rfl

theorem after_get_bind (next : σ → Program σ β) (state : σ) :
    (get >>= next).after state = (next state).after state := rfl

theorem after_gets_bind (read : σ → α) (next : α → Program σ β) (state : σ) :
    (gets read >>= next).after state = (next (read state)).after state := rfl

theorem value_get_bind (next : σ → Program σ β) (state : σ) :
    (get >>= next).value state = (next state).value state := rfl

@[simp] theorem when_true (body : Program σ Unit) : when true body = body := rfl

@[simp] theorem when_false (body : Program σ Unit) : when false body = pure () := rfl

@[simp] theorem ifSome_some (found : α) (body : α → Program σ Unit) : ifSome (some found) body = body found := rfl

@[simp] theorem ifSome_none (body : α → Program σ Unit) : ifSome none body = pure () := rfl

theorem forEach_cons (item : α) (rest : List α) (body : α → Program σ Unit) :
    forEach (item :: rest) body = (body item >>= fun _ => forEach rest body) := rfl

/-! ## A relation kept

What holds between a state and itself, and along two changes when along each, holds
between the states before and after a program made of commands that keep it. -/

section Keeps

variable {Relates : σ → σ → Prop}

def Keeps (Relates : σ → σ → Prop) (program : Program σ α) : Prop :=
  ∀ state, Relates state (program.after state)

namespace Keeps

theorem pure [Std.Refl Relates] (result : α) : Keeps Relates (Pure.pure result : Program σ α) :=
  fun state => refl_of Relates state

variable {program : Program σ α} {next : α → Program σ β}

theorem bind [IsTrans σ Relates] (first : Keeps Relates program)
    (rest : ∀ value, Keeps Relates (next value)) : Keeps Relates (program >>= next) :=
  fun state => trans_of Relates (first state) (rest _ _)

theorem bind_at [IsTrans σ Relates] {state : σ} (first : Relates state (program.after state))
    (rest : ∀ value, Keeps Relates (next value)) : Relates state ((program >>= next).after state) :=
  trans_of Relates first (rest _ _)

theorem get {next : σ → Program σ β} (rest : ∀ value, Keeps Relates (next value)) :
    Keeps Relates (Program.get >>= next) :=
  fun state => rest state state

theorem gets {read : σ → α} (rest : ∀ value, Keeps Relates (next value)) :
    Keeps Relates (Program.gets read >>= next) :=
  fun state => rest _ state

theorem ite {condition : Prop} [Decidable condition] {first second : Program σ α}
    (holds : Keeps Relates first) (fails : Keeps Relates second) :
    Keeps Relates (if condition then first else second) := by
  split
  · exact holds
  · exact fails

theorem when [Std.Refl Relates] {condition : Bool} {body : Program σ Unit}
    (holds : Keeps Relates body) : Keeps Relates (Program.when condition body) := by
  cases condition with
  | true => exact holds
  | false => exact pure ()

theorem ifSome [Std.Refl Relates] {value : Option α} {body : α → Program σ Unit}
    (found : ∀ item, Keeps Relates (body item)) : Keeps Relates (Program.ifSome value body) := by
  cases value with
  | some item => exact found item
  | none => exact pure ()

theorem forEach [Std.Refl Relates] [IsTrans σ Relates] {items : List α} {body : α → Program σ Unit}
    (each : ∀ item, Keeps Relates (body item)) : Keeps Relates (Program.forEach items body) := by
  induction items with
  | nil => exact pure ()
  | cons item _ ih => exact bind (each item) fun _ => ih

theorem steps {Step : σ → σ → Prop} [Std.Refl Relates] [IsTrans σ Relates]
    (step : ∀ {state after}, Step state after → Relates state after)
    (keeps : Keeps (Relation.ReflTransGen Step) program) : Keeps Relates program := by
  intro state
  exact (keeps state).within step

end Keeps

end Keeps

end Program
