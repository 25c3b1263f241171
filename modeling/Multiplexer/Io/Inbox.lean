import Mathlib.Logic.Function.Basic

/-! The inbox of a threaded class's io thread: the queue, the list of confirmations beside it,
their lock, and the two flags by which a sender wakes the io thread only when it sleeps. A step
is one atomic step of one thread. -/

set_option autoImplicit false

namespace Multiplexer

/-- What a push hands over: work for the queue, or a confirmation for the list beside it. -/
inductive Handed (Posted Confirmation : Type) where
  | posted (posted : Posted)
  | confirmation (confirmation : Confirmation)
deriving DecidableEq

namespace Handed

variable {Posted Confirmation : Type}

def posted? : Handed Posted Confirmation → Option Posted
  | .posted work => some work
  | .confirmation _ => none

def confirmation? : Handed Posted Confirmation → Option Confirmation
  | .posted _ => none
  | .confirmation outcome => some outcome

end Handed

namespace Inbox

inductive Holder (Thread : Type) where
  | pusher (thread : Thread)
  | io
deriving DecidableEq

/-- Where a thread is in `push`, `push_plain` or `push_confirmation`. -/
inductive Pusher (Posted Confirmation : Type) where
  | away
  | locking (handed : Handed Posted Confirmation)
  | locked (handed : Handed Posted Confirmation)
  | queued
  | stored
  -- in `wake_needed`, before its load and its swap
  | looking
  | swapping
deriving DecidableEq

/-- Where the io thread is. What it swapped out is its own until the call ends. -/
inductive IoThread (Posted Confirmation : Type) where
  | running
  | takeLocking
  | takeLocked
  | takeCleared
  | takeSwapped (taken : List Posted)
  | confirmationsLocking
  | confirmationsLocked
  | unlocking (taken : List Posted) (confirmations : List Confirmation)
  | fallingAsleep
  | fallingBack
  | asleep
deriving DecidableEq

namespace Pusher

variable {Posted Confirmation : Type}

def underWay : Pusher Posted Confirmation → Bool
  | .queued | .stored | .looking | .swapping => true
  | _ => false

def unqueued : Pusher Posted Confirmation → List (Handed Posted Confirmation)
  | .locking handed | .locked handed => [handed]
  | _ => []

end Pusher

namespace IoThread

variable {Posted Confirmation : Type}

/-- From the store of `asleep` in `fall_asleep` to the one that takes it back. -/
def sleeps : IoThread Posted Confirmation → Bool
  | .fallingAsleep | .fallingBack | .asleep => true
  | _ => false

def taken : IoThread Posted Confirmation → List Posted
  | .takeSwapped taken | .unlocking taken _ => taken
  | _ => []

def confirmations : IoThread Posted Confirmation → List Confirmation
  | .unlocking _ confirmations => confirmations
  | _ => []

end IoThread

end Inbox

open Inbox in
structure Inbox (Thread Posted Confirmation : Type) where
  posted : List Posted := []
  confirmations : List Confirmation := []
  holder : Option (Holder Thread) := none
  pending : Bool := false
  asleep : Bool := false
  pushers : Thread → Pusher Posted Confirmation := fun _ => .away
  io : IoThread Posted Confirmation := .running
  -- what each thread was called to push, what was queued in the order of the lock, what the
  -- takes gave, and what `wake_needed` told since the io thread last set `asleep`
  calls : Thread → List (Handed Posted Confirmation) := fun _ => []
  pushed : List (Thread × Handed Posted Confirmation) := []
  given : List Posted := []
  confirmed : List Confirmation := []
  answers : List (Thread × Bool) := []

namespace Inbox

variable {Thread Posted Confirmation : Type}

inductive Step (Thread Posted Confirmation : Type) where
  -- a thread calls `push`, `push_plain` or `push_confirmation`, and goes on with the call
  | push (thread : Thread) (handed : Handed Posted Confirmation)
  | pushOn (thread : Thread)
  -- the io thread calls, `spent` telling whether it has bodies to hand back, and goes on
  | take (spent : Bool)
  | takeConfirmations
  | fallAsleep
  | wakeUp
  | ioOn
deriving DecidableEq

def pushBack (handed : Handed Posted Confirmation) (inbox : Inbox Thread Posted Confirmation) :
    Inbox Thread Posted Confirmation :=
  { inbox with
    posted := inbox.posted ++ handed.posted?.toList
    confirmations := inbox.confirmations ++ handed.confirmation?.toList }

def ioOn (inbox : Inbox Thread Posted Confirmation) :
    Option (Inbox Thread Posted Confirmation) :=
  match inbox.io with
  | .running => none
  | .takeLocking =>
    match inbox.holder with
    | none => some { inbox with holder := some .io, io := .takeLocked }
    | some _ => none
  | .takeLocked => some { inbox with pending := false, io := .takeCleared }
  | .takeCleared => some { inbox with posted := [], io := .takeSwapped inbox.posted }
  | .takeSwapped taken =>
    some { inbox with confirmations := [], io := .unlocking taken inbox.confirmations }
  | .confirmationsLocking =>
    match inbox.holder with
    | none => some { inbox with holder := some .io, io := .confirmationsLocked }
    | some _ => none
  | .confirmationsLocked =>
    some { inbox with confirmations := [], io := .unlocking [] inbox.confirmations }
  | .unlocking taken confirmations =>
    some
      { inbox with
        holder := none
        io := .running
        given := inbox.given ++ taken
        confirmed := inbox.confirmed ++ confirmations }
  | .fallingAsleep => some { inbox with io := if inbox.pending then .fallingBack else .asleep }
  | .fallingBack => some { inbox with asleep := false, io := .running }
  | .asleep => none

variable [DecidableEq Thread]

def place (thread : Thread) (pusher : Pusher Posted Confirmation)
    (inbox : Inbox Thread Posted Confirmation) : Inbox Thread Posted Confirmation :=
  { inbox with pushers := Function.update inbox.pushers thread pusher }

def answer (thread : Thread) (needed : Bool) (inbox : Inbox Thread Posted Confirmation) :
    Inbox Thread Posted Confirmation :=
  { inbox.place thread .away with answers := inbox.answers ++ [(thread, needed)] }

def pushOn (thread : Thread) (inbox : Inbox Thread Posted Confirmation) :
    Option (Inbox Thread Posted Confirmation) :=
  match inbox.pushers thread with
  | .away => none
  | .locking handed =>
    match inbox.holder with
    | none => some { inbox.place thread (.locked handed) with holder := some (.pusher thread) }
    | some _ => none
  | .locked handed =>
    some
      { (inbox.place thread .queued).pushBack handed with
        pushed := inbox.pushed ++ [(thread, handed)] }
  | .queued => some { inbox.place thread .stored with pending := true }
  | .stored => some { inbox.place thread .looking with holder := none }
  | .looking =>
    if inbox.asleep then some (inbox.place thread .swapping) else some (inbox.answer thread false)
  | .swapping => some { inbox.answer thread inbox.asleep with asleep := false }

def act (inbox : Inbox Thread Posted Confirmation) :
    Step Thread Posted Confirmation → Option (Inbox Thread Posted Confirmation)
  | .push thread handed =>
    match inbox.pushers thread with
    | .away =>
      some
        { inbox.place thread (.locking handed) with
          calls := Function.update inbox.calls thread (inbox.calls thread ++ [handed]) }
    | _ => none
  | .pushOn thread => inbox.pushOn thread
  | .take spent =>
    match inbox.io with
    | .running =>
      if inbox.pending = false ∧ spent = false then some inbox
      else some { inbox with io := .takeLocking }
    | _ => none
  | .takeConfirmations =>
    match inbox.io with
    | .running =>
      if inbox.pending = false then some inbox else some { inbox with io := .confirmationsLocking }
    | _ => none
  | .fallAsleep =>
    match inbox.io with
    | .running => some { inbox with asleep := true, io := .fallingAsleep, answers := [] }
    | _ => none
  | .wakeUp =>
    match inbox.io with
    | .asleep => some { inbox with asleep := false, io := .running }
    | _ => none
  | .ioOn => inbox.ioOn

def run : List (Step Thread Posted Confirmation) → Inbox Thread Posted Confirmation →
    Option (Inbox Thread Posted Confirmation)
  | [], inbox => some inbox
  | step :: steps, inbox => (inbox.act step).bind (run steps)

end Inbox

end Multiplexer
