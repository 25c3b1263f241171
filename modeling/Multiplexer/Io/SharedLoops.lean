import Multiplexer.Io.SharedOutgoing
import Mathlib.Logic.Function.Basic

/-! The threads that write to one shared connection and the connection's own loop, turn
by turn: what each does between its turns under the lock, the writes to the socket among
it, in any order the threads come in. -/

set_option autoImplicit false

namespace Multiplexer.SharedOutgoing

/-- An entry as an enqueue accepted it: the first has number 0. -/
structure Ticketed (Entry : Type) where
  number : Nat
  entry : Entry
deriving DecidableEq

inductive Phase (Entry : Type) where
  | idle
  -- an enqueue gave it the writing, which it has not begun
  | claimed
  -- `frames` written, it writes `front` from `offset`
  | sending (front : Entry) (offset frames : Nat)
  -- the write is over, none for an error
  | sent (front : Entry) (offset frames : Nat) (count : Option Nat)
deriving DecidableEq

inductive OwnWrite (Entry : Type) where
  | idle
  | writing (front : Entry) (offset transferred : Nat)
  -- its write failed, and it ends the channel next
  | failing
deriving DecidableEq

/-- Who writes: a thread through, or the connection's own loop. -/
inductive Party (Thread : Type) where
  | thread (thread : Thread)
  | own
deriving DecidableEq

/-- What happened, in order: a take with the frame it set aside and whose write had it
under way, and an end a writer was told, with whether the channel had ended before. -/
inductive Note (Entry Thread : Type) where
  | took (aside : Option (Entry × Party Thread))
  | told (party : Party Thread) (ending : Ending) (ended : Bool)
deriving DecidableEq

structure World (Entry Thread : Type) where
  shared : SharedOutgoing (Ticketed Entry) Thread := {}
  phase : Thread → Phase (Ticketed Entry) := fun _ => .idle
  -- the own loop's turns at writing, posted to it or taken by itself, it has not begun
  handed : Nat := 0
  own : OwnWrite (Ticketed Entry) := .idle
  -- the connection's frame set aside, and the settlements posted to it
  aside : List (Ticketed Entry) := []
  settles : List Bool := []
  -- what the run did so far
  socket : List UInt8 := []
  accepted : Nat := 0
  popped : List (Ticketed Entry) := []
  taken : List (Ticketed Entry) := []
  settled : List (Ticketed Entry × Bool) := []
  log : List (Note (Ticketed Entry) Thread) := []

inductive Action (Entry Thread : Type) where
  | enqueue (thread : Thread) (entry : Entry) (force asap : Bool)
  | setLimit (limit : Nat)
  | begin (thread : Thread) (now : Instant)
  | send (thread : Thread) (count : Option Nat)
  | finish (thread : Thread) (now : Instant)
  | quiet (now : Instant)
  | closeWhenFlushed
  | ownerNext
  | ownerSends (count : Nat)
  | ownerWritten (failed : Bool) (now : Instant)
  | take
  | settle

variable {Entry Thread : Type}

namespace World

/-- What left the queue in a turn that takes nothing over: its front entries, popped. -/
def leaving (before after : List (Ticketed Entry)) : List (Ticketed Entry) :=
  before.take (before.length - after.length)

def settleAside (whole : Bool) (world : World Entry Thread) : World Entry Thread :=
  match world.aside with
  | [] => world
  | front :: _ => { world with aside := [], settled := world.settled ++ [(front, whole)] }

/-- `_hand_on`: what a writer that stopped posts to the own loop. -/
def handOn (ending : Ending) (world : World Entry Thread) : World Entry Thread :=
  match ending with
  | .handOver => { world with handed := world.handed + 1 }
  | .written => { world with settles := world.settles ++ [true] }
  | .lost => { world with settles := world.settles ++ [false] }
  | _ => world

/-- What the own loop does about the end of its write (`_owner_written`). -/
def ownerHears (ending : Ending) (world : World Entry Thread) : World Entry Thread :=
  match ending with
  | .more => { world with handed := world.handed + 1 }
  | .failed => { world with own := .failing }
  | .written => world.settleAside true
  | .lost => world.settleAside false
  | _ => world

variable [DecidableEq Thread]

/-- A writer's turn is over: it writes on, or stops and hands on. -/
def goOn (thread : Thread) (frames : Nat)
    (next : Next (Ticketed Entry) × SharedOutgoing (Ticketed Entry) Thread)
    (world : World Entry Thread) : World Entry Thread :=
  let ended := decide (world.shared.state = .broken)
  let popped := world.popped ++ leaving world.shared.queue next.2.queue
  match next.1 with
  | .write front offset _ =>
    { world with
      shared := next.2, popped
      phase := Function.update world.phase thread (.sending front offset frames) }
  | .stop ending =>
    handOn ending
      { world with
        shared := next.2, popped
        phase := Function.update world.phase thread .idle
        log := world.log ++ [.told (.thread thread) ending ended] }

def writerOf (shared : SharedOutgoing (Ticketed Entry) Thread) : Party Thread :=
  match shared.writer with
  | some thread => .thread thread
  | none => .own

variable (toRaw : Entry → RawMessage)

def bytesOf (entries : List (Ticketed Entry)) : List UInt8 :=
  entries.flatMap fun entry => (toRaw entry.entry).bytes

/-- One turn, or one step between turns, when whoever takes it is at it. -/
def act (action : Action Entry Thread) (world : World Entry Thread) :
    Option (World Entry Thread) :=
  match action with
  | .enqueue thread entry force asap =>
    let (answer, shared) := world.shared.enqueue ⟨world.accepted, entry⟩ force asap thread
    match answer with
    | .full | .ended => some { world with shared }
    | .queued => some { world with shared, accepted := world.accepted + 1 }
    | .claimed =>
      some
        { world with
          shared, accepted := world.accepted + 1
          phase := Function.update world.phase thread .claimed }
  | .setLimit limit => some { world with shared := world.shared.setLimit limit }
  | .begin thread now =>
    match world.phase thread with
    | .claimed => some (world.goOn thread 0 (world.shared.nextThrough thread 0 now))
    | _ => none
  | .send thread count =>
    match world.phase thread with
    | .sending front offset frames =>
      let rest := (toRaw front.entry).sendRest offset
      -- sendmsg writes no more than it is offered
      if count.getD 0 ≤ rest.length then
        some
          { world with
            socket := world.socket ++ rest.take (count.getD 0)
            phase := Function.update world.phase thread (.sent front offset frames count) }
      else none
    | _ => none
  | .finish thread now =>
    match world.phase thread with
    | .sent front offset frames count =>
      let rest := (toRaw front.entry).size - offset
      some (world.goOn thread (frames + 1)
        (world.shared.writtenThrough thread frames rest count now))
    | _ => none
  | .quiet now => some { world with shared := (world.shared.quiet now).2 }
  | .closeWhenFlushed => some { world with shared := world.shared.closeWhenFlushed.2 }
  | .ownerNext =>
    match world.handed with
    | 0 => none
    | handed + 1 =>
      let (next, shared) := world.shared.ownerNext
      match next with
      | none => some { world with shared, handed }
      | some (front, offset) => some { world with shared, handed, own := .writing front offset 0 }
  | .ownerSends count =>
    match world.own with
    | .writing front offset transferred =>
      let rest := (toRaw front.entry).bytes.drop (offset + transferred)
      if count ≤ rest.length then
        some
          { world with
            socket := world.socket ++ rest.take count
            own := .writing front offset (transferred + count) }
      else none
    | _ => none
  | .ownerWritten failed now =>
    match world.own with
    | .writing front offset transferred =>
      let rest := (toRaw front.entry).size - offset
      -- an async_write fails only short of all it was to write
      if failed ∧ transferred = rest then none
      else
        let (ending, shared) :=
          world.shared.ownerWritten (!failed && decide (transferred = rest)) now
        some (ownerHears ending
          { world with
            shared, own := .idle
            popped := world.popped ++ leaving world.shared.queue shared.queue
            log := world.log ++ [.told .own ending (decide (world.shared.state = .broken))] })
    | _ => none
  | .take =>
    let ((taken, underWay), shared) := world.shared.take
    let aside := if underWay then taken.head? else none
    some
      { world with
        shared
        own := match world.own with
          | .failing => .idle
          | own => own
        aside := world.aside ++ aside.toList
        taken := world.taken ++ taken
        log := world.log ++ [.took (aside.map (·, writerOf world.shared))] }
  | .settle =>
    match world.settles with
    | [] => none
    | whole :: settles => some ({ world with settles }.settleAside whole)

def run : List (Action Entry Thread) → World Entry Thread → Option (World Entry Thread)
  | [], world => some world
  | action :: actions, world => (world.act toRaw action).bind (run actions)

end World

end Multiplexer.SharedOutgoing
