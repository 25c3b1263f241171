import Multiplexer.Wire.Message

/-! The outgoing side of a connection that several event loops write to: the queue, the channel's
state, who writes and from where, and what the connection's own loop is owed. Each function is
one turn under its lock; the writes to the socket happen between turns. -/

set_option autoImplicit false

namespace Multiplexer

structure RawMessage where
  header : List UInt8
  body : List UInt8
  header_length : header.length = HEADER_LENGTH
deriving DecidableEq

namespace RawMessage

def messageBuffer (frame : RawMessage) : List (List UInt8) := [frame.header, frame.body]

def bytes (frame : RawMessage) : List UInt8 := frame.messageBuffer.flatten

/-- The bytes of a frame, `get_header_length() + get_body_length()`. -/
def size (frame : RawMessage) : Nat := frame.header.length + frame.body.length

/-- The buffers left past `offset` bytes, as `send_rest` gathers them. -/
def restFrom : List (List UInt8) → Nat → List (List UInt8)
  | [], _ => []
  | buffer :: buffers, offset =>
    if offset ≥ buffer.length then restFrom buffers (offset - buffer.length)
    else buffer.drop offset :: buffers

/-- What one sendmsg offers the socket: what is left of the frame past `offset`. -/
def sendRest (frame : RawMessage) (offset : Nat) : List UInt8 :=
  (restFrom frame.messageBuffer offset).flatten

theorem length_bytes (frame : RawMessage) : frame.bytes.length = frame.size := by
  simp [bytes, messageBuffer, size]

theorem size_pos (frame : RawMessage) : 0 < frame.size := by
  have header := frame.header_length
  simp only [HEADER_LENGTH] at header
  simp only [size, header]
  omega

theorem flatten_restFrom (buffers : List (List UInt8)) (offset : Nat) :
    (restFrom buffers offset).flatten = buffers.flatten.drop offset := by
  induction buffers generalizing offset with
  | nil => simp [restFrom]
  | cons buffer _ ih =>
    by_cases past : offset ≥ buffer.length
    · simp [restFrom, past, ih, List.drop_append, List.drop_eq_nil_of_le past]
    · have short : offset - buffer.length = 0 := by omega
      simp [restFrom, past, List.drop_append, short]

/-- A write from an offset on offers the rest of the frame. -/
theorem sendRest_eq (frame : RawMessage) (offset : Nat) :
    frame.sendRest offset = frame.bytes.drop offset := flatten_restFrom _ _

end RawMessage

namespace SharedOutgoing

/-- A writer from another loop leaves the rest to the connection's own loop after this
many frames. -/
def WRITE_THROUGH_FRAMES : Nat := 64

inductive Queued where
  | full
  | queued
  | claimed
  | ended
deriving DecidableEq, Repr

/-- Why a writer, or the connection's own loop, stopped writing, and what it hands on. -/
inductive Ending where
  | idle
  | heartbeat
  | close
  | handOver
  | written
  | lost
  | gone
  | more
  | failed
deriving DecidableEq, Repr

inductive State where
  | free
  | writing
  | owner
  | broken
deriving DecidableEq, Repr

end SharedOutgoing

open SharedOutgoing in
structure SharedOutgoing (Entry Thread : Type) where
  queue : List Entry := []
  state : State := .free
  limit : Nat := 1
  descriptor : Int := -1
  -- the connection's living flag, once the connection gave it
  living : Option Bool := none
  writer : Option Thread := none
  frontWritten : Nat := 0
  ownerWrites : Bool := false
  settler : Option Thread := none
  ownerSettles : Bool := false
  quietSince : Instant := 0
  heartbeatOwed : Bool := false
  closeOwed : Bool := false

namespace SharedOutgoing

variable {Entry Thread : Type}

/-- The socket the writes go to and the connection's living flag, before anything is
queued. -/
def start (descriptor : Int) (living : Bool) (shared : SharedOutgoing Entry Thread) :
    SharedOutgoing Entry Thread :=
  { shared with descriptor, living := some living }

def behindFront (entry : Entry) : List Entry → List Entry
  | [] => [entry]
  | front :: rest => front :: entry :: rest

/-- Queues `entry`, at the back or, `asap`, right behind the frame being written. -/
def enqueue (entry : Entry) (force asap : Bool) (self : Thread)
    (shared : SharedOutgoing Entry Thread) : Queued × SharedOutgoing Entry Thread :=
  if shared.state = .broken then (.ended, shared)
  else if shared.limit ≤ shared.queue.length ∧
      (force = false ∨ shared.queue.length ≥ shared.limit + FORCED_FRAMES_PAST_FULL_QUEUE) then
    (.full, shared)
  else
    let shared :=
      { shared with
        queue := if asap then behindFront entry shared.queue else shared.queue ++ [entry] }
    if shared.state ≠ .free then (.queued, shared)
    else (.claimed, { shared with state := .writing, writer := some self })

def full (shared : SharedOutgoing Entry Thread) : Bool := shared.limit ≤ shared.queue.length

def setLimit (limit : Nat) (shared : SharedOutgoing Entry Thread) : SharedOutgoing Entry Thread :=
  { shared with limit }

/-- The channel ended for a close once flushed, and with it the connection's life. -/
def endForClose (shared : SharedOutgoing Entry Thread) : SharedOutgoing Entry Thread :=
  { shared with state := .broken, living := shared.living.map fun _ => false }

/-- The queue emptied: the channel free, or, a close owed, ended. -/
def emptied (now : Instant) (shared : SharedOutgoing Entry Thread) : Ending × SharedOutgoing Entry Thread :=
  let shared := { shared with writer := none }
  if shared.closeOwed then (.close, endForClose { shared with closeOwed := false })
  else
    let shared := { shared with state := .free, quietSince := now }
    if shared.heartbeatOwed then (.heartbeat, { shared with heartbeatOwed := false })
    else (.idle, shared)

def settleThrough [DecidableEq Thread] (self : Thread) (whole : Bool)
    (shared : SharedOutgoing Entry Thread) : Ending × SharedOutgoing Entry Thread :=
  if shared.settler ≠ some self then (.gone, shared)
  else (if whole then .written else .lost, { shared with settler := none })

def settleOwned (whole : Bool) (shared : SharedOutgoing Entry Thread) :
    Ending × SharedOutgoing Entry Thread :=
  if !shared.ownerSettles then (.gone, shared)
  else (if whole then .written else .lost, { shared with ownerSettles := false })

/-- A writer's next step: the frame to write, where its write starts and the socket, or
why it stops. -/
inductive Next (Entry : Type) where
  | write (front : Entry) (offset : Nat) (descriptor : Int)
  | stop (ending : Ending)

def nextThrough [DecidableEq Thread] (self : Thread) (frames : Nat) (now : Instant)
    (shared : SharedOutgoing Entry Thread) : Next Entry × SharedOutgoing Entry Thread :=
  if shared.state ≠ .writing ∨ shared.writer ≠ some self then
    let (ending, shared) := settleThrough self false shared -- ended before the write began
    (.stop ending, shared)
  else
    match shared.queue with
    | [] =>
      let (ending, shared) := emptied now shared
      (.stop ending, shared)
    | front :: _ =>
      if frames = WRITE_THROUGH_FRAMES then
        (.stop .handOver, { shared with state := .owner, writer := none })
      else (.write front shared.frontWritten shared.descriptor, shared)

/-- `write_through`'s turn after a write of `rest` bytes that wrote `sent`, none for an
error. -/
def writtenThrough [DecidableEq Thread] (self : Thread) (frames rest : Nat) (sent : Option Nat)
    (now : Instant) (shared : SharedOutgoing Entry Thread) :
    Next Entry × SharedOutgoing Entry Thread :=
  if shared.state ≠ .writing ∨ shared.writer ≠ some self then
    let (ending, shared) := settleThrough self (sent = some rest) shared
    (.stop ending, shared)
  else if sent ≠ some rest then
    -- would block, wrote part of the frame, or failed: the own loop goes on from here
    (.stop .handOver,
      { shared with
        frontWritten := shared.frontWritten + sent.getD 0, state := .owner, writer := none })
  else
    nextThrough self (frames + 1) now { shared with queue := shared.queue.tail, frontWritten := 0 }

/-- The own loop takes its turn, handed over. -/
def ownerNext (shared : SharedOutgoing Entry Thread) :
    Option (Entry × Nat) × SharedOutgoing Entry Thread :=
  if shared.state ≠ .owner then (none, shared)
  else
    match shared.queue with
    | [] => (none, { shared with state := .free })
    | front :: _ => (some (front, shared.frontWritten), { shared with ownerWrites := true })

/-- The own loop's write of the front ended, `whole` when it wrote all that was left. -/
def ownerWritten (whole : Bool) (now : Instant) (shared : SharedOutgoing Entry Thread) :
    Ending × SharedOutgoing Entry Thread :=
  let shared := { shared with ownerWrites := false }
  if shared.state ≠ .owner then settleOwned whole shared
  else if !whole then (.failed, shared)
  else
    let shared := { shared with queue := shared.queue.tail, frontWritten := 0 }
    if shared.queue ≠ [] then (.more, shared)
    else emptied now { shared with heartbeatOwed := false }

def quiet (now : Instant) (shared : SharedOutgoing Entry Thread) :
    Bool × SharedOutgoing Entry Thread :=
  match shared.queue with
  | _ :: _ => (false, { shared with heartbeatOwed := true })
  | [] => (true, { shared with quietSince := now })

/-- The connection closes once what is queued is written: whether that is now. -/
def closeWhenFlushed (shared : SharedOutgoing Entry Thread) : Bool × SharedOutgoing Entry Thread :=
  if shared.state = .free then (true, endForClose shared)
  else (false, { shared with closeOwed := true })

/-- Ends the channel and takes what is queued, with whether a write had the front under
way, which that write settles. -/
def take (shared : SharedOutgoing Entry Thread) : (List Entry × Bool) × SharedOutgoing Entry Thread :=
  let underWay := shared.queue ≠ [] ∧ (shared.state = .writing ∨ shared.ownerWrites = true)
  ((shared.queue, decide underWay),
    { shared with
      settler := if shared.state = .writing then shared.writer else none
      ownerSettles := shared.ownerWrites
      state := .broken
      writer := none
      frontWritten := 0
      limit := 0
      closeOwed := false
      heartbeatOwed := false
      queue := [] })

end SharedOutgoing

end Multiplexer
