import Multiplexer.Library.Slab
import Multiplexer.Wire.Message

/-! What the parts of the core pass among each other: names, trackers, frames,
deadlines, the requests to the driver, and the notes an observer would take. -/

set_option autoImplicit false

namespace Multiplexer

abbrev ConnId := Nat

abbrev TrackerId := Nat

/-- The name of the tracker of a message in a batch, of which no frame of its own exists. -/
abbrev RecordId := Nat

abbrev LaneId := Nat
abbrev TimerKey := Nat
abbrev QueryId := Nat
abbrev FlushId := Nat
abbrev WaitKey := Slab.Key

/-- A callback of the program's, by name: calling it is noted, not run. -/
abbrev CallbackId := Nat

inductive Host where
  | address (ip : Nat)
  | name (text : String)
deriving DecidableEq, Repr

structure Target where
  host : Host
  port : Nat
deriving DecidableEq, Repr

structure SocketAddr where
  ip : Nat
  port : Nat
deriving DecidableEq, Repr

def Host.text : Host → String
  | .name text => text
  | .address _ => ""

def Host.code : Host → Nat
  | .name _ => 0
  | .address ip => ip + 1

instance : Ord Target :=
  ⟨compareLex (compareOn fun target => target.host.text)
    (compareLex (compareOn fun target => target.host.code) (compareOn Target.port))⟩

inductive SendState where
  | queued
  | sent
  | lost
deriving DecidableEq, Repr

inductive DropReason where
  | noRoom
  | noConnection
  | connectionLost
  | shutDown
  | notConfirmed
  | failed
deriving DecidableEq, Repr

/-- A frame to write, with what the client knows of it without parsing it back. -/
structure OutFrame where
  bytes : FrameBytes
  id : Nat
  type : Nat
  pinned : Bool
  forAll : Bool
  own : Bool
  number : Nat
  deadline : Option Instant
  batch : Option (List Nat)
  confirmed : Bool
  /-- The lane it was sent through, for the notes. -/
  lane : Option LaneId := none

def OutFrame.wireLength (frame : OutFrame) : Nat := frame.bytes.length

/-- One entry of a connection's outgoing queue: the frame and its tracker. -/
structure QueueEntry where
  tracker : TrackerId
  frame : OutFrame

structure Wrapper where
  conn : Option ConnId
  target : Target
deriving DecidableEq, Repr

def Wrapper.isSameConnection (wrapper other : Wrapper) : Bool :=
  wrapper.target == other.target

structure Lane where
  pinned : Bool
  connection : Option Wrapper
deriving DecidableEq, Repr

def Lane.holdsConnection (lane : Lane) : Bool := lane.connection.isSome

/-- The lane once the client writes `connection` into it: a pinned lane takes the
first connection only. -/
def Lane.adopt (lane : Lane) (connection : Wrapper) : Lane :=
  if lane.pinned && lane.holdsConnection then lane else { lane with connection := some connection }

/-- One message read and handed out, and the connection it came on. -/
structure Incoming where
  message : Message
  connection : Wrapper

/-- Who of the program hears a send's end. -/
inductive ProgramDone where
  | callback (id : CallbackId)
  | settle (send : Nat)
deriving DecidableEq, Repr

/-- Who hears a send's end, once. -/
inductive SendDone where
  | program (done : ProgramDone)
  | batch (ends : List (Option ProgramDone × Option RecordId))
  | confirmed (envelope : Nat)
deriving DecidableEq, Repr

/-- Who hears a flush's end: a `flush_all()` call waiting, or the shutdown. -/
inductive FlushDone where
  | wait (id : Nat)
  | drain
deriving DecidableEq, Repr

inductive Outcome where
  | replied (reply : Incoming)
  | timedOut
  | failed
  | notConnected
  | shutDown

inductive Confirmed where
  | processed
  | refused
  | failed
deriving DecidableEq, Repr

inductive Due where
  | sendHeartbit (conn : ConnId)
  | requireHeartbitSoon (conn : ConnId)
  | requireHeartbitNow (conn : ConnId)
  | readToTheEnd (conn : ConnId)
  | connectDeadline (conn : ConnId)
  | reconnect (number : Nat)
  | outboxExpiry
  | connectWait (id : Nat)
  | flushWait (id : Nat)
  | sendsExpire
  | drain
  | batches
  | confirmations
deriving DecidableEq, Repr

/-- What the core wants done with a socket, in order, after the call that asked. -/
inductive Action where
  | resolve (conn : ConnId) (target : Target)
  | openSocket (conn : ConnId) (address : SocketAddr)
  | cancelConnect (conn : ConnId)
  | startReading (conn : ConnId)
  | write (conn : ConnId) (bytes : FrameBytes)
  | shutdownWrite (conn : ConnId)
  | shutdown (conn : ConnId)
  | close (conn : ConnId)
  | cancelResolves

/-- The ids a client draws, of 64 bits, in the order drawn: any such, other threads draw from the
same counter. -/
structure Ids where
  nth : Nat → Nat
  nth_lt : ∀ drawn, nth drawn < 2 ^ 64

end Multiplexer
