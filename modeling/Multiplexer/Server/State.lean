import Multiplexer.Io.SharedOutgoing
import Multiplexer.Server.KeyFilterHistories
import Multiplexer.Server.Messages
import Mathlib.Data.Finset.Basic

/-! The server's state: its connections, the two indexes they are routed by, what it
records and to whom it streams it. -/

set_option autoImplicit false

namespace Multiplexer

namespace Server

abbrev Pointer := Nat

/-- What the server meets outside itself. -/
structure Surroundings (Regex : Type) where
  re2 : Re2 Regex
  -- at each match, whether a set compiles in so many bytes, and what it finds
  setCompiles : Nat → Nat → Bool
  setHits : Nat → List Bytes → Bytes → Option (List Nat)
  random : Nat → UInt64
  recordLength : Record → Nat → Nat
  statusLength : Content Message → Nat
  literal : re2.Literal
  exact : ∀ evaluation texts key, KeyPatterns.SetRun.exactFor re2 texts key
      ⟨setCompiles evaluation, setHits evaluation texts key⟩ = true

structure PeerDescription where
  queueSize : Nat := 1024
  queueSize_pos : 0 < queueSize := by decide

structure MessageDescription where
  rules : List RoutingRule := []

structure Config where
  initialized : Bool := false
  messageDescription : UInt32 → Option MessageDescription := fun _ => none
  peerDescription : UInt32 → Option PeerDescription := fun _ => none

structure Connection where
  peerId : UInt64 := 0
  peerType : UInt32 := 0
  living : Bool := true
  shutsDown : Bool := false
  registered : Bool := false
  toldGone : Bool := false
  delivering : Bool := true
  inTypeList : Bool := false
  routing : Routing := {}
  keyFilters : List FilterMessage := []
  keyOwner : Owner := NO_OWNER
  outgoing : List Frame := []
  outgoingMax : Nat := 1
  -- its shared queue ended (several loops)
  ended : Bool := false
  -- it ends, and tells the manager next
  leaving : Bool := false
  -- its shutdown is over, the manager let go
  closed : Bool := false

namespace Connection

def acceptsAny (conn : Connection) : Bool := conn.routing.any
def acceptsAll (conn : Connection) : Bool := conn.routing.all
def lastResort (conn : Connection) : Bool := conn.routing.lastResort

def outgoingQueueFull (conn : Connection) : Bool := conn.outgoingMax ≤ conn.outgoing.length

/-- Whether the queue takes one more frame, `force` letting a protocol frame past a full
one. -/
def hasRoom (force : Bool) (conn : Connection) : Bool :=
  !conn.outgoingQueueFull ||
    (force && conn.outgoing.length < conn.outgoingMax + FORCED_FRAMES_PAST_FULL_QUEUE)

/-- The frame at the back or, `asap`, right behind the frame being written. -/
def push (frame : Frame) (asap : Bool) (conn : Connection) : Connection :=
  { conn with
    outgoing :=
      if asap then SharedOutgoing.behindFront frame conn.outgoing else conn.outgoing ++ [frame] }

end Connection

/-- A recording under way: what it wrote, and how many records it takes before it closes
itself, its file at its cap or a write failed. -/
structure Recorder where
  path : Bytes
  records : List Record := []
  room : Option Nat := none

structure Tap where
  conn : Pointer
  peerId : UInt64
  payloadLimit : Nat
  dropped : Nat := 0

/-- What a run did, in order: a registration, an unregistration, and a message routed by a
rule for any one of a type's connections, with those eligible and the one picked. -/
inductive Turn where
  | registered (id : UInt64) (type : UInt32) (conn : Pointer)
  | left (conn : Pointer)
  | any (type : UInt32) (eligible : List Pointer) (chosen : Option Pointer)
deriving DecidableEq

/-- A key filter owner handed out for a connection, or released. -/
inductive OwnerTurn where
  | taken (conn : Pointer) (owner : Owner)
  | released (conn : Pointer) (owner : Owner)
deriving DecidableEq

end Server

structure Server (Regex : Type) where
  instanceId : UInt64
  -- whether it runs on several event loops
  loops : Bool := false
  config : Server.Config := {}
  remoteRecording : Bool := false
  allowTap : Bool := false
  stopping : Bool := false
  connections : Server.Pointer → Option Server.Connection := fun _ => none
  connectionById : Std.TreeMap UInt64 Server.Pointer := ∅
  connectionsByType : Std.TreeMap UInt32 (List Server.Pointer) := ∅
  replaced : Finset Server.Pointer := ∅
  departed : Finset Server.Pointer := ∅
  keyPatterns : Server.KeyPatterns Regex := {}
  recorder : Option Server.Recorder := none
  taps : List Server.Tap := []
  drawn : Nat := 0
  -- what the run did so far: connections accepted, turns, owners, the DELIVERY_ERRORs made
  -- and the recordings closed
  accepted : Nat := 0
  turns : List Server.Turn := []
  owned : List Server.OwnerTurn := []
  reports : List Server.Message := []
  recordings : List (List Server.Record) := []

namespace Server

variable {Regex : Type}

/-- The connections of a peer type, in the order `send_to_one` looks at them. -/
def ofType (server : Server Regex) (type : UInt32) : List Pointer :=
  (server.connectionsByType[type]?).getD []

def modify (conn : Pointer) (change : Connection → Connection) (server : Server Regex) : Server Regex :=
  { server with
    connections :=
      Function.update server.connections conn ((server.connections conn).map change) }

inductive Queued where
  | queued
  | full
  | gone
deriving DecidableEq, Repr

def queue (conn : Pointer) (frame : Frame) (force : Bool) (server : Server Regex) :
    Queued × Server Regex :=
  match server.connections conn with
  | none => (.gone, server)
  | some connection =>
    if server.loops && (!connection.living || connection.ended) then (.gone, server)
    else if connection.living && connection.hasRoom force then
      (.queued, server.modify conn (.push frame false))
    else (.full, server)

/-- Queues one of a connection's own frames, its welcome or a heartbeat. -/
def scheduleOwn (conn : Pointer) (frame : Frame) (server : Server Regex) : Bool × Server Regex :=
  match server.connections conn with
  | none => (false, server)
  | some connection =>
    if connection.living && !connection.ended && connection.hasRoom true then
      (true, server.modify conn (.push frame true))
    else (false, server)

/-! ## Recording -/

def recording (server : Server Regex) : Bool := server.recorder.isSome || !server.taps.isEmpty

def stopRecording (server : Server Regex) : Server Regex :=
  match server.recorder with
  | none => server
  | some recorder =>
    { server with recorder := none, recordings := server.recordings ++ [recorder.records] }

def writeRecord (record : Record) (server : Server Regex) : Server Regex :=
  match server.recorder with
  | none => server
  | some recorder =>
    let records := recorder.records ++ [record]
    match recorder.room with
    | none => { server with recorder := some { recorder with records } }
    | some (room + 1) =>
      { server with recorder := some { recorder with records, room := some room } }
    | some 0 => stopRecording { server with recorder := some { recorder with records } }

variable (env : Surroundings Regex)

def draw (server : Server Regex) : UInt64 × Server Regex :=
  (env.random server.drawn, { server with drawn := server.drawn + 1 })

def tapFrame (id : UInt64) (record : Record) (tap : Tap) (server : Server Regex) : Message :=
  { id? := some id
    sender? := some server.instanceId
    toId? := some tap.peerId
    type := types.RECORDING_RECORD
    message? := some ⟨env.recordLength record tap.payloadLimit, .record record⟩ }

def Tap.lost (tap : Tap) : Tap := { tap with dropped := tap.dropped + 1 }

/-- One record to one tap; one too big, or that its full queue refuses, is dropped. -/
def stream (record : Record) (tap : Tap) (server : Server Regex) : Tap × Server Regex :=
  let (id, server) := server.draw env
  let frame := server.tapFrame env id record tap
  if (server.connections tap.conn).isNone ∨ frame.encodedLen > MAX_MESSAGE_SIZE then
    (tap.lost, server)
  else
    let (outcome, server) := server.queue tap.conn (.made frame) false
    (if outcome = .full then tap.lost else tap, server)

def streamAll (record : Record) : List Tap → Server Regex → List Tap × Server Regex
  | [], server => ([], server)
  | tap :: taps, server =>
    let (tap, server) := server.stream env record tap
    let (taps, server) := streamAll record taps server
    (tap :: taps, server)

/-- A record to the session and to every tap, those whose peer is gone dropped. -/
def emit (record : Record) (server : Server Regex) : Server Regex :=
  let living := server.taps.filter fun tap =>
    (server.connections tap.conn).any Connection.living
  let (taps, server) := streamAll env record living (server.writeRecord record)
  { server with taps }

def emitPeer (kind : PeerEventKind) (peerId : UInt64) (peerType : UInt32)
    (server : Server Regex) : Server Regex :=
  if server.recording then server.emit env (.peer kind peerId peerType) else server

def emitPeerRouting (conn : Connection) (server : Server Regex) : Server Regex :=
  if server.recording then
    server.emit env (.routing conn.peerId conn.peerType conn.routing)
  else server

/-- What a new session starts with. -/
def firstRecords (server : Server Regex) : List Record :=
  .header ::
    server.connectionById.toList.flatMap fun entry =>
      match server.connections entry.2 with
      | none => []
      | some conn =>
        if conn.living then
          .peer .connected conn.peerId conn.peerType ::
            if conn.routing.restricted then [.routing conn.peerId conn.peerType conn.routing]
            else []
        else []

/-- Starts a session, its file opened with room for so many records, or why not. -/
def startRecording (path : Bytes) (opened : Except Bytes (Option Nat)) (server : Server Regex) :
    Except Bytes Unit × Server Regex :=
  match server.recorder with
  | some recorder => (.error (text "already recording " ++ recorder.path), server)
  | none =>
    match opened with
    | .error error => (.error error, server)
    | .ok room =>
      (.ok (), { server with recorder := some { path, records := server.firstRecords, room } })

end Server

end Multiplexer
