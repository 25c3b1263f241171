import Multiplexer.Library.Program
import Multiplexer.Core.Types

/-! The state of the core, part by part. -/

set_option autoImplicit false

namespace Multiplexer

open Std

/-! ## Timers -/

/-- The timers armed, a query's apart from the others'. -/
structure Timers where
  heap : List (Instant × TimerKey) := []
  armed : TreeMap TimerKey Due := ∅
  queries : TreeMap TimerKey (QueryId × Nat) := ∅
  nextKey : Nat := 0

/-! ## Connections -/

inductive Channel where
  | free
  | busy
  | broken
deriving DecidableEq, Repr

def DEFAULT_OUT_QUEUE_SIZE : Nat := 1024

structure Conn where
  target : Target
  expectedEndpoint : Option SocketAddr := none
  candidates : List SocketAddr := []
  nextCandidate : Nat := 0
  connecting : Bool := false
  connectTimedOut : Bool := false
  connectDeadline : Option TimerKey := none
  socketOpen : Bool := false
  routingInWelcome : Nat := 0
  routingAcknowledged : Nat := 0
  routingRequestId : Nat := 0
  peerType : Nat := 0
  peerId : Nat := 0
  living : Bool := false
  shutsDown : Bool := false
  registered : Bool := false
  toldGone : Bool := false
  delivering : Bool := true
  droppedWhileClosing : Nat := 0
  reading : Bool := false
  sendHeartbitTimer : Option TimerKey := none
  quietSince : Option Instant := none
  requireHeartbitTimer : Option TimerKey := none
  heardAt : Option Instant := none
  silenceSecondWait : Bool := false
  outgoing : List QueueEntry := []
  outgoingMax : Nat := 1
  out : Channel := .free
  writeInFlight : Bool := false
  notifyWhenIdle : Bool := false
  notifyWhenReadDrained : Bool := false
  setAside : List QueueEntry := []

namespace Conn

def outgoingQueueFull (conn : Conn) : Bool := conn.outgoingMax ≤ conn.outgoing.length

def outgoingQueueEmpty (conn : Conn) : Bool := conn.outgoing.isEmpty

def lastQueued (conn : Conn) : Option QueueEntry :=
  conn.outgoing.reverse.find? fun entry => !entry.frame.own

/-- Whether nothing of it is left to happen: the core forgets it then. -/
def finished (conn : Conn) : Bool := conn.shutsDown && !conn.writeInFlight

end Conn

/-! ## The outbox -/

/-- A message waiting for room on one connection, or, held, for a connection to come up. -/
structure Waiting where
  frame : OutFrame
  tracker : TrackerId
  on : Option ConnId
  copy : Bool
  all : Bool
  lane : Option LaneId
  finished : Bool

structure Backlog where
  conn : ConnId
  waiting : List WaitKey
  live : Nat

structure Flush where
  lastNumber : Nat
  waiting : Nat
  marks : List (ConnId × TrackerId)
  done : Option FlushDone
  flushed : Bool
  lost : Bool
  confirmMark : Nat

structure Follow where
  done : Option SendDone
  copies : List TrackerId
  live : Nat
  finished : Bool

/-- Where the last dead connection to a target handed what it had not written. -/
structure Handover where
  target : Target
  source : Option ConnId
  conn : ConnId
  toTarget : Target

structure Outbox where
  slab : Slab Waiting := .empty
  backlogs : List Backlog := []
  waiting : Nat := 0
  displaced : List WaitKey := []
  held : List WaitKey := []
  heldLive : Nat := 0
  lastNumber : Nat := 0
  retries : Nat := 0
  expiring : List (Instant × WaitKey) := []
  compactAt : Nat := 0
  timer : Option TimerKey := none
  armed : Option Instant := none
  flushes : List FlushId := []
  flushStates : TreeMap FlushId Flush := ∅
  nextFlush : Nat := 0
  moved : TreeMap TrackerId Wrapper := ∅
  movedCompactAt : Nat := 0
  handovers : List Handover := []
  follows : TreeMap TrackerId Nat := ∅
  followStates : TreeMap Nat Follow := ∅
  nextFollow : Nat := 0
  followEvents : List (TrackerId × Bool) := []
  dropEvents : List (Nat × DropReason) := []
  callbacksPosted : Bool := false

/-! ## Batching -/

/-- How the events of a type, or of one key of it, that nobody waits for go. -/
structure Delivery where
  batch : Bool := false
  maxRecords : Nat := DEFAULT_BATCH_MAX_RECORDS
  maxBytes : Nat := DEFAULT_BATCH_MAX_BYTES
  maxDelay : Duration := 0
  confirm : Bool := false
  retryAfter : Duration := DEFAULT_RETRY_AFTER
  timeout : Option Duration := some DEFAULT_TIMEOUT
deriving DecidableEq, Repr

/-- What batching knows of a frame. -/
inductive BatchMark where
  | none
  | event (key : Option String)
  | batch (ids : List Nat)
  | confirmed
deriving DecidableEq, Repr

structure Frame where
  bytes : FrameBytes
  id : Nat
  type : Nat
  batch : BatchMark

structure Plain where
  body : Body Message
  key : Option String
  id : Nat
  type : Nat

structure Record where
  body : Body Message
  id : Nat
  done : Option ProgramDone
  tracker : Option RecordId
  number : Nat
  ticket : Nat

structure Batch where
  type : Nat
  key : Option String
  delivery : Delivery
  records : List Record
  bytes : Nat
  deadline : Option Instant
  waitsForIdle : Bool
  due : Option Instant
  backoff : Duration

structure Batcher where
  byType : Nat → Option Delivery := fun _ => none
  byKey : Nat → String → Option Delivery := fun _ _ => none
  opened : TreeMap Nat Batch := ∅
  unkeyed : Nat → Option Nat := fun _ => none
  keyed : Nat → String → Option Nat := fun _ _ => none
  began : Nat := 0
  waitingForIdle : List Nat := []
  byDue : List (Instant × Nat) := []
  timer : Option TimerKey := none
  armed : Option Instant := none

/-! ## Confirmed sends -/

/-- A message of a batch waiting whose end someone hears, by its place. -/
structure Followed where
  index : Nat
  done : Option ProgramDone
  tracker : Option RecordId

/-- A batch written whose messages wait for their confirmation. -/
structure Confirming where
  type : Nat
  key : Option String
  delivery : Delivery
  frame : FrameBytes
  ids : List Nat
  firstNumber : Nat
  numbers : List Nat
  followed : List Followed
  resolved : List Bool
  unresolved : Nat
  runKeys : List Nat
  placedOn : Option ConnId
  frameState : Option TrackerId
  written : Bool
  retryAt : Option Instant
  backoff : Duration
  deadline : Option Instant
  due : Option Instant
  tickets : List Nat

/-- A run of consecutive numbers in a batch waiting, by its first number. -/
structure Run where
  batch : Nat
  index : Nat
  count : Nat
  unresolved : Nat

structure Owed where
  connection : Option ConnId := none
  processed : List Nat := []
  refused : List Nat := []
  failed : List Nat := []
  count : Nat := 0

structure Confirmer where
  lastNumber : Nat := 0
  runs : TreeMap Nat Run := ∅
  byId : TreeMap Nat Confirming := ∅
  byDue : List (Instant × Nat) := []
  timer : Option TimerKey := none
  armed : Option Instant := none
  firing : Bool := false
  unconfirmed : Nat := 0
  sentAgain : Nat := 0
  ends : List (ProgramDone × Nat) := []
  owed : TreeMap Nat Owed := ∅
  owedCount : Nat := 0
  posted : Bool := false
  tickets : Nat := 0

/-! ## Queries -/

inductive Stage where
  | request
  | search
  | direct
  | waiting
  | late
deriving DecidableEq, Repr

structure InFlight where
  stage : Stage
  resume : Stage
  directTo : Nat
  sentVia : Option Wrapper
  sentState : Option TrackerId
  requestState : Option TrackerId
  directState : Option TrackerId
  prototype : Message
  timeout : Option Duration
  deadline : Option Instant
  lane : Option LaneId
  requestId : Nat
  searchId : Nat
  directId : Nat
  taken : Bool
  pending : List Nat
  searched : List Wrapper
  searchIds : List Nat
  generation : Nat
  listed : Bool
  callback : Option CallbackId
  received : Option CallbackId
  timer : Option TimerKey

structure Queries where
  inFlight : TreeMap QueryId InFlight := ∅
  nextQuery : Nat := 0
  byId : TreeMap Nat QueryId := ∅
  waiting : List QueryId := []
  waitingEnded : Nat := 0
  finishedOrder : List (Nat × Instant) := []
  retries : Nat := 0

/-! ## The client over its connections -/

inductive IncomingMode where
  | queue
  | dispatch
deriving DecidableEq, Repr

structure SpanSet where
  span : Nat
  order : List Nat

structure ClientState where
  mode : IncomingMode
  shutsDown : Bool := false
  routing : Routing := {}
  keyFiltersMessage : List KeyFilter := []
  routingVersion : Nat := 0
  acknowledgedCallbacks : List CallbackId := []
  enqueued : Nat := 0
  dequeued : Nat := 0
  confirmed : Bool := false
  confirmedEnqueued : Nat := 0
  acknowledgedVersion : Nat := 0
  acknowledgedWake : Bool := false
  incoming : List Incoming := []
  incomingMax : Nat := DEFAULT_INCOMING_QUEUE_MAX_SIZE
  refusing : Bool := false
  framesHandled : Nat := 0
  readDrainsWanted : Nat := 0
  dropObserver : Bool := false
  dropped : Nat := 0
  incomingDropped : Nat := 0
  byTarget : TreeMap Target ConnId := ∅
  reconnects : TreeMap Nat (TimerKey × Target) := ∅
  nextReconnect : Nat := 0
  firstConnectionOver : Std.TreeSet Target := ∅
  closing : List ConnId := []
  droppedWhileClosing : Nat := 0
  lastSeen : SpanSet := ⟨2048, []⟩

/-! ## The threaded client's own -/

structure HandedConfirmation where
  sender : Nat
  number : Nat
  outcome : Confirmed

structure HandlerReply where
  returned : Bool := true
  confirmed : List HandedConfirmation := []

structure ConnectWaiter where
  id : Nat
  connection : Wrapper
  done : CallbackId
  timer : Option TimerKey

structure FlushWait where
  id : Nat
  flush : Option FlushId
  done : CallbackId
  timer : Option TimerKey

structure PendingSend where
  wait : Bool
  settled : CallbackId

/-- The callbacks answer by the number of the call, so that every behaviour of the
program is some choice of these functions. -/
structure Threaded where
  onMessage : Option (Nat → HandlerReply) := none
  searchPolicy : Option (Nat → Bool) := none
  calls : Nat := 0
  confirmsItself : Bool := false
  inbox : Bool := false
  subscriptions : List (Option Nat) := []
  connects : List ConnectWaiter := []
  flushWaits : List FlushWait := []
  nextWait : Nat := 0
  sends : TreeMap Nat PendingSend := ∅
  nextSend : Nat := 0
  expiring : List (Instant × Nat) := []
  expiringCompactAt : Nat := 0
  expiryTimer : Option TimerKey := none
  expiryArmed : Option Instant := none
  shutDown : Bool := false
  drain : Option FlushId := none
  drainTimer : Option TimerKey := none
  writeOutSent : Nat := 0
  tornDown : Bool := false

inductive Posted where
  | connectFailed (conn : ConnId)
  | processCallbacks
  | fill
  | followHandover (query : QueryId) (generation : Nat) (request : Bool)
  | writeOutStep
  | plain (plain : Plain) (deadline : Option Instant)
  | sendConfirmations

inductive Attempt where
  | request
  | search
  | direct
deriving DecidableEq, Repr

/-! What an observer of the client takes down; the code never reads it. Newest first,
one list for what becomes of frames, one for queries, one for confirmed sends and what
the program is handed, one for the callbacks run. -/

inductive OutboxNote where
  | copied (entry : QueueEntry)
  | taken (frame : OutFrame) (trackers : List TrackerId)
  | registered (conn : ConnId)
  | queued (conn : ConnId) (entry : QueueEntry)
  | waits (conn : ConnId) (entry : QueueEntry)
  | wrote (conn : ConnId) (entry : QueueEntry)
  | dropped (copy : Option TrackerId) (frame : OutFrame) (reason : DropReason)
  | followed (follow : Nat) (done : SendDone) (frame : OutFrame) (trackers : List TrackerId)
  | followEnded (follow : Nat) (written : Nat)
  | flushBegan (flush : FlushId) (lastNumber confirmMark : Nat)
  | flushEnded (flush : FlushId) (allWritten : Bool)

inductive QueryNote where
  | began (query : QueryId) (prototype : Message)
  | attempted (query : QueryId) (attempt : Attempt) (bytes : FrameBytes) (trackers : List TrackerId)
  | refused (query : QueryId) (id : Nat)
  | ended (query : QueryId) (callback : CallbackId) (outcome : Outcome) (unencoded : Bool)

inductive ConfirmNote where
  | sent (ticket id : Nat)
  | numbered (ticket number : Nat) (deadline : Option Instant)
  | enveloped (envelope : Nat) (tickets : List Nat)
  | confirmationRead (confirmation : Confirmation)
  | ended (ticket number : Nat) (processed : Bool)
  | recordDropped (ticket id : Nat) (reason : DropReason)
  | handed (message : Message)
  | confirmed (producer number : Nat) (outcome : Confirmed)
  | told (producer : Nat) (confirmation : Confirmation)

inductive Arrival where
  | took (id : Nat)
  | letGo
  | made (id : Nat)
  | passed (message : Message)

inductive Call where
  | callback (id : CallbackId)
  | send (done : ProgramDone) (written : Nat)

/-! ## The core -/

structure Core where
  now : Instant
  timers : Timers := {}
  posted : List Posted := []
  actions : List Action := []
  ids : Ids
  drawn : Nat := 1
  instanceId : Nat
  peerType : Nat
  conns : TreeMap ConnId Conn := ∅
  nextConn : Nat := 0
  byPeerId : TreeMap Nat ConnId := ∅
  roundRobin : List ConnId := []
  client : ClientState
  outbox : Outbox := {}
  batcher : Batcher := {}
  confirmer : Confirmer := {}
  queries : Queries := {}
  queriesFillPosted : Bool := false
  threaded : Threaded := {}
  trackers : TrackerId → SendState := fun _ => .queued
  nextTracker : Nat := 0
  recordStates : RecordId → SendState := fun _ => .queued
  nextRecord : Nat := 0
  lanes : LaneId → Lane := fun _ => ⟨false, none⟩
  nextLane : Nat := 0
  kept : List TrackerId := []
  loopEnded : Bool := false
  notes : List OutboxNote := []
  queryNotes : List QueryNote := []
  confirmNotes : List ConfirmNote := []
  arrivals : List Arrival := []
  calls : List Call := []

/-- A core for a peer of `peerType`, its instance id the first of its ids. -/
def Core.new (peerType : Nat) (ids : Ids) (mode : IncomingMode) (now : Instant) : Core :=
  { now, ids, instanceId := ids.nth 0, peerType, client := { mode } }

abbrev Client (α : Type) := Program Core α

end Multiplexer
