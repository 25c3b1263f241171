import Multiplexer.Core.Client.Threaded

/-! The events into the core: the driver's words on sockets, timers and posted work, and
the program's calls; what the driver and the classes on top promise about them; and
runs. -/

set_option autoImplicit false

namespace Multiplexer

open Program

inductive Event where
  -- the driver's
  | resolved (conn : ConnId) (candidates : List SocketAddr)
  | connected (conn : ConnId) (up : Bool)
  | openFailed (conn : ConnId)
  | frameStarted (conn : ConnId)
  | frame (conn : ConnId) (body : Option Message)
  | readDrained (conn : ConnId)
  | readEnd (conn : ConnId)
  | writeDone (conn : ConnId) (written : Nat) (failed : Bool)
  | timer
  | posted
  -- the program's connections
  | connect (target : Target)
  | startConnect (target : Target) (timeout : Option Duration) (done : CallbackId)
  | disconnect (target : Target)
  -- its sends
  | newLane (pinned : Bool)
  | laneThrough (connection : Wrapper) (pinned : Bool)
  | send (frame : Frame) (all : Bool) (lane : Option LaneId) (timeout : Option Duration)
      (keep : Bool) (done : Option CallbackId) (mayBatch : Bool)
  | placeSend (frame : Frame) (all : Bool) (lane : Option LaneId) (deadline : Option Instant)
      (wait : Bool) (settled : Option CallbackId)
  | sendPlain (plain : Plain) (timeout : Option Duration)
  | postPlain (plain : Plain) (deadline : Option Instant)
  | dropHeld (tracker : TrackerId)
  | letGo (tracker : TrackerId)
  | setDelivery (type : Nat) (key : Option String) (delivery : Delivery)
  | clearDelivery (type : Nat) (key : Option String)
  | flush
  | flushAll (timeout : Option Duration) (done : CallbackId)
  | forgetFlush (flush : FlushId)
  -- its queries
  | query (prototype : Message) (timeout : Option Duration) (lane : Option LaneId)
      (done : CallbackId) (received : Option CallbackId)
  | stopQuery (query : QueryId)
  -- what it receives
  | receive
  | confirm (sender number : Nat) (outcome : Confirmed)
  | confirmHanded (handed : List HandedConfirmation)
  | sendConfirmations
  | refuseArrivals
  | refuseUnread
  | inbox
  | subscribe (type : Nat)
  | setRouting (routing : Routing) (acknowledged : Option CallbackId)
  | setKeyFilters (filters : List KeyFilter) (acknowledged : Option CallbackId)
  | setDropObserver (on : Bool)
  | drawId
  -- its end
  | shutdownClient
  | beginShutdown (timeout : Option Duration)
  | endFollows

def runDue : Due → Client Unit
  | .sendHeartbit conn => sendHeartbitNow conn
  | .requireHeartbitSoon conn => requireHeartbitSoon conn
  | .requireHeartbitNow conn => requireHeartbitNow conn
  | .readToTheEnd conn => readToTheEndBound conn
  | .connectDeadline conn => connectDeadline conn
  | .reconnect number => reconnectAfterTimeout number
  | .outboxExpiry => expire
  | .connectWait id => connectWaitExpired id
  | .flushWait id => flushWaitExpired id
  | .sendsExpire => sendsExpire
  | .drain => drainExpired
  | .batches => batchTimerFired
  | .confirmations => confirmTimerFired

/-- Runs the timer due now with the earliest deadline, if any. -/
def runOneTimer : Client Unit := do
  let core ← get
  let (fired, timers) := core.timers.takeDue core.now
  modify fun core => { core with timers }
  match fired with
  | .nothing => pure ()
  | .query query generation => queryDeadline query generation
  | .other due => runDue due

def runPosted : Posted → Client Unit
  | .connectFailed conn => connected conn false
  | .processCallbacks => do
    modifyOutbox fun outbox => { outbox with callbacksPosted := false }
    processCallbacks
  | .fill => fill
  | .followHandover query generation request => followedHandover query generation request
  | .writeOutStep => writeOutStep
  | .plain plain deadline => placePlain plain deadline
  | .sendConfirmations => sendConfirmationsPosted

def runOnePosted : Client Unit := do
  let core ← get
  match core.posted with
  | [] => pure ()
  | posted :: rest => do
    modify fun core => { core with posted := rest }
    runPosted posted

/-- A synchronous send, whose caller keeps the trackers of what it sent when it waits
for them. -/
def syncSend (frame : Frame) (all : Bool) (lane : Option LaneId) (timeout : Option Duration)
    (keep : Bool) (done : Option CallbackId) (mayBatch : Bool) : Client Unit := do
  let sent ← send frame all lane timeout 0 keep (done.map ProgramDone.callback) mayBatch
  when keep do modify fun core => { core with kept := core.kept ++ sent.trackers }

/-- A receive: the acknowledged changes' callbacks, then the oldest message queued, or,
with none, what the receive of the last one acknowledged. -/
def receive : Client Unit := do
  runAcknowledgedCallbacks
  match ← nextIncomingMessage with
  | some _ => pure ()
  | none => acknowledgedByReceive

def handle : Event → Client Unit
  | .resolved conn candidates => onResolved conn candidates
  | .connected conn up => connected conn up
  | .openFailed conn => openFailed conn
  | .frameStarted conn => onFrameStarted conn
  | .frame conn body => onFrame conn body
  | .readDrained conn => onReadDrained conn
  | .readEnd conn => onReadEnd conn
  | .writeDone conn written failed => onWriteDone conn written failed
  | .timer => runOneTimer
  | .posted => runOnePosted
  | .connect target => do
    let _ ← asyncConnect target
    pure ()
  | .startConnect target timeout done => startConnect target timeout done
  | .disconnect target => disconnect target
  | .newLane pinned => do
    let _ ← newLane pinned
    pure ()
  | .laneThrough connection pinned => do
    let _ ← seededLane connection pinned
    pure ()
  | .send frame all lane timeout keep done mayBatch =>
    syncSend frame all lane timeout keep done mayBatch
  | .placeSend frame all lane deadline wait settled =>
    placeSend frame all lane deadline wait settled
  | .sendPlain plain timeout => do
    let _ ← sendPlain plain timeout 0
    pure ()
  | .postPlain plain deadline => post (.plain plain deadline)
  | .dropHeld tracker => dropHeld tracker
  | .letGo tracker => modify fun core => { core with kept := core.kept.erase tracker }
  | .setDelivery type key delivery => setDelivery type key delivery
  | .clearDelivery type key => clearDelivery type key
  | .flush => do
    let _ ← beginFlush none
    pure ()
  | .flushAll timeout done => beginFlushAll timeout done
  | .forgetFlush flush => endFlush flush
  | .query prototype timeout lane done received => do
    let _ ← startQuery prototype timeout lane done received
    pure ()
  | .stopQuery query => finish query .notConnected false
  | .receive => receive
  | .confirm sender number outcome => confirm sender number outcome
  | .confirmHanded handed => confirmHanded handed
  | .sendConfirmations => sendConfirmations
  | .refuseArrivals => refuseArrivals
  | .refuseUnread => refuseUnread
  | .inbox => registerInbox
  | .subscribe type => registerSubscription type
  | .setRouting routing acknowledged => setRouting routing acknowledged
  | .setKeyFilters filters acknowledged => setKeyFilters filters acknowledged
  | .setDropObserver on => modifyClient fun client => { client with dropObserver := on }
  | .drawId => do
    let _ ← random64
    pure ()
  | .shutdownClient => shutdownClient
  | .beginShutdown timeout => beginShutdown timeout
  | .endFollows => do
    endFollows
    modify fun core => { core with loopEnded := true }

/-- One event at the time the driver read: what the core asked of the driver before was
done. -/
def step (now : Instant) (event : Event) (core : Core) : Core :=
  (handle event).after { core with now, actions := [] }

end Multiplexer
