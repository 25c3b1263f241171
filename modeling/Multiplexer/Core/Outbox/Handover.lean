import Multiplexer.Core.Batching.Open

/-! What waits moves on: into a queue with room again, onto a connection that came
up, or from one that died to another; and what becomes of it at its deadline and at
the shutdown. -/

set_option autoImplicit false

namespace Multiplexer

open Program

/-- A message somebody follows went to another connection: the last move wins. -/
def recordMoved (tracker : TrackerId) (conn : Wrapper) : Client Unit := do
  let core ← get
  when (core.outbox.moved.size ≥ max core.outbox.movedCompactAt 64) do
    modifyOutbox fun outbox =>
      let moved := outbox.moved.filter fun each _ => core.strongCount each > 0
      { outbox with moved, movedCompactAt := max (2 * moved.size) 64 }
  modifyOutbox fun outbox => { outbox with moved := outbox.moved.insert tracker conn }

/-- The connection the message tracked by `tracker` went to last: the one it was handed to, or
`first`. -/
def followedConnection (tracker : TrackerId) (first : Option Wrapper) : Client (Option Wrapper) := do
  let core ← get
  modifyOutbox fun outbox => { outbox with moved := outbox.moved.erase tracker }
  pure (core.outbox.moved[tracker]?.or first)

def lose (key : WaitKey) (held : Nat) : Client Unit := do
  let core ← get
  match core.outbox.get key with
  | none => pure ()
  | some waiting => do
    stopWaiting key waiting false
    reportDrop (some waiting.tracker) waiting.frame
      (if core.client.shutsDown then .shutDown else .connectionLost)
    let core ← get
    loseTracker waiting.tracker (core.strongCount waiting.tracker + 1 + held > 2)

/-! ## A connection came up -/

def popHeld : Client Unit :=
  modifyOutbox fun outbox => { outbox with held := outbox.held.tail }

/-- The entry of `key` went where it waited for: over, and freed. -/
def endWaiting (key : WaitKey) : Client Unit :=
  modifyOutbox fun outbox => (outbox.setOver key).release key

/-- The held message of `key` went to a connection: over, and counted out. -/
def leaveHeld (key : WaitKey) (number : Nat) : Client Unit := do
  endWaiting key
  heldLeft
  waitingLeft number

def placeHeldLoop : Nat → Client Unit
  | 0 => pure ()
  | steps + 1 => do
    let core ← get
    match core.outbox.held.head? with
    | none => pure ()
    | some key =>
      match core.outbox.get key with
      | none => do
        popHeld
        placeHeldLoop steps
      | some waiting =>
        if waiting.finished then do
          popHeld
          modifyOutbox fun outbox => outbox.release key
          placeHeldLoop steps
        else do
          let placed ← placeNow waiting.frame waiting.all waiting.lane (some waiting.tracker)
          if placed.placed then do
            popHeld
            -- somebody besides this entry follows it: where it went
            let core ← get
            when (!waiting.all && core.strongCount waiting.tracker + 1 > 2)
              (ifSome placed.used (recordMoved waiting.tracker))
            leaveHeld key waiting.frame.number
            modifyOutbox fun outbox => { outbox with retries := outbox.retries + 1 }
            placeHeldLoop steps
          else if placed.refused then do
            -- its pinned lane's connection is gone
            popHeld
            lose key 1
            modifyOutbox fun outbox => outbox.release key
            placeHeldLoop steps
          else pure () -- nothing live after all

/-- A connection came up: what was held for one is placed, in order, each with its
own tracker and deadline, until nothing live takes it. -/
def placeHeld : Client Unit := do
  let core ← get
  placeHeldLoop core.outbox.held.length
  checkFlushes

/-! ## A queue has room -/

/-- Takes `conn`'s backlog out, freeing the entries it holds that are over. -/
def removeBacklog (conn : ConnId) : Client Unit := do
  let core ← get
  match core.outbox.backlog conn with
  | none => pure ()
  | some backlog => do
    modifyOutbox fun outbox =>
      { outbox with backlogs := outbox.backlogs.eraseP (·.conn = conn) }
    forEach backlog.waiting fun key => modifyOutbox fun outbox => outbox.release key

/-- The message of `key` moves from `conn`'s backlog into its queue. -/
def moveIn (conn : ConnId) (key : WaitKey) (waiting : Waiting) : Client Unit := do
  endWaiting key
  modifyOutbox fun outbox =>
    outbox.modifyBacklog conn fun backlog => { backlog with live := backlog.live - 1 }
  modifyOutbox fun outbox =>
    { outbox with waiting := outbox.waiting - 1, retries := outbox.retries + 1 }
  let _ ← takeOver conn ⟨waiting.tracker, waiting.frame⟩
  waitFlushes waiting.frame.number (-1)
  queued waiting.frame.number waiting.tracker conn

/-- The first of `conn`'s backlog, popped, moves into its queue, unless it is over
or its time is up and the timer has yet to run. -/
def refill (conn : ConnId) (key : WaitKey) : Client Unit := do
  let core ← get
  match core.outbox.get key with
  | none => pure ()
  | some waiting =>
    if waiting.finished then modifyOutbox fun outbox => outbox.release key
    else if core.past waiting.frame.deadline then do
      dropExpired key
      modifyOutbox fun outbox => outbox.release key
    else moveIn conn key waiting

def refillLoop (conn : ConnId) : Nat → Client Unit
  | 0 => pure ()
  | steps + 1 => do
    let core ← get
    match core.outbox.backlog conn with
    | none => pure ()
    | some backlog =>
      if backlog.live = 0 || core.conns[conn]?.all Conn.outgoingQueueFull then pure ()
      else match backlog.waiting with
        | [] => pure ()
        | key :: rest => do
          modifyOutbox fun outbox =>
            outbox.modifyBacklog conn fun backlog => { backlog with waiting := rest }
          refill conn key
          refillLoop conn steps

def outgoingQueueHasRoom (conn : ConnId) : Client Unit := do
  let core ← get
  refillLoop conn ((core.outbox.backlog conn).elim 0 (·.waiting.length))
  let core ← get
  when ((core.outbox.backlog conn).any (·.live = 0)) (removeBacklog conn)
  checkFlushes

/-! ## Deadlines -/

def expireLoop : Nat → Client Unit
  | 0 => pure ()
  | steps + 1 => do
    let core ← get
    match core.outbox.expiring with
    | [] => pure ()
    | (deadline, key) :: rest =>
      if deadline > core.now then pure ()
      else do
        modifyOutbox fun outbox => { outbox with expiring := rest }
        when (core.outbox.waits key) (dropExpired key)
        expireLoop steps

/-- The timer: what waited past its deadline is dropped, its tracker reading lost,
and reported. -/
def expire : Client Unit := do
  modifyOutbox fun outbox => { outbox with timer := none, armed := none }
  let core ← get
  expireLoop core.outbox.expiring.length
  let core ← get
  forEach ((core.outbox.backlogs.filter (·.live = 0)).map Backlog.conn) removeBacklog
  armExpiry
  checkFlushes

/-! ## A connection died -/

/-- Whether the send to all whose copies share `frame` is held whole already. -/
def Core.heldWhole (core : Core) (frame : OutFrame) : Bool :=
  core.outbox.held.any fun key => (core.outbox.get key).any fun waiting =>
    !waiting.finished && waiting.frame.number = frame.number

/-- A copy of a send to all that waits for a connection whole already goes nowhere
itself: its tracker reads lost, unreported. -/
def supersede (tracker : TrackerId) : Client Unit := do
  let core ← get
  loseTracker tracker (core.strongCount tracker + 1 > 1)

def recordHandover (handovers : List Handover) (target : Target) (dead conn : ConnId)
    (toTarget : Target) : List Handover :=
  if handovers.any (·.target = target) then
    handovers.map fun entry =>
      if entry.target = target then { entry with source := some dead, conn, toTarget } else entry
  else handovers ++ [⟨target, some dead, conn, toTarget⟩]

def successor (dead : ConnId) : Client (Option ConnId) := do
  let core ← get
  match core.conns[dead]? with
  | none => pure none
  | some state =>
    let kept := (core.outbox.handovers.find? (·.target = state.target)).filter fun entry =>
      entry.source = some dead && core.connLiving entry.conn
    match kept with
    | some entry => pure (some entry.conn)
    | none => do
      match ← chooseConnection with
      | none => pure none
      | some conn => do
        modifyOutbox fun outbox =>
          { outbox with
            handovers := recordHandover outbox.handovers state.target dead conn
              (core.wrap conn).target }
        pure (some conn)

/-- A connection died: what waited for it is put aside, to be handed over after its
queue. -/
def displace (conn : ConnId) : Client Unit := do
  let core ← get
  match core.outbox.backlog conn with
  | none => pure ()
  | some backlog => do
    modifyOutbox fun outbox =>
      { outbox with backlogs := outbox.backlogs.eraseP (·.conn = conn) }
    forEach backlog.waiting fun key => modifyOutbox fun outbox =>
      if outbox.waits key then { outbox with displaced := outbox.displaced ++ [key] }
      else outbox.release key

/-- One message a dead connection had not written, offered to `conn`, or held when
none is live: whether it is left to be reported lost. -/
def handOver (conn : Option ConnId) (entry : QueueEntry) : Client Bool := do
  let core ← get
  if entry.frame.pinned || core.client.shutsDown then pure true
  else if entry.frame.forAll then
    if conn.isSome then pure true -- the other connections have their copies
    else if core.heldWhole entry.frame then do
      supersede entry.tracker
      pure false
    else if core.past entry.frame.deadline then pure true
    else do
      let _ ← hold entry.frame (some entry.tracker) true none
      pure false
  else match conn with
    | none =>
      if core.past entry.frame.deadline then pure true
      else do
        let _ ← hold entry.frame (some entry.tracker) false none
        pure false
    | some conn => do
      modifyOutbox fun outbox => { outbox with retries := outbox.retries + 1 }
      match ← placeOn conn entry.frame (some entry.tracker) false none with
      | none => pure true
      | some placed => do
        let after ← get
        when (after.trackers placed ≠ .lost && core.strongCount entry.tracker + 1 > 1)
          (recordMoved entry.tracker (after.wrap conn))
        pure false

def handOverEach (conn : Option ConnId) : List QueueEntry → Client (List QueueEntry)
  | [] => pure []
  | entry :: rest => do
    let left ← handOver conn entry
    let others ← handOverEach conn rest
    pure (if left then entry :: others else others)

/-- A dead connection's waiting message held for the next connection, its tracker,
deadline and place in the counts kept. -/
def rehold (key : WaitKey) (all : Bool) : Client Unit :=
  modifyOutbox fun outbox =>
    let changed := outbox.change key fun waiting => { waiting with on := none, copy := false, all }
    { changed with held := changed.held ++ [key], heldLive := changed.heldLive + 1 }

/-- What waited for a dead connection goes to `conn`, placed anew, a lane it went
through adopting that one. -/
def replaceOn (conn : ConnId) (key : WaitKey) (waiting : Waiting) : Client Unit := do
  endWaiting key
  waitingLeft waiting.frame.number
  modifyOutbox fun outbox => { outbox with retries := outbox.retries + 1 }
  let core ← get
  let _ ← placeOn conn waiting.frame (some waiting.tracker) false waiting.lane
  when (core.strongCount waiting.tracker + 1 > 1)
    (recordMoved waiting.tracker (core.wrap conn))
  ifSome waiting.lane fun lane => adopt lane (core.wrap conn)

def replaceOne (conn : Option ConnId) (key : WaitKey) : Client Unit := do
  let core ← get
  match core.outbox.get key with
  | none => pure ()
  | some waiting =>
    if waiting.finished then modifyOutbox fun outbox => outbox.release key
    else if waiting.frame.pinned || core.client.shutsDown then do
      lose key 0
      modifyOutbox fun outbox => outbox.release key
    else if waiting.copy then
      if conn.isSome then do
        lose key 0
        modifyOutbox fun outbox => outbox.release key
      else if core.heldWhole waiting.frame then do
        modifyOutbox fun outbox => outbox.setOver key
        waitingLeft waiting.frame.number
        supersede waiting.tracker
        modifyOutbox fun outbox => outbox.release key
      else rehold key true
    else match conn with
      | none => rehold key false
      | some conn => replaceOn conn key waiting

/-- What waited for a dead connection goes to `conn`, the one its queue went to, or, with none live,
is held for the next. -/
def replaceDisplaced (conn : Option ConnId) : Client Unit := do
  let core ← get
  modifyOutbox fun outbox => { outbox with displaced := [] }
  forEach core.outbox.displaced (replaceOne conn)
  checkFlushes

/-- A connection that shuts down offers what it had not written, and after it what waited in its
backlog. -/
def handleOrphanedOutgoingMessages (dead : ConnId) (outgoing : List QueueEntry) :
    Client (List QueueEntry) := do
  let core ← get
  let conn ← if outgoing.isEmpty && core.outbox.displaced.isEmpty then pure none else successor dead
  let left ← handOverEach conn outgoing
  forEach left fun entry =>
    reportDrop (some entry.tracker) entry.frame
      (if core.client.shutsDown then .shutDown else .connectionLost)
  replaceDisplaced conn
  closeIdleBatchesIfIdle
  pure left

/-! ## The shutdown -/

def dropOne (key : WaitKey) : Client Unit := do
  let core ← get
  match core.outbox.get key with
  | none => pure ()
  | some waiting =>
    if waiting.finished then modifyOutbox fun outbox => outbox.release key
    else do
      modifyOutbox fun outbox => outbox.setOver key
      reportDrop (some waiting.tracker) waiting.frame .shutDown
      let core ← get
      loseTracker waiting.tracker (core.strongCount waiting.tracker + 1 > 2)
      modifyOutbox fun outbox => outbox.release key

/-- The client shuts down: nothing waits any more, every tracker reads lost, every
message reported dropped. -/
def dropOutbox : Client Unit := do
  let core ← get
  let every := core.outbox.backlogs.flatMap Backlog.waiting ++ core.outbox.displaced ++
    core.outbox.held
  modifyOutbox fun outbox => { outbox with backlogs := [], displaced := [], held := [] }
  forEach every dropOne
  let core ← get
  cancelTimer core.outbox.timer
  modifyOutbox fun outbox =>
    { outbox with heldLive := 0, waiting := 0, expiring := [], timer := none, armed := none }

end Multiplexer
