import Multiplexer.Core.Connection.Queue
import Multiplexer.Core.Outbox.Ends

/-! The outbox: what the connections cannot take yet, and how each message is
placed. -/

set_option autoImplicit false

namespace Multiplexer

open Program

/-! ## What waits -/

namespace Outbox

def get (outbox : Outbox) (key : WaitKey) : Option Waiting := outbox.slab.get? key

def waits (outbox : Outbox) (key : WaitKey) : Bool := (outbox.get key).any (!·.finished)

def isOver (outbox : Outbox) (key : WaitKey) : Bool := (outbox.get key).any (·.finished)

def store (outbox : Outbox) (waiting : Waiting) : Outbox :=
  { outbox with slab := outbox.slab.store waiting }

def change (outbox : Outbox) (key : WaitKey) (update : Waiting → Waiting) : Outbox :=
  { outbox with slab := outbox.slab.modify key update }

def setOver (outbox : Outbox) (key : WaitKey) : Outbox :=
  outbox.change key fun waiting => { waiting with finished := true }

/-- Frees the entry of `key`, which has left its queue, when it is over. -/
def release (outbox : Outbox) (key : WaitKey) : Outbox :=
  if outbox.isOver key then { outbox with slab := outbox.slab.release key } else outbox

def backlog (outbox : Outbox) (conn : ConnId) : Option Backlog :=
  outbox.backlogs.find? (·.conn = conn)

/-- Whether messages wait in `conn`'s backlog, its queue being full. -/
def waitsFor (outbox : Outbox) (conn : ConnId) : Bool :=
  outbox.backlogs.any fun backlog => backlog.conn = conn && backlog.live > 0

def modifyBacklog (outbox : Outbox) (conn : ConnId) (update : Backlog → Backlog) : Outbox :=
  { outbox with
    backlogs := outbox.backlogs.map fun backlog =>
      if backlog.conn = conn then update backlog else backlog }

/-- `key` put at the end of `conn`'s backlog, begun with it when there is none. -/
def pushBacklog (outbox : Outbox) (conn : ConnId) (key : WaitKey) : Outbox :=
  match outbox.backlog conn with
  | some _ => outbox.modifyBacklog conn fun backlog =>
      { backlog with waiting := backlog.waiting ++ [key], live := backlog.live + 1 }
  | none => { outbox with backlogs := outbox.backlogs ++ [⟨conn, [key], 1⟩] }

def sweep (outbox : Outbox) : List WaitKey → List WaitKey × Outbox
  | [] => ([], outbox)
  | key :: rest =>
    if outbox.waits key then
      let (left, swept) := outbox.sweep rest
      (key :: left, swept)
    else (outbox.release key).sweep rest

/-- Clears the entries of `queue` that ended there, `live` of them waiting still,
once the ended ones are as many as the live ones and 64 more, or none is live. -/
def clearOut (outbox : Outbox) (queue : List WaitKey) (live : Nat) : List WaitKey × Outbox :=
  if live ≠ 0 ∧ queue.length < 2 * live + 64 then (queue, outbox) else outbox.sweep queue

end Outbox

def nextNumber : Client Nat := do
  modifyOutbox fun outbox => { outbox with lastNumber := outbox.lastNumber + 1 }
  gets fun core => core.outbox.lastNumber

/-! ## Deadlines -/

def expiresBefore (first second : Instant × WaitKey) : Prop :=
  first.1 < second.1 ∨ first.1 = second.1 ∧
    (first.2.index < second.2.index ∨
      first.2.index = second.2.index ∧ first.2.generation ≤ second.2.generation)

instance : DecidableRel expiresBefore :=
  fun _ _ => inferInstanceAs (Decidable (_ ∨ _ ∧ (_ ∨ _ ∧ _)))

/-- The timer set to the earliest deadline of a message still waiting, or stopped
when none waits. -/
def armExpiry : Client Unit := do
  modifyOutbox fun outbox =>
    { outbox with expiring := outbox.expiring.dropWhile fun entry => !outbox.waits entry.2 }
  let core ← get
  match core.outbox.expiring.head? with
  | none => do
    cancelTimer core.outbox.timer
    modifyOutbox fun outbox => { outbox with timer := none, armed := none }
  | some (next, _) =>
    if core.outbox.armed = some next then pure ()
    else do
      let key ← rearmTimer core.outbox.timer next .outboxExpiry
      modifyOutbox fun outbox => { outbox with timer := some key, armed := some next }

/-- The heap of deadlines once it has doubled: the entries of messages that left
cleared out. -/
def Outbox.compactExpiring (outbox : Outbox) : Outbox :=
  if outbox.expiring.length ≥ max outbox.compactAt 64 then
    let left := outbox.expiring.filter fun entry => outbox.waits entry.2
    { outbox with expiring := left, compactAt := max (2 * left.length) 64 }
  else outbox

/-- A waiting message's deadline goes into the heap, the timer moving to it when it
is the earliest. -/
def expireAt (key : WaitKey) : Client Unit := do
  let core ← get
  match (core.outbox.get key).bind (·.frame.deadline) with
  | none => pure () -- no deadline: it waits until written or gone
  | some deadline => do
    modifyOutbox fun outbox =>
      let outbox := outbox.compactExpiring
      { outbox with expiring := outbox.expiring.orderedInsert expiresBefore (deadline, key) }
    when (core.outbox.armed.all (deadline < ·)) armExpiry

/-- A message held for a connection went: the last to go ends a serve loop's wait. -/
def heldLeft : Client Unit := do
  modifyOutbox fun outbox => { outbox with heldLive := outbox.heldLive - 1 }
  let core ← get
  when (core.outbox.heldLive = 0) do
    modifyClient fun client => { client with acknowledgedWake := true }

/-- A message no longer waits: counted by the outbox and by every flush. -/
def waitingLeft (number : Nat) : Client Unit := do
  modifyOutbox fun outbox => { outbox with waiting := outbox.waiting - 1 }
  waitFlushes number (-1)

def loseTracker (tracker : TrackerId) (followed : Bool) : Client Unit := do
  let core ← get
  when (core.trackers tracker = .queued) do
    setTracker tracker .lost
    when followed (trackedMessageDone tracker false)

/-- A message with no time left to wait, which no connection takes now. -/
def giveUpMessage (frame : OutFrame) (tracker : Option TrackerId) (followed : Bool)
    (reason : DropReason) : Client TrackerId := do
  let tracker ← trackerOrNew frame tracker
  reportDrop (some tracker) frame reason
  loseTracker tracker followed
  pure tracker

def stopWaiting (key : WaitKey) (waiting : Waiting) (backlogged : Bool) : Client Unit := do
  modifyOutbox fun outbox => outbox.setOver key
  when backlogged (ifSome waiting.on fun conn => modifyOutbox fun outbox =>
    outbox.modifyBacklog conn fun backlog => { backlog with live := backlog.live - 1 })
  when waiting.on.isNone heldLeft
  waitingLeft waiting.frame.number

/-- A waiting message whose time is up: dropped and reported, its tracker reading lost. -/
def dropExpired (key : WaitKey) : Client Unit := do
  let core ← get
  match core.outbox.get key with
  | none => pure ()
  | some waiting => do
    stopWaiting key waiting true
    let unregistered := waiting.on.any fun conn => core.conns[conn]?.any (!·.registered)
    reportDrop (some waiting.tracker) waiting.frame
      (if waiting.on.isNone || unregistered then .noConnection else .noRoom)
    -- the entry's own hold and this call's are not counted
    let core ← get
    loseTracker waiting.tracker (core.strongCount waiting.tracker + 1 > 2)
    match waiting.on with
    | none => modifyOutbox fun outbox =>
        let (left, swept) := outbox.clearOut outbox.held outbox.heldLive
        { swept with held := left }
    | some conn => modifyOutbox fun outbox =>
        match outbox.backlog conn with
        | none => outbox
        | some backlog =>
          let (left, swept) := outbox.clearOut backlog.waiting backlog.live
          swept.modifyBacklog conn fun backlog => { backlog with waiting := left }

/-- Drops the message held for a connection whose tracker is `tracker`, when it is
held. -/
def dropHeld (tracker : TrackerId) : Client Unit := do
  let core ← get
  ifSome (core.outbox.held.find? fun key =>
    (core.outbox.get key).any fun waiting => !waiting.finished && waiting.tracker = tracker) dropExpired

/-! ## Placing -/

def outFrame (frame : Frame) (pinned forAll : Bool) (number : Nat) (deadline : Option Instant)
    (lane : Option LaneId) : OutFrame :=
  { bytes := frame.bytes, id := frame.id, type := frame.type, pinned, forAll, own := false, number,
    deadline
    batch := match frame.batch with
      | .batch ids => some ids
      | _ => none
    confirmed := frame.batch = .confirmed
    lane }

/-- `frame` into `conn`'s backlog: counted by the outbox and by every flush. -/
def enterBacklog (conn : ConnId) (frame : OutFrame) (tracker : TrackerId) (copy : Bool)
    (lane : Option LaneId) : Client WaitKey := do
  let core ← get
  let key := core.outbox.slab.nextKey
  modifyOutbox fun outbox =>
    (outbox.store ⟨frame, tracker, some conn, copy, false, lane, false⟩).pushBacklog conn key
  note (.waits conn ⟨tracker, frame⟩)
  modifyOutbox fun outbox => { outbox with waiting := outbox.waiting + 1 }
  waitFlushes frame.number 1
  pure key

def waitOn (conn : ConnId) (frame : OutFrame) (tracker : TrackerId) (copy : Bool)
    (lane : Option LaneId) : Client Unit := do
  let key ← enterBacklog conn frame tracker copy lane
  expireAt key

/-- Into `conn`'s queue when it has room and nothing waits for it, else into its backlog. -/
def placeOn (conn : ConnId) (frame : OutFrame) (tracker : Option TrackerId) (copy : Bool)
    (lane : Option LaneId) : Client (Option TrackerId) := do
  let core ← get
  if !core.connLiving conn then pure none
  else do
    let given := tracker.isSome
    let tracker ← trackerOrNew frame tracker
    let waiting := (core.outbox.backlog conn).any (·.live > 0)
    let taken ← if waiting then pure false else takeOver conn ⟨tracker, frame⟩
    if taken then do
      queued frame.number tracker conn
      pure (some tracker)
    else if core.past frame.deadline then do
      let tracker ← giveUpMessage frame (some tracker) given .noRoom
      pure (some tracker)
    else do
      waitOn conn frame tracker copy lane
      pure (some tracker)

/-- `frame` into the held list: counted by the outbox and by every flush. -/
def enterHeld (frame : OutFrame) (tracker : TrackerId) (all : Bool) (lane : Option LaneId) :
    Client WaitKey := do
  let core ← get
  let key := core.outbox.slab.nextKey
  modifyOutbox fun outbox =>
    let stored := outbox.store ⟨frame, tracker, none, false, all, lane, false⟩
    { stored with
      held := stored.held ++ [key], heldLive := stored.heldLive + 1, waiting := stored.waiting + 1 }
  waitFlushes frame.number 1
  pure key

/-- `frame` held for a connection to come up, behind what is held already. -/
def hold (frame : OutFrame) (tracker : Option TrackerId) (all : Bool) (lane : Option LaneId) :
    Client TrackerId := do
  let tracker ← trackerOrNew frame tracker
  let key ← enterHeld frame tracker all lane
  expireAt key
  pure tracker

end Multiplexer
