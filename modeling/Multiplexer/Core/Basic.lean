import Multiplexer.Core.State
import Mathlib.Data.List.Sort

/-! The commands every part of the core is written with: reading and replacing a
part of the state, drawing ids and trackers, timers, and who holds a tracker. -/

set_option autoImplicit false

namespace Multiplexer

open Program

/-! ## Reading -/

namespace Core

def connLiving (core : Core) (conn : ConnId) : Bool :=
  core.conns[conn]?.any Conn.living

def past (core : Core) (deadline : Option Instant) : Bool :=
  deadline.any fun deadline => deadline ≤ core.now

def live (core : Core) (wrapper : Wrapper) : Bool :=
  wrapper.conn.any core.connLiving

/-- Every strong hold on the tracker of a frame from the core's own state, a waiting entry's
included. -/
def strongCount (core : Core) (tracker : TrackerId) : Nat :=
  (core.outbox.slab.slots.countP fun slot => slot.value.any (·.tracker == tracker)) +
    (core.outbox.flushStates.values.map fun flush => flush.marks.countP (·.2 == tracker)).sum +
    (core.outbox.followStates.values.map fun follow => follow.copies.count tracker).sum +
    core.outbox.followEvents.countP (·.1 == tracker) +
    (core.queries.inFlight.values.map fun query =>
      [query.sentState, query.requestState, query.directState].count (some tracker)).sum +
    core.confirmer.byId.values.countP (·.frameState == some tracker) +
    core.kept.count tracker

end Core

/-! ## Replacing a part of the state -/

def getConn (conn : ConnId) : Client (Option Conn) := gets fun core => core.conns[conn]?

def putConn (conn : ConnId) (state : Conn) : Client Unit :=
  modify fun core => { core with conns := core.conns.insert conn state }

def modifyOutbox (change : Outbox → Outbox) : Client Unit :=
  modify fun core => { core with outbox := change core.outbox }

def modifyClient (change : ClientState → ClientState) : Client Unit :=
  modify fun core => { core with client := change core.client }

def modifyBatcher (change : Batcher → Batcher) : Client Unit :=
  modify fun core => { core with batcher := change core.batcher }

def modifyConfirmer (change : Confirmer → Confirmer) : Client Unit :=
  modify fun core => { core with confirmer := change core.confirmer }

def modifyQueries (change : Queries → Queries) : Client Unit :=
  modify fun core => { core with queries := change core.queries }

def modifyThreaded (change : Threaded → Threaded) : Client Unit :=
  modify fun core => { core with threaded := change core.threaded }

def emit (action : Action) : Client Unit :=
  modify fun core => { core with actions := core.actions ++ [action] }

def post (posted : Posted) : Client Unit :=
  modify fun core => { core with posted := core.posted ++ [posted] }

def note (taken : OutboxNote) : Client Unit :=
  modify fun core => { core with notes := taken :: core.notes }

def noteQuery (taken : QueryNote) : Client Unit :=
  modify fun core => { core with queryNotes := taken :: core.queryNotes }

def noteConfirm (taken : ConfirmNote) : Client Unit :=
  modify fun core => { core with confirmNotes := taken :: core.confirmNotes }

def noteArrival (taken : Arrival) : Client Unit :=
  modify fun core => { core with arrivals := taken :: core.arrivals }

def call (made : Call) : Client Unit :=
  modify fun core => { core with calls := made :: core.calls }

/-! ## Ids, trackers, lanes -/

def random64 : Client Nat := do
  let core ← get
  modify fun core => { core with drawn := core.drawn + 1 }
  pure (core.ids.nth core.drawn)

def newTracker (state : SendState) : Client TrackerId := do
  let core ← get
  modify fun core =>
    { core with
      trackers := Function.update core.trackers core.nextTracker state
      nextTracker := core.nextTracker + 1 }
  pure core.nextTracker

/-- The tracker given for a copy of `frame`, or a new one that reads queued. -/
def trackerOrNew (frame : OutFrame) (tracker : Option TrackerId) : Client TrackerId :=
  match tracker with
  | some tracker => pure tracker
  | none => do
    let tracker ← newTracker .queued
    note (.copied ⟨tracker, frame⟩)
    pure tracker

def setTracker (tracker : TrackerId) (state : SendState) : Client Unit :=
  modify fun core => { core with trackers := Function.update core.trackers tracker state }

def newRecord : Client RecordId := do
  let core ← get
  modify fun core =>
    { core with
      recordStates := Function.update core.recordStates core.nextRecord .queued
      nextRecord := core.nextRecord + 1 }
  pure core.nextRecord

/-- A record's tracker still queued reads how its message ended. -/
def endRecord (record : RecordId) (sent : Bool) : Client Unit :=
  modify fun core =>
    if core.recordStates record = .queued then
      { core with
        recordStates := Function.update core.recordStates record (if sent then .sent else .lost) }
    else core

def seededLane (connection : Wrapper) (pinned : Bool) : Client LaneId := do
  let core ← get
  modify fun core =>
    { core with
      lanes := Function.update core.lanes core.nextLane ⟨pinned, some connection⟩
      nextLane := core.nextLane + 1 }
  pure core.nextLane

def newLane (pinned : Bool) : Client LaneId := do
  let core ← get
  modify fun core =>
    { core with
      lanes := Function.update core.lanes core.nextLane ⟨pinned, none⟩
      nextLane := core.nextLane + 1 }
  pure core.nextLane

def adopt (lane : LaneId) (connection : Wrapper) : Client Unit :=
  modify fun core =>
    { core with lanes := Function.update core.lanes lane ((core.lanes lane).adopt connection) }

/-- The wrapper of `conn`, from what it stores. -/
def Core.wrap (core : Core) (conn : ConnId) : Wrapper :=
  ⟨some conn, (core.conns[conn]?.map Conn.target).getD ⟨.name "", 0⟩⟩

/-! ## Timers -/

def dueBefore (first second : Nat × Nat) : Prop :=
  first.1 < second.1 ∨ first.1 = second.1 ∧ first.2 ≤ second.2

instance : DecidableRel dueBefore := fun _ _ => inferInstanceAs (Decidable (_ ∨ _ ∧ _))

namespace Timers

def CANCELLED_SLACK : Nat := 64

def arm (timers : Timers) (deadline : Instant) (due : Due) : Timers :=
  { timers with
    heap := timers.heap.orderedInsert dueBefore (deadline, timers.nextKey + 1)
    armed := timers.armed.insert (timers.nextKey + 1) due
    nextKey := timers.nextKey + 1 }

def armQuery (timers : Timers) (deadline : Instant) (query : QueryId) (generation : Nat) : Timers :=
  { timers with
    heap := timers.heap.orderedInsert dueBefore (deadline, timers.nextKey + 1)
    queries := timers.queries.insert (timers.nextKey + 1) (query, generation)
    nextKey := timers.nextKey + 1 }

def isArmed (timers : Timers) (key : TimerKey) : Bool :=
  timers.armed.contains key || timers.queries.contains key

/-- The heap, rebuilt from the armed timers alone once the cancelled entries outnumber
them. -/
def compact (timers : Timers) : Timers :=
  if timers.heap.length > 2 * (timers.armed.size + timers.queries.size) + CANCELLED_SLACK then
    { timers with heap := timers.heap.filter fun entry => timers.isArmed entry.2 }
  else timers

def cancel (timers : Timers) (slot : Option TimerKey) : Timers :=
  match slot with
  | none => timers
  | some key => { timers with armed := timers.armed.erase key }.compact

def cancelQuery (timers : Timers) (slot : Option TimerKey) : Timers :=
  match slot with
  | none => timers
  | some key => { timers with queries := timers.queries.erase key }.compact

inductive Fired where
  | nothing
  | query (query : QueryId) (generation : Nat)
  | other (due : Due)

/-- The timer due at `now` with the earliest deadline, taken out, the cancelled ones on
top of the heap dropped on the way. -/
def takeDue (timers : Timers) (now : Instant) : Fired × Timers :=
  match timers.heap.dropWhile fun entry => !timers.isArmed entry.2 with
  | [] => (.nothing, { timers with heap := [] })
  | (deadline, key) :: rest =>
    if deadline > now then (.nothing, { timers with heap := (deadline, key) :: rest })
    else match timers.queries[key]? with
      | some (query, generation) =>
        (.query query generation, { timers with heap := rest, queries := timers.queries.erase key })
      | none =>
        (timers.armed[key]?.elim .nothing .other,
          { timers with heap := rest, armed := timers.armed.erase key })

end Timers

def armTimer (deadline : Instant) (due : Due) : Client TimerKey := do
  let core ← get
  modify fun core => { core with timers := core.timers.arm deadline due }
  pure (core.timers.nextKey + 1)

def cancelTimer (slot : Option TimerKey) : Client Unit :=
  modify fun core => { core with timers := core.timers.cancel slot }

/-- Arms the timer of a slot again, cancelling the wait it had. -/
def rearmTimer (slot : Option TimerKey) (deadline : Instant) (due : Due) : Client TimerKey := do
  cancelTimer slot
  armTimer deadline due

def cancelQueryTimer (slot : Option TimerKey) : Client Unit :=
  modify fun core => { core with timers := core.timers.cancelQuery slot }

def rearmQueryTimer (slot : Option TimerKey) (deadline : Instant) (query : QueryId)
    (generation : Nat) : Client TimerKey := do
  cancelQueryTimer slot
  let core ← get
  modify fun core => { core with timers := core.timers.armQuery deadline query generation }
  pure (core.timers.nextKey + 1)

end Multiplexer
