import Multiplexer.Core.Basic

/-! Flushes as they go on: what each counts and marks, and how it ends; and the
copies of a followed send as they are heard of. -/

set_option autoImplicit false

namespace Multiplexer

open Program Std

/-- The pass that runs the program's callbacks, posted once for whatever gathers
until it runs. -/
def postCallbacks : Client Unit := do
  let core ← get
  if core.outbox.callbacksPosted then pure ()
  else do
    modifyOutbox fun outbox => { outbox with callbacksPosted := true }
    post .processCallbacks

/-- A followed copy was written or given up on: noted, and handled in one pass. -/
def followEvent (tracker : TrackerId) (written : Bool) : Client Unit := do
  let core ← get
  if core.outbox.follows.contains tracker then do
    modifyOutbox fun outbox =>
      { outbox with followEvents := outbox.followEvents ++ [(tracker, written)] }
    postCallbacks
  else pure () -- a flush's mark, or a send nobody follows

/-! ## What a flush counts -/

namespace Flush

/-- A flush that waits for a message numbered `number` ends with not all written. -/
def losing (number : Nat) (flush : Flush) : Flush :=
  if number ≠ 0 ∧ number ≤ flush.lastNumber then { flush with lost := true } else flush

def losingConfirmed (number : Nat) (flush : Flush) : Flush :=
  if number ≤ flush.confirmMark then { flush with lost := true } else flush

def counting (number : Nat) (copies : Int) (flush : Flush) : Flush :=
  if number ≤ flush.lastNumber then { flush with waiting := (flush.waiting + copies).toNat }
  else flush

/-- The mark of `conn` moved to `tracker`, the last of the flush's messages there. -/
def setMark (conn : ConnId) (tracker : TrackerId) :
    List (ConnId × TrackerId) → List (ConnId × TrackerId)
  | [] => [(conn, tracker)]
  | mark :: rest =>
    if mark.1 = conn then (conn, tracker) :: rest else mark :: setMark conn tracker rest

/-- Message `number` went into `conn`'s queue: a flush that waits for it follows it. -/
def marking (number : Nat) (tracker : TrackerId) (conn : ConnId) (flush : Flush) : Flush :=
  if number > flush.lastNumber then flush
  else { flush with marks := setMark conn tracker flush.marks }

end Flush

def changeEach (flushes : List FlushId) (change : Flush → Flush)
    (states : TreeMap FlushId Flush) : TreeMap FlushId Flush :=
  flushes.foldl (fun states id => states.modify id change) states

def changeFlushes (change : Flush → Flush) : Client Unit :=
  modifyOutbox fun outbox =>
    { outbox with flushStates := changeEach outbox.flushes change outbox.flushStates }

def flushesLost (number : Nat) : Client Unit := changeFlushes (.losing number)

def flushesLostConfirmed (number : Nat) : Client Unit := changeFlushes (.losingConfirmed number)

def waitFlushes (number : Nat) (copies : Int) : Client Unit :=
  changeFlushes (.counting number copies)

def queued (number : Nat) (tracker : TrackerId) (conn : ConnId) : Client Unit :=
  changeFlushes (.marking number tracker conn)

/-! ## How a flush ends -/

/-- The first number still waiting for its confirmation, if any. -/
def Core.firstUnconfirmed (core : Core) : Option Nat := core.confirmer.runs.minKey?

def Core.flushing (core : Core) : Bool := !core.outbox.flushes.isEmpty

def endFlush (flush : FlushId) : Client Unit :=
  modifyOutbox fun outbox =>
    { outbox with
      flushes := outbox.flushes.filter (· ≠ flush)
      flushStates := outbox.flushStates.erase flush }

def endFlushWait (id : Nat) (_flushed : Bool) : Client Unit := do
  let core ← get
  match core.threaded.flushWaits.find? (·.id = id) with
  | none => pure ()
  | some wait => do
    modifyThreaded fun threaded =>
      { threaded with flushWaits := threaded.flushWaits.eraseP (·.id = id) }
    ifSome wait.flush endFlush
    cancelTimer wait.timer
    call (.callback wait.done)

/-- The flushes that wait on, those that are done, and every flush with the marks
that are out taken off. -/
def flushPass (trackers : TrackerId → SendState) (unconfirmed : Option Nat) :
    List FlushId → TreeMap FlushId Flush →
      List FlushId × List FlushId × TreeMap FlushId Flush
  | [], states => ([], [], states)
  | id :: rest, states =>
    match states[id]? with
    | none => flushPass trackers unconfirmed rest states
    | some flush =>
      let flush := { flush with marks := flush.marks.filter fun mark => trackers mark.2 = .queued }
      if flush.waiting > 0 || !flush.marks.isEmpty ||
          unconfirmed.any (· ≤ flush.confirmMark) then
        let (waiting, finished, states) := flushPass trackers unconfirmed rest
          (states.insert id flush)
        (id :: waiting, finished, states)
      else
        let (waiting, finished, states) := flushPass trackers unconfirmed rest
          (states.insert id { flush with flushed := true })
        (waiting, id :: finished, states)

def tellFlush (id : FlushId) : Client Unit := do
  let core ← get
  match core.outbox.flushStates[id]? with
  | none => pure ()
  | some flush => do
    modifyOutbox fun outbox =>
      { outbox with flushStates := outbox.flushStates.insert id { flush with done := none } }
    note (.flushEnded id (!flush.lost))
    match flush.done with
    | some (.wait wait) => endFlushWait wait (!flush.lost)
    | some .drain => post .writeOutStep
    | none => pure ()

/-- A flush is done once the messages it counts no longer wait, every frame it
marked is out, every confirmed send up to its mark is resolved, and the callbacks
of the sends that ended meanwhile have run. -/
def checkFlushes : Client Unit := do
  let core ← get
  if core.outbox.flushes.isEmpty || !core.outbox.followEvents.isEmpty ||
      !core.outbox.dropEvents.isEmpty || !core.confirmer.ends.isEmpty then pure ()
  else do
    let (waiting, finished, states) := flushPass core.trackers core.firstUnconfirmed
      core.outbox.flushes core.outbox.flushStates
    modifyOutbox fun outbox => { outbox with flushes := waiting, flushStates := states }
    forEach finished tellFlush

/-- A frame whose tracker somebody holds was written, or lost. -/
def trackedMessageDone (tracker : TrackerId) (written : Bool) : Client Unit := do
  followEvent tracker written
  checkFlushes

/-- `done` hears the end of the send whose copies are `copies`. -/
def follow (copies : List TrackerId) (done : SendDone) : Client Nat := do
  let core ← get
  let id := core.outbox.nextFollow + 1
  modifyOutbox fun outbox =>
    { outbox with
      nextFollow := id
      follows := copies.foldl (fun follows copy => follows.insert copy id) outbox.follows
      followStates := outbox.followStates.insert id ⟨some done, copies, copies.length, false⟩ }
  forEach (copies.filter fun copy => core.trackers copy = .lost) fun copy => followEvent copy false
  pure id

end Multiplexer
