import Multiplexer.Core.Confirming.Again

/-! The ways into the outbox: the one every client sends by, those a query places its
frames by, and a flush of all. -/

set_option autoImplicit false

namespace Multiplexer

open Program

/-! ## A query's frames -/

/-- On one connection: the one a lane's dead connection handed its messages to, else round robin. -/
def scheduleOne (frame : Frame) (pinned : Bool) (timeout : Option Duration) (number : Nat)
    (lane : Option LaneId) : Client (Option (TrackerId × Wrapper)) := do
  closeBatches -- nothing overtakes a message sent before it
  let core ← get
  let handed := (lane.bind fun lane => (core.lanes lane).connection).bind core.handedTo
  let chosen ← match handed with
    | some conn => pure (some conn)
    | none => chooseConnection
  match chosen with
  | none => pure none
  | some conn => do
    let number ← numberOrNext number
    let frame := outFrame frame pinned false number (deadlineAfter core.now timeout) lane
    match ← placeOn conn frame none false lane with
    | none => pure none
    | some tracker => do
      note (.taken frame [tracker])
      pure (some (tracker, core.wrap conn))

/-- On `wrapper`'s connection and never another, waiting there when it is full. -/
def scheduleOn (frame : Frame) (pinned : Bool) (wrapper : Wrapper) (timeout : Option Duration)
    (number : Nat) (lane through : Option LaneId) : Client (Option TrackerId) := do
  let core ← get
  match wrapper.conn.filter core.connLiving with
  | none => pure none
  | some conn =>
    if core.client.shutsDown then pure none
    else do
      closeBatches
      let number ← numberOrNext number
      let frame := outFrame frame pinned false number (deadlineAfter core.now timeout) through
      match ← placeOn conn frame none false lane with
      | none => pure none
      | some tracker => do
        note (.taken frame [tracker])
        pure (some tracker)

/-- A copy on each live one of `conns`: the copies' trackers and connections. -/
def scheduleOnEach (frame : OutFrame) : List ConnId → Client (List (TrackerId × Wrapper))
  | [] => pure []
  | conn :: rest => do
    match ← placeOn conn frame none true none with
    | none => scheduleOnEach frame rest
    | some tracker => do
      let core ← get
      let others ← scheduleOnEach frame rest
      pure ((tracker, core.wrap conn) :: others)

def scheduleAll (frame : Frame) (timeout : Option Duration) (number : Nat) :
    Client (List (TrackerId × Wrapper)) := do
  let core ← get
  if core.client.shutsDown then pure []
  else do
    closeBatches
    let number ← numberOrNext number
    let core ← get
    let frame := outFrame frame false true number (deadlineAfter core.now timeout) none
    let copies ← scheduleOnEach frame core.byPeerId.values
    when (!copies.isEmpty) (note (.taken frame (copies.map Prod.fst)))
    pure copies

/-! ## The program's sends -/

def send (frame : Frame) (all : Bool) (lane : Option LaneId) (timeout : Option Duration)
    (number : Nat) (keep : Bool) (done : Option ProgramDone) (mayBatch : Bool) : Client Sent := do
  let core ← get
  let delivery := if mayBatch && !all && lane.isNone then core.deliveryFor frame else none
  if core.client.shutsDown then pure {}
  else match delivery.filter fun delivery => delivery.batch || delivery.confirm with
    | some delivery => batch (.frame frame) delivery keep done
    | none => do
      closeBatches
      -- a delivery that sends it as it is goes by its own timeout
      let timeout := delivery.elim timeout Delivery.timeout
      sendAt frame all lane (deadlineAfter core.now timeout) number (done.map SendDone.program)

def sendPlain (plain : Plain) (timeout : Option Duration) (number : Nat) : Client Bool := do
  let core ← get
  let delivery := core.deliveryOf plain.type plain.key
  if core.client.shutsDown then pure false
  else match delivery.filter fun delivery => delivery.batch || delivery.confirm with
    | some delivery => do
      let sent ← batch (.plain plain) delivery false none
      pure sent.accepted
    | none => do
      closeBatches
      let timeout := delivery.elim timeout Delivery.timeout
      let sent ← sendAt (Joining.plain plain).alone false none (deadlineAfter core.now timeout)
        number none
      pure sent.accepted

def reportFrame (id type number : Nat) : OutFrame :=
  { bytes := ⟨0, {}⟩, id, type, pinned := false, forAll := false, own := false, number
    deadline := none, batch := none, confirmed := false }

def placePlain (plain : Plain) (deadline : Option Instant) : Client Unit := do
  let number ← nextNumber
  let core ← get
  if core.threaded.tornDown then 
    reportDrop none (reportFrame plain.id plain.type number) .shutDown
  else do
    let accepted ← sendPlain plain (deadline.map (· - core.now)) number
    when (!accepted) (reportDrop none (reportFrame plain.id plain.type number) .connectionLost)

/-! ## Deliveries -/

/-- `check_delivery`: whether a delivery may be set for `type` and `key`. -/
def checkDelivery (type : Nat) (key : Option String) (delivery : Delivery) : Bool :=
  !(type ≤ types.MAX_MULTIPLEXER_META_PACKET ||
    key.any (fun key => key.utf8ByteSize > MAX_KEY_SIZE) ||
    delivery.maxRecords < 1 || delivery.maxRecords > MAX_BATCH_RECORDS ||
    delivery.maxBytes < 1 || delivery.maxBytes > MAX_MESSAGE_SIZE ||
    delivery.maxDelay > MAX_TIMEOUT ||
    (delivery.confirm && (delivery.retryAfter = 0 || delivery.retryAfter > MAX_TIMEOUT)) ||
    delivery.timeout.any fun timeout => timeout ≤ if delivery.batch then delivery.maxDelay else 0)

/-- For every key of `type`, or for `key` ahead of its type's. -/
def setDelivery (type : Nat) (key : Option String) (delivery : Delivery) : Client Unit := do
  when (checkDelivery type key delivery) do
    closeBatches
    modifyBatcher fun batcher =>
      match key with
      | none => { batcher with byType := Function.update batcher.byType type (some delivery) }
      | some key =>
        { batcher with
          byKey := Function.update batcher.byKey type
            (Function.update (batcher.byKey type) key (some delivery)) }

/-- What was set for `type`, its keys' included, or for `key`, is set no more. -/
def clearDelivery (type : Nat) (key : Option String) : Client Unit := do
  closeBatches
  modifyBatcher fun batcher =>
    match key with
    | none =>
      { batcher with
        byType := Function.update batcher.byType type none
        byKey := Function.update batcher.byKey type fun _ => none }
    | some key =>
      { batcher with
        byKey := Function.update batcher.byKey type
          (Function.update (batcher.byKey type) key none) }

/-! ## A flush of all -/

/-- The last frame queued on each registered connection that is live, but its own. -/
def Core.lastMarks (core : Core) : List (ConnId × TrackerId) :=
  (core.byPeerId.values.filter core.connLiving).filterMap fun conn =>
    (core.conns[conn]?.bind Conn.lastQueued).map fun entry => (conn, entry.tracker)

/-- `flush_all()`: waits for the messages numbered up to the last one now, those still
waiting and the last of them queued on each connection, and for the confirmed sends
numbered before it to be resolved. -/
def beginFlush (done : Option FlushDone) : Client FlushId := do
  -- what waits in a batch goes now, and the flush waits for it; so do the
  -- confirmations this client owes
  let before ← gets fun core => core.client.dropped
  closeBatches
  sendConfirmations
  let core ← get
  let lost := core.client.dropped ≠ before
  -- what ended before the flush began is heard before it ends
  when (!core.outbox.followEvents.isEmpty || !core.outbox.dropEvents.isEmpty ||
    !core.confirmer.ends.isEmpty) processCallbacks
  let core ← get
  let id := core.outbox.nextFlush + 1
  let flush : Flush :=
    { lastNumber := core.outbox.lastNumber, waiting := core.outbox.waiting
      marks := core.lastMarks, done, flushed := false, lost
      confirmMark := core.confirmer.lastNumber }
  modifyOutbox fun outbox =>
    { outbox with
      nextFlush := id
      flushStates := outbox.flushStates.insert id flush
      flushes := outbox.flushes ++ [id] }
  note (.flushBegan id flush.lastNumber flush.confirmMark)
  checkFlushes
  pure id

end Multiplexer
