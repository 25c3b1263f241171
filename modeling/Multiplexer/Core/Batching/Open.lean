import Multiplexer.Core.Batching.Frames

/-! The batches open, one a type and key, and when each goes. -/

set_option autoImplicit false

namespace Multiplexer

open Program

/-- What goes by a delivery: a frame a send made, or a plain send's bytes. -/
inductive Joining where
  | frame (frame : Frame)
  | plain (plain : Plain)

namespace Joining

def type : Joining → Nat
  | .frame sent => sent.type
  | .plain sent => sent.type

def key : Joining → Option String
  | .frame ⟨_, _, _, .event key⟩ => key
  | .frame _ => none
  | .plain sent => sent.key

def bytes : Joining → Nat
  | .frame sent => sent.bytes.length - HEADER_LENGTH
  | .plain sent => sent.body.length

def body : Joining → Body Message
  | .frame sent => ⟨sent.bytes.length - HEADER_LENGTH, some sent.bytes.message⟩
  | .plain sent => sent.body

def id : Joining → Nat
  | .frame sent => sent.id
  | .plain sent => sent.id

def alone : Joining → Frame
  | .frame sent => sent
  | .plain sent => ⟨aloneFrame sent.body, sent.id, sent.type, .none⟩

end Joining

def Batch.atOnce (type : Nat) (key : Option String) (delivery : Delivery) (records : List Record)
    (bytes : Nat) (backoff : Duration) (deadline : Option Instant) : Batch :=
  { type, key, delivery, records, bytes, deadline, waitsForIdle := false, due := none, backoff }

/-! ## What is open -/

def Batcher.find (batcher : Batcher) (type : Nat) (key : Option String) : Option Nat :=
  match key with
  | none => batcher.unkeyed type
  | some key => batcher.keyed type key

/-- The batcher once the open batch of a group is `began`, or none is. -/
def Batcher.setGroup (batcher : Batcher) (type : Nat) (key : Option String) (began : Option Nat) :
    Batcher :=
  match key with
  | none => { batcher with unkeyed := Function.update batcher.unkeyed type began }
  | some key =>
    { batcher with
      keyed := Function.update batcher.keyed type
        (Function.update (batcher.keyed type) key began) }

/-- The delivery that applies to a plain event of `type` and `key`: the setting for
its key, else for its type. -/
def Core.deliveryOf (core : Core) (type : Nat) (key : Option String) : Option Delivery :=
  (key.bind (core.batcher.byKey type)).or (core.batcher.byType type)

def Core.deliveryFor (core : Core) (frame : Frame) : Option Delivery :=
  match frame.batch with
  | .event key => core.deliveryOf frame.type key
  | _ => none

/-- A connection with nothing queued, written or waiting for room, or none live at
all. -/
def Core.idleOrNone (core : Core) : Bool :=
  let live := core.byPeerId.values.filter core.connLiving
  live.isEmpty || live.any fun conn =>
    core.conns[conn]?.any Conn.outgoingQueueEmpty && !core.outbox.waitsFor conn

/-- Every live connection says when it has nothing left to write. -/
def waitForIdle : Client Unit := do
  let core ← get
  forEach (core.byPeerId.values.filter core.connLiving) fun conn => do
    match ← getConn conn with
    | none => pure ()
    | some state => putConn conn { state with notifyWhenIdle := true }

/-- The timer runs to the earliest time to go by among the batches open. -/
def armBatchTimer : Client Unit := do
  let core ← get
  match core.batcher.byDue.head? with
  | none => pure ()
  | some (earliest, _) =>
    if core.batcher.armed.any (· ≤ earliest) then pure ()
    else do
      let key ← rearmTimer core.batcher.timer earliest .batches
      modifyBatcher fun batcher => { batcher with timer := some key, armed := some earliest }

def stopBatchTimer : Client Unit := do
  let core ← get
  cancelTimer core.batcher.timer
  modifyBatcher fun batcher => { batcher with timer := none, armed := none }

def dueAt (began : Nat) (due : Instant) : Client Unit := do
  let core ← get
  match core.batcher.opened[began]? with
  | none => pure ()
  | some batch => do
    modifyBatcher fun batcher =>
      { batcher with
        opened := batcher.opened.insert began { batch with due := some due }
        byDue := insertDue (due, began) (batch.due.elim batcher.byDue fun before =>
          batcher.byDue.erase (before, began)) }
    when (core.batcher.armed.all (due < ·)) armBatchTimer

/-! ## Going -/

/-- The batch that began `began` goes, on `idle` when given. -/
def closeBatch (began : Nat) (idle : Option ConnId) : Client Unit := do
  let core ← get
  match core.batcher.opened[began]? with
  | none => pure ()
  | some batch => do
    modifyBatcher fun batcher =>
      { ({ batcher with opened := batcher.opened.erase began }).setGroup batch.type batch.key none with
        waitingForIdle :=
          if batch.waitsForIdle then batcher.waitingForIdle.erase began
          else batcher.waitingForIdle }
    ifSome batch.due fun due => do
      modifyBatcher fun batcher => { batcher with byDue := batcher.byDue.erase (due, began) }
      let core ← get
      when core.batcher.byDue.isEmpty stopBatchTimer
    sendBatch batch idle

def closeBatches : Client Unit := do
  let core ← get
  forEach core.batcher.opened.keys fun began => closeBatch began none

/-- A batch goes on its own account, and with it every batch that waits for a
connection with nothing left to write, in the order they began. -/
def closeOnItsOwn (began : Nat) : Client Unit := do
  let core ← get
  let waiting := core.batcher.waitingForIdle
  forEach (if began ∈ waiting then waiting else waiting.orderedInsert (· ≤ ·) began) fun each =>
    closeBatch each none

/-- The batches that wait for a connection with nothing left to write go, on `idle`
when given. -/
def closeIdleBatches (idle : Option ConnId) : Client Unit := do
  let core ← get
  forEach core.batcher.waitingForIdle fun began => closeBatch began idle

/-- A connection that was asked to says it has nothing left to write. -/
def outgoingQueueIdle (conn : ConnId) : Client Unit := closeIdleBatches (some conn)

/-- What a dead connection handed over was placed. -/
def closeIdleBatchesIfIdle : Client Unit := do
  let core ← get
  when (!core.batcher.waitingForIdle.isEmpty && core.idleOrNone) (closeIdleBatches none)

def batchTimerFired : Client Unit := do
  modifyBatcher fun batcher => { batcher with timer := none, armed := none }
  let core ← get
  forEach ((core.batcher.byDue.takeWhile (·.1 ≤ core.now)).map Prod.snd) closeOnItsOwn
  armBatchTimer

/-- The client shuts down: every batch goes first, and the timer stops. -/
def stopBatching : Client Unit := do
  closeBatches
  stopBatchTimer

/-! ## Joining -/

def openBatch (type : Nat) (key : Option String) (delivery : Delivery) : Client Nat := do
  let core ← get
  let began := core.batcher.began + 1
  let deadline := deadlineAfter core.now delivery.timeout
  let waitsForIdle := delivery.maxDelay = 0
  let batch : Batch :=
    { type, key, delivery, records := [], bytes := 0, deadline, waitsForIdle, due := none
      backoff := 0 }
  modifyBatcher fun batcher =>
    { batcher.setGroup type key (some began) with
      began, opened := batcher.opened.insert began batch }
  if waitsForIdle then do
    modifyBatcher fun batcher =>
      { batcher with waitingForIdle := batcher.waitingForIdle.orderedInsert (· ≤ ·) began }
    ifSome deadline (dueAt began)
    waitForIdle
  else dueAt began (core.now + delivery.maxDelay)
  pure began

def recordOf (joining : Joining) (confirm keep : Bool) (done : Option ProgramDone) : Client Record := do
  let tracker ← if keep then do
      let tracker ← newRecord
      pure (some tracker)
    else pure none
  if confirm then do
    modifyConfirmer fun confirmer => { confirmer with tickets := confirmer.tickets + 1 }
    let core ← get
    noteConfirm (.sent core.confirmer.tickets joining.id)
    pure ⟨joining.body, joining.id, done, tracker, 0, core.confirmer.tickets⟩
  else pure ⟨joining.body, joining.id, done, tracker, 0, 0⟩

/-- A message alone, at once, after every batch: a confirmed one as a batch of one,
which numbers it. -/
def goAlone (joining : Joining) (delivery : Delivery) (keep : Bool) (done : Option ProgramDone) :
    Client Sent := do
  closeBatches
  let core ← get
  let deadline := deadlineAfter core.now delivery.timeout
  if delivery.confirm then do
    let record ← recordOf joining true keep done
    sendBatch (.atOnce joining.type joining.key delivery [record] joining.bytes 0 deadline) none
    pure { accepted := true }
  else sendAt joining.alone false none deadline 0 (done.map SendDone.program)

/-- Whether the open batch `began` has no room for `bytes` more by `delivery`. -/
def Batcher.tooFull (batcher : Batcher) (began bytes : Nat) (delivery : Delivery) : Bool :=
  batcher.opened[began]?.any fun batch =>
    batch.records.length ≥ delivery.maxRecords || batch.bytes + bytes > delivery.maxBytes

/-- A message joins the open batch `began`, which goes when it is full with it. -/
def join (began : Nat) (joining : Joining) (delivery : Delivery) (keep : Bool)
    (done : Option ProgramDone) : Client Sent := do
  let record ← recordOf joining delivery.confirm keep done
  modifyBatcher fun batcher =>
    { batcher with
      opened := batcher.opened.modify began fun batch =>
        { batch with bytes := batch.bytes + joining.bytes, records := batch.records ++ [record] } }
  let core ← get
  when (core.batcher.opened[began]?.any fun batch =>
      batch.records.length ≥ delivery.maxRecords || batch.bytes ≥ delivery.maxBytes)
    (closeOnItsOwn began)
  pure { accepted := true }

def batch (joining : Joining) (delivery : Delivery) (keep : Bool) (done : Option ProgramDone) :
    Client Sent := do
  let core ← get
  let found := if delivery.batch then core.batcher.find joining.type joining.key else none
  match found.filter fun began => !core.batcher.tooFull began joining.bytes delivery with
  | some began => join began joining delivery keep done
  | none => do
    ifSome found closeOnItsOwn
    let core ← get
    if !delivery.batch || joining.bytes ≥ delivery.maxBytes ||
        (delivery.maxDelay = 0 && core.idleOrNone) then goAlone joining delivery keep done
    else do
      let began ← openBatch joining.type joining.key delivery
      join began joining delivery keep done

end Multiplexer
