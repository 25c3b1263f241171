import Multiplexer.Core.Outbox.Flush

/-! How a confirmed message ends: resolved once, its run and its batch forgotten
with the last of them, and the timer that runs to the earliest batch due. -/

set_option autoImplicit false

namespace Multiplexer

open Program

namespace Confirming

def count (confirming : Confirming) : Nat := confirming.ids.length

def number (confirming : Confirming) (index : Nat) : Nat :=
  if confirming.numbers.isEmpty then confirming.firstNumber + index
  else confirming.numbers.getD index 0

def idOf (confirming : Confirming) (index : Nat) : Nat := confirming.ids.getD index 0

def ticketOf (confirming : Confirming) (index : Nat) : Nat := confirming.tickets.getD index 0

def isResolved (confirming : Confirming) (index : Nat) : Bool :=
  confirming.resolved.getD index true

def endOf (confirming : Confirming) (index : Nat) : Option ProgramDone × Option RecordId :=
  match confirming.followed.find? (·.index = index) with
  | some followed => (followed.done, followed.tracker)
  | none => (none, none)

def takeEnd (confirming : Confirming) (index : Nat) : Confirming :=
  { confirming with
    followed := confirming.followed.map fun followed =>
      if followed.index = index then { followed with done := none, tracker := none }
      else followed }

end Confirming

def earliest (first second : Option Instant) : Option Instant :=
  match first, second with
  | some first, some second => some (min first second)
  | first, second => first.or second

def insertDue (due : Instant × Nat) (agenda : List (Instant × Nat)) : List (Instant × Nat) :=
  if due ∈ agenda then agenda else agenda.orderedInsert dueBefore due

/-! ## The timer -/

def stopConfirmTimer : Client Unit := do
  let core ← get
  cancelTimer core.confirmer.timer
  modifyConfirmer fun confirmer => { confirmer with timer := none, armed := none }

def armConfirmTimer : Client Unit := do
  let core ← get
  if core.confirmer.firing then pure ()
  else match core.confirmer.byDue.head? with
    | none => stopConfirmTimer
    | some (earliest, _) =>
      if core.confirmer.armed.any (· ≤ earliest) then pure ()
      else do
        let key ← rearmTimer core.confirmer.timer earliest .confirmations
        modifyConfirmer fun confirmer =>
          { confirmer with timer := some key, armed := some earliest }

/-- When a batch is due: its retry time, once written, or its deadline. -/
def Confirming.nextDue (confirming : Confirming) : Option Instant :=
  earliest (if confirming.written then confirming.retryAt else none) confirming.deadline

def confirmingDue (batch : Nat) : Client Unit := do
  let core ← get
  match core.confirmer.byId[batch]? with
  | none => pure ()
  | some confirming =>
    let due := confirming.nextDue
    if due = confirming.due then pure ()
    else do
      modifyConfirmer fun confirmer =>
        { confirmer with
          byId := confirmer.byId.insert batch { confirming with due }
          byDue := confirming.due.elim confirmer.byDue fun before =>
            confirmer.byDue.erase (before, batch) }
      match due with
      | some due => do
        modifyConfirmer fun confirmer =>
          { confirmer with byDue := insertDue (due, batch) confirmer.byDue }
        when (core.confirmer.armed.all (due < ·)) armConfirmTimer
      | none => do
        let core ← get
        when core.confirmer.byDue.isEmpty stopConfirmTimer

/-! ## Resolving -/

/-- One message of a confirmed batch given up on: told and counted as a drop is. -/
def reportRecordDrop (ticket id : Nat) (reason : DropReason) : Client Unit := do
  noteConfirm (.recordDropped ticket id reason)
  modifyClient fun client => { client with dropped := client.dropped + 1 }
  let core ← get
  when core.client.dropObserver do
    modifyOutbox fun outbox => { outbox with dropEvents := outbox.dropEvents ++ [(id, reason)] }
    postCallbacks

def confirmedEnd (ticket id number : Nat) (tracker : Option RecordId) (done : Option ProgramDone)
    (processed : Bool) (reason : DropReason) (report : Bool) : Client Unit := do
  when (!processed) do
    flushesLostConfirmed number
    when report (reportRecordDrop ticket id reason)
  ifSome tracker fun tracker => endRecord tracker processed
  ifSome done fun done =>
    modifyConfirmer fun confirmer =>
      { confirmer with ends := confirmer.ends ++ [(done, if processed then 1 else 0)] }
  let core ← get
  when (!core.confirmer.ends.isEmpty || core.flushing) postCallbacks

/-- Message `index` of `confirming` resolved, unless it was. -/
def resolveIn (confirming : Confirming) (index : Nat) (processed : Bool) (reason : DropReason)
    (report : Bool) : Client (Confirming × Bool) :=
  if confirming.isResolved index then pure (confirming, false)
  else do
    let resolved : Confirming :=
      { confirming with
        resolved := confirming.resolved.set index true
        unresolved := confirming.unresolved - 1 }
    modifyConfirmer fun confirmer => { confirmer with unconfirmed := confirmer.unconfirmed - 1 }
    noteConfirm (.ended (resolved.ticketOf index) (resolved.number index) processed)
    let (done, tracker) := resolved.endOf index
    let id := if !processed && report then resolved.idOf index else 0
    confirmedEnd (resolved.ticketOf index) id (resolved.number index) tracker done processed
      reason report
    pure (resolved.takeEnd index, true)

/-- The messages at `indexes` resolved: the batch, and how many were not before. -/
def resolveEach (processed : Bool) (reason : DropReason) (report : Bool) :
    List Nat → Confirming → Client (Confirming × Nat)
  | [], confirming => pure (confirming, 0)
  | index :: rest, confirming => do
    let (confirming, newly) ← resolveIn confirming index processed reason report
    let (confirming, count) ← resolveEach processed reason report rest confirming
    pure (confirming, count + newly.toNat)

/-- The messages at `indexes` of the batch of envelope `batch` resolved, the batch
out of the map meanwhile: how many were not before. -/
def resolveInBatch (batch : Nat) (indexes : Confirming → List Nat) (processed : Bool)
    (reason : DropReason) (report : Bool) : Client Nat := do
  let core ← get
  match core.confirmer.byId[batch]? with
  | none => pure 0
  | some confirming => do
    modifyConfirmer fun confirmer => { confirmer with byId := confirmer.byId.erase batch }
    let (confirming, count) ← resolveEach processed reason report (indexes confirming) confirming
    modifyConfirmer fun confirmer => { confirmer with byId := confirmer.byId.insert batch confirming }
    pure count

def Confirming.every (confirming : Confirming) : List Nat := List.range confirming.count

def dropRuns (batch : Nat) (keys : List Nat) (runs : Std.TreeMap Nat Run) : Std.TreeMap Nat Run :=
  keys.foldl (fun runs key => if runs[key]?.any (·.batch = batch) then runs.erase key else runs) runs

/-- The batch of envelope `batch`, once nothing of it is unresolved, forgotten. -/
def forgetResolved (batch : Nat) : Client Unit := do
  let core ← get
  match core.confirmer.byId[batch]? with
  | none => pure ()
  | some confirming =>
    if confirming.unresolved ≠ 0 then pure ()
    else do
      modifyConfirmer fun confirmer =>
        { confirmer with
          byId := confirmer.byId.erase batch
          byDue := confirming.due.elim confirmer.byDue fun due => confirmer.byDue.erase (due, batch)
          runs := dropRuns batch confirming.runKeys confirmer.runs }
      let core ← get
      when core.confirmer.byDue.isEmpty stopConfirmTimer

/-- The frame of batch `batch` written: what is unresolved goes again in time. -/
def confirmingWritten (batch written : Nat) : Client Unit := do
  let core ← get
  match core.confirmer.byId[batch]? with
  | none => pure ()
  | some confirming =>
    if written = 0 then do
      let _ ← resolveInBatch batch Confirming.every false .noConnection false
      forgetResolved batch
    else do
      let retry := deadlineAfter core.now (some confirming.delivery.retryAfter)
      modifyConfirmer fun confirmer =>
        { confirmer with
          byId := confirmer.byId.insert batch
            { confirming with written := true, retryAt := earliest confirming.retryAt retry } }
      confirmingDue batch

/-- The frame of the confirmed batch of envelope `batch` was given up on: its
messages still unresolved end lost, each told once. -/
def confirmedFrameDropped (batch : Nat) (reason : DropReason) : Client Unit := do
  let _ ← resolveInBatch batch Confirming.every false reason true
  forgetResolved batch

end Multiplexer
