import Multiplexer.Core.Confirming.Owed

/-! The producer's side of what consumers say, or do not say: numbers resolved by a
CONFIRMATION, messages sent again, and those given up on. -/

set_option autoImplicit false

namespace Multiplexer

open Program

/-- The back-off of a batch nobody took. -/
def BACKOFF_FIRST : Duration := 100
def BACKOFF_MOST : Duration := 1000

/-! ## Runs and segments -/

def lastKeyUpTo (runs : Std.TreeMap Nat Run) (number : Nat) : Option Nat :=
  (runs.keys.filter (· ≤ number)).getLast?

/-- `count` more messages of the batch's run that holds `number` resolved. -/
def resolvedInRun (batch number count : Nat) : Client Unit := do
  let core ← get
  let runs := core.confirmer.runs
  match lastKeyUpTo runs number with
  | none => pure ()
  | some key =>
    match runs[key]? with
    | none => pure ()
    | some run =>
      if run.batch ≠ batch ∨ number ≥ key + run.count then pure ()
      else
        let unresolved := run.unresolved - min count run.unresolved
        modifyConfirmer fun confirmer =>
          { confirmer with
            runs := if unresolved = 0 then confirmer.runs.erase key
              else confirmer.runs.insert key { run with unresolved } }

/-- What a list of a CONFIRMATION names that this client waits for. -/
structure Segment where
  batch : Nat
  key : Nat
  first : Nat
  past : Nat

def Segment.indexes (segment : Segment) : List Nat :=
  List.range' segment.first (segment.past - segment.first)

def Run.segment (run : Run) (key first past : Nat) : Option Segment :=
  let lower := max first key
  let upper := min past (key + run.count)
  if lower < upper then some ⟨run.batch, key, run.index + (lower - key), run.index + (upper - key)⟩
  else none

/-- The segments of the runs that a CONFIRMATION's list names. -/
def segments (runs : Std.TreeMap Nat Run) : List Nat → List Segment
  | first :: count :: rest =>
    let past := first + count
    let here :=
      if past < NUMBERS ∧ past > first then
        let start := (lastKeyUpTo runs first).getD first
        (runs.toList.filter fun (key, _) => start ≤ key && key < past).filterMap
          fun (key, run) => run.segment key first past
      else []
    here ++ segments runs rest
  | _ => []

/-! ## Sent again -/

/-- The unresolved messages `indexes` taken out of `confirming`, resolved there as
moved, without an end, each with its id, number and end. -/
def takeAgain (bodies : List (Body Message)) : List Nat → Confirming →
    Client (Confirming × List Record)
  | [], confirming => pure (confirming, [])
  | index :: rest, confirming =>
    if confirming.isResolved index then takeAgain bodies rest confirming
    else do
      modifyConfirmer fun confirmer =>
        { confirmer with unconfirmed := confirmer.unconfirmed - 1 } -- counted again in its batch
      let (done, tracker) := confirming.endOf index
      let record : Record :=
        { body := bodies.getD index ⟨0, none⟩, id := confirming.idOf index, done, tracker
          number := confirming.number index, ticket := confirming.ticketOf index }
      let left := { confirming with
        resolved := confirming.resolved.set index true, unresolved := confirming.unresolved - 1 }
      let (confirming, records) ← takeAgain bodies rest (left.takeEnd index)
      pure (confirming, record :: records)

def Confirming.bodies (confirming : Confirming) : Option (List (Body Message)) :=
  (confirming.frame.message.batch.bind BatchBytes.message).filter fun bodies =>
    bodies.length = confirming.count

/-- What would go again of a frame that does not read back, given up on. -/
def giveUpAgain (batch : Nat) : List Nat → Confirming → Client Confirming
  | [], confirming => pure confirming
  | index :: rest, confirming => do
    let (resolved, newly) ← resolveIn confirming index false .notConfirmed true
    when newly (resolvedInRun batch (confirming.number index) 1)
    giveUpAgain batch rest resolved

/-- The batch back in the map, its runs registered anew, forgotten once nothing of
it is unresolved. -/
def putBack (batch : Nat) (confirming : Confirming) : Client Unit := do
  modifyConfirmer fun confirmer => { confirmer with byId := confirmer.byId.insert batch confirming }
  rebuildRuns batch
  forgetResolved batch

/-- The unresolved messages `indexes` of the batch of envelope `batch` go again, in a batch of their
own that goes at once with the same deadline, each keeping its id, number and end. -/
def sendAgain (batch : Nat) (indexes : List Nat) : Client Unit := do
  let core ← get
  match core.confirmer.byId[batch]? with
  | none => pure ()
  | some confirming => do
    modifyConfirmer fun confirmer => { confirmer with byId := confirmer.byId.erase batch }
    if core.past confirming.deadline then do
      let (confirming, _) ← resolveEach false .notConfirmed true indexes confirming
      putBack batch confirming
    else match confirming.bodies with
      | none => do
        let confirming ← giveUpAgain batch indexes confirming
        modifyConfirmer fun confirmer =>
          { confirmer with byId := confirmer.byId.insert batch confirming }
        forgetResolved batch
      | some bodies => do
        let (confirming, records) ← takeAgain bodies indexes confirming
        putBack batch confirming
        if records.isEmpty then pure ()
        else do
          modifyConfirmer fun confirmer =>
            { confirmer with sentAgain := confirmer.sentAgain + records.length }
          sendBatch (.atOnce confirming.type confirming.key confirming.delivery records
            (records.map (·.body.length)).sum confirming.backoff confirming.deadline) none

/-- What is unresolved of the batch of envelope `batch` goes again. -/
def sendUnresolvedAgain (batch : Nat) : Client Unit := do
  let core ← get
  match core.confirmer.byId[batch]? with
  | none => pure ()
  | some confirming =>
    sendAgain batch (confirming.every.filter fun index => !confirming.isResolved index)

def confirmDue (batch : Nat) : Client Unit := do
  let core ← get
  when (core.confirmer.byId[batch]?.any fun confirming => core.past confirming.deadline) do
    let _ ← resolveInBatch batch Confirming.every false .notConfirmed true
    pure ()
  let core ← get
  match core.confirmer.byId[batch]? with
  | none => pure ()
  | some confirming =>
    if confirming.unresolved = 0 then forgetResolved batch
    else if confirming.written && confirming.retryAt.any (· ≤ core.now) then
      sendUnresolvedAgain batch
    else confirmingDue batch

def confirmTimerFired : Client Unit := do
  modifyConfirmer fun confirmer => { confirmer with timer := none, armed := none, firing := true }
  let core ← get
  forEach ((core.confirmer.byDue.takeWhile (·.1 ≤ core.now)).map Prod.snd) confirmDue
  modifyConfirmer fun confirmer => { confirmer with firing := false }
  armConfirmTimer

/-- A DELIVERY_ERROR for a confirmed batch, which nobody took: what is unresolved goes again after a
back-off. -/
def confirmedBatchNotTaken (envelopeId : Nat) : Client Bool := do
  let core ← get
  match core.confirmer.byId[envelopeId]? with
  | none => pure false
  | some confirming => do
    let backoff := if confirming.backoff = 0 then BACKOFF_FIRST
      else min (confirming.backoff * 2) BACKOFF_MOST
    modifyConfirmer fun confirmer =>
      { confirmer with
        byId := confirmer.byId.insert envelopeId
          { confirming with backoff, written := true, retryAt := some (core.now + backoff) } }
    confirmingDue envelopeId
    pure true

/-- A connection closed: the batches written on it whose messages are not all resolved go again at
once, in the order their messages were numbered. -/
def confirmationsOnClosed (conn : ConnId) : Client Unit := do
  let core ← get
  let placed := core.confirmer.byId.toList.filter (·.2.placedOn = some conn)
  let again := placed.filter fun (_, confirming) =>
    (confirming.written || confirming.frameState.any fun tracker => core.trackers tracker = .sent) &&
      confirming.unresolved > 0
  modifyConfirmer fun confirmer =>
    { confirmer with
      byId := confirmer.byId.map fun _ confirming =>
        if confirming.placedOn = some conn then { confirming with placedOn := none }
        else confirming }
  forEach ((again.map fun (id, confirming) => (confirming.number 0, id)).insertionSort dueBefore)
    fun (_, batch) => sendUnresolvedAgain batch
  let core ← get
  when (core.confirmer.owedCount ≠ 0 &&
    (core.client.mode = .dispatch || core.client.refusing) && !core.client.shutsDown)
    sendConfirmations

/-! ## A CONFIRMATION -/

/-- The processed messages of `segment` resolved at once when its batch has nothing to tell them. -/
def resolvedAtOnce (segment : Segment) (processed : Bool) : Client (Option Nat) := do
  let core ← get
  match core.confirmer.byId[segment.batch]? with
  | none => pure none
  | some confirming =>
    if !processed || !confirming.followed.isEmpty then pure none
    else do
      let newly := segment.indexes.filter fun index => !confirming.isResolved index
      modifyConfirmer fun confirmer =>
        { confirmer with
          unconfirmed := confirmer.unconfirmed - newly.length
          byId := confirmer.byId.insert segment.batch
            { confirming with
              resolved := newly.foldl (fun resolved index => resolved.set index true)
                confirming.resolved
              unresolved := confirming.unresolved - newly.length } }
      forEach newly fun index =>
        noteConfirm (.ended (confirming.ticketOf index) (confirming.number index) true)
      when (newly.length > 0 && core.flushing) postCallbacks
      pure (some newly.length)

/-- The messages of `segment` resolved: how many were not before. -/
def resolveSegment (segment : Segment) (processed : Bool) (reason : DropReason) : Client Nat := do
  match ← resolvedAtOnce segment processed with
  | some resolved => pure resolved
  | none => resolveInBatch segment.batch (fun _ => segment.indexes) processed reason true

/-- The segments of one list resolved: the batches that heard of a message. -/
def hearSegments (processed : Bool) (reason : DropReason) : List Segment → Client (List Nat)
  | [] => pure []
  | segment :: rest => do
    let resolved ← resolveSegment segment processed reason
    when (resolved > 0) (resolvedInRun segment.batch segment.key resolved)
    let heard ← hearSegments processed reason rest
    pure (if resolved > 0 then segment.batch :: heard else heard)

/-- The refused messages by batch, those of one batch found one after another
together. -/
def refusedByBatch (refused : List Segment) : List (Nat × List Nat) :=
  (refused.foldl (fun groups segment =>
    match groups with
    | (batch, indexes) :: earlier =>
      if batch = segment.batch then (batch, indexes ++ segment.indexes) :: earlier
      else (segment.batch, segment.indexes) :: groups
    | [] => [(segment.batch, segment.indexes)]) []).reverse

/-- A batch that heard of one of its messages waits its retry time again before it
sends what is left, its back-off over. -/
def heardOf (batch : Nat) : Client Unit := do
  let core ← get
  match core.confirmer.byId[batch]? with
  | none => pure ()
  | some confirming =>
    if confirming.unresolved = 0 then forgetResolved batch
    else do
      let retryAt := if confirming.written then
          deadlineAfter core.now (some confirming.delivery.retryAfter)
        else confirming.retryAt
      modifyConfirmer fun confirmer =>
        { confirmer with byId := confirmer.byId.insert batch { confirming with backoff := 0, retryAt } }
      confirmingDue batch

/-- A CONFIRMATION: processed numbers end their sends with 1, failed ones are given up on, refused
ones go again at once. -/
def onConfirmation (message : Message) : Client Unit := do
  match message.message.map Payload.content with
  | some (.confirmation confirmation) => do
    noteConfirm (.confirmationRead confirmation)
    let core ← get
    let processed ← hearSegments true .notConfirmed
      (segments core.confirmer.runs confirmation.processed)
    let core ← get
    let failed ← hearSegments false .failed (segments core.confirmer.runs confirmation.failed)
    let core ← get
    forEach (refusedByBatch (segments core.confirmer.runs confirmation.refused))
      fun (batch, indexes) => sendAgain batch indexes
    forEach ((processed ++ failed).insertionSort (· ≤ ·)).dedup heardOf
  | _ => pure ()

/-- Every message still waiting for its confirmation given up on, in the order sent:
the client shuts down. -/
def giveUpConfirmations (reason : DropReason) : Client Unit := do
  let core ← get
  modifyConfirmer fun confirmer => { confirmer with byId := ∅ }
  forEach (core.confirmer.byId.values.insertionSort fun first second =>
    first.number 0 ≤ second.number 0) fun confirming => do
      let _ ← resolveEach false reason true confirming.every confirming
      pure ()
  modifyConfirmer fun confirmer => { confirmer with runs := ∅, byDue := [] }
  stopConfirmTimer

end Multiplexer
