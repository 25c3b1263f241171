import Multiplexer.Core.Outbox.Send

/-! The producer's side of a confirmed batch: its messages numbered, its frame sent,
and each number kept in one run until its message is resolved. -/

set_option autoImplicit false

namespace Multiplexer

open Program

/-! ## Numbers -/

def NUMBERS : Nat := 2 ^ 64

/-- `number` appended to (first, count) pairs, the last one grown when the number
continues it. -/
def addNumber (pairs : List Nat) (number : Nat) : List Nat :=
  match pairs.reverse with
  | count :: first :: earlier =>
    if (first + count) % NUMBERS = number then earlier.reverse ++ [first, count + 1]
    else pairs ++ [number, 1]
  | _ => pairs ++ [number, 1]

/-- `records` numbered, those with no number yet given the next. -/
def numbered (deadline : Option Instant) : List Record → Client (List Record)
  | [] => pure []
  | record :: rest => do
    let record ← if record.number = 0 then do
        modifyConfirmer fun confirmer => { confirmer with lastNumber := confirmer.lastNumber + 1 }
        let core ← get
        noteConfirm (.numbered record.ticket core.confirmer.lastNumber deadline)
        pure { record with number := core.confirmer.lastNumber }
      else pure record
    let rest ← numbered deadline rest
    pure (record :: rest)

/-! ## Runs -/

/-- How many messages from `index` on are unresolved and numbered one after another, `first` the
number of the first. -/
def Confirming.runLength (confirming : Confirming) (first index : Nat) : Nat → Nat
  | 0 => 0
  | left + 1 =>
    if confirming.isResolved index || confirming.number index ≠ first then 0
    else confirming.runLength (first + 1) (index + 1) left + 1

/-- The runs of consecutive numbers among the unresolved messages from `index` on, each with its
first number. -/
def Confirming.runsFrom (confirming : Confirming) (batch : Nat) : Nat → Nat → List (Nat × Run)
  | 0, _ => []
  | steps + 1, index =>
    if confirming.count ≤ index then []
    else if confirming.isResolved index then confirming.runsFrom batch steps (index + 1)
    else
      let first := confirming.number index
      let length := confirming.runLength (first + 1) (index + 1) (confirming.count - (index + 1)) + 1
      (first, ⟨batch, index, length, length⟩) :: confirming.runsFrom batch steps (index + length)

def Confirming.runsOf (confirming : Confirming) (batch : Nat) : List (Nat × Run) :=
  if confirming.unresolved = 0 then []
  else if confirming.unresolved = confirming.count ∧ confirming.numbers.isEmpty then
    -- nothing resolved and the numbers consecutive: one run
    [(confirming.firstNumber, ⟨batch, 0, confirming.count, confirming.count⟩)]
  else confirming.runsFrom batch confirming.count 0

/-- Each unresolved number of the batch in exactly one run, registered anew. -/
def rebuildRuns (batch : Nat) : Client Unit := do
  let core ← get
  match core.confirmer.byId[batch]? with
  | none => pure ()
  | some confirming =>
    let rebuilt := confirming.runsOf batch
    modifyConfirmer fun confirmer =>
      { confirmer with
        runs := rebuilt.foldl (fun runs entry => runs.insert entry.1 entry.2)
          (dropRuns batch confirming.runKeys confirmer.runs)
        byId := confirmer.byId.insert batch { confirming with runKeys := rebuilt.map Prod.fst } }

/-! ## Waiting -/

/-- Whether the numbers of `records` follow one another from `number` on. -/
def consecutiveFrom (number : Nat) : List Record → Bool
  | [] => true
  | record :: rest => record.number = number && consecutiveFrom (number + 1) rest

/-- The messages someone follows, by their place from `index` on. -/
def followedFrom (index : Nat) : List Record → List Followed
  | [] => []
  | record :: rest =>
    if record.done.isSome || record.tracker.isSome then
      ⟨index, record.done, record.tracker⟩ :: followedFrom (index + 1) rest
    else followedFrom (index + 1) rest

/-- `records` of `batch`, whose envelope is `frame`, as they wait. -/
def Batch.confirming (batch : Batch) (frame : Frame) (records : List Record) : Confirming :=
  let firstNumber := records.head?.elim 0 Record.number
  { type := frame.type, key := batch.key, delivery := batch.delivery, frame := frame.bytes
    ids := records.map Record.id
    firstNumber
    -- sent again, among others resolved before: each its own
    numbers := if consecutiveFrom firstNumber records then [] else records.map Record.number
    followed := followedFrom 0 records
    resolved := records.map fun _ => false
    unresolved := records.length
    runKeys := [], placedOn := none, frameState := none, written := false, retryAt := none
    backoff := batch.backoff, deadline := batch.deadline, due := none
    tickets := records.map Record.ticket }

/-- `records` of `batch`, whose envelope is `frame`, kept until each is resolved, and
the frame sent through `lane` when given, its write heard. -/
def waitForConfirmation (frame : Frame) (batch : Batch) (records : List Record)
    (lane : Option LaneId) : Client Unit := do
  let id := frame.id
  noteConfirm (.enveloped id (records.map Record.ticket))
  modifyConfirmer fun confirmer =>
    { confirmer with
      unconfirmed := confirmer.unconfirmed + records.length
      byId := confirmer.byId.insert id (batch.confirming frame records) }
  rebuildRuns id
  let sent ← sendAt frame false lane batch.deadline 0 (some (.confirmed id))
  modifyConfirmer fun confirmer =>
    { confirmer with
      byId := confirmer.byId.modify id fun confirming =>
        { confirming with frameState := sent.trackers.head?, placedOn := sent.used.bind Wrapper.conn } }
  confirmingDue id

/-- `records`, which no frame could hold, given up on: none is sent unnumbered. -/
def cannotConfirm (records : List Record) : Client Unit :=
  forEach records fun record => do
    noteConfirm (.ended record.ticket record.number false)
    confirmedEnd record.ticket record.id record.number record.tracker record.done false
      .notConfirmed true

end Multiplexer
