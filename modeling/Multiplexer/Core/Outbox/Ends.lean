import Multiplexer.Core.Confirming.Resolve

/-! How a message ends: the one report of a drop, and the pass that tells the
program what ended. -/

set_option autoImplicit false

namespace Multiplexer

open Program

/-- The one place every message the program sent and the client gives up on goes through. -/
def reportDrop (copy : Option TrackerId) (frame : OutFrame) (reason : DropReason) : Client Unit := do
  note (.dropped copy frame reason)
  if frame.confirmed then do
    flushesLost frame.number
    confirmedFrameDropped frame.id reason
  else do
    modifyClient fun client =>
      { client with dropped := client.dropped + frame.batch.elim 1 List.length }
    flushesLost frame.number
    let core ← get
    when core.client.dropObserver do
      modifyOutbox fun outbox =>
        { outbox with
          dropEvents := outbox.dropEvents ++
            (frame.batch.getD [frame.id]).map fun id => (id, reason) }
      postCallbacks

def settleSend (id : Nat) (_written : Nat) (_notConnected : Bool) : Client Unit := do
  let core ← get
  match core.threaded.sends[id]? with
  | none => pure ()
  | some pending => do
    modifyThreaded fun threaded => { threaded with sends := threaded.sends.erase id }
    call (.callback pending.settled)

def endProgramSend (done : ProgramDone) (written : Nat) : Client Unit := do
  call (.send done written)
  match done with
  | .callback id => call (.callback id)
  | .settle id => settleSend id written (written = 0)

def endBatch (ends : List (Option ProgramDone × Option RecordId)) (written : Nat) : Client Unit :=
  forEach ends fun (done, tracker) => do
    ifSome tracker fun tracker => endRecord tracker (written > 0)
    ifSome done fun done => endProgramSend done written

def endSend (done : SendDone) (written : Nat) : Client Unit :=
  match done with
  | .program done => endProgramSend done written
  | .batch ends => endBatch ends written
  | .confirmed batch => confirmingWritten batch written

def tellDrops : Client Unit :=
  modifyOutbox fun outbox => { outbox with dropEvents := [] }

/-- The ends of the confirmed sends resolved, in the order resolved. -/
def runConfirmedEnds : Client Unit := do
  let core ← get
  modifyConfirmer fun confirmer => { confirmer with ends := [] }
  forEach core.confirmer.ends fun (done, written) => endProgramSend done written

/-- A followed send ends: its copies are not followed any more, and `done` hears
`written`. -/
def endFollow (id written : Nat) : Client Unit := do
  let core ← get
  match core.outbox.followStates[id]? with
  | none => pure ()
  | some follow => do
    modifyOutbox fun outbox => { outbox with followStates := outbox.followStates.erase id }
    if follow.finished then pure ()
    else do
      modifyOutbox fun outbox =>
        { outbox with
          follows := follow.copies.foldl
            (fun follows copy => if follows[copy]? = some id then follows.erase copy else follows)
            outbox.follows }
      ifSome follow.done fun done => do
        note (.followEnded id written)
        endSend done written

def processFollow (tracker : TrackerId) (written : Bool) : Client Unit := do
  let core ← get
  match core.outbox.follows[tracker]? with
  | none => pure () -- its send ended meanwhile
  | some id => do
    modifyOutbox fun outbox => { outbox with follows := outbox.follows.erase tracker }
    match core.outbox.followStates[id]? with
    | none => pure ()
    | some follow => do
      modifyOutbox fun outbox =>
        { outbox with
          followStates := outbox.followStates.insert id { follow with live := follow.live - 1 } }
      if written then endFollow id 1
      else when (follow.live - 1 = 0) (endFollow id 0)

def processFollows : Client Unit := do
  let core ← get
  modifyOutbox fun outbox => { outbox with followEvents := [] }
  forEach core.outbox.followEvents fun (tracker, written) => processFollow tracker written
  checkFlushes

def processCallbacks : Client Unit := do
  tellDrops
  runConfirmedEnds
  processFollows

/-- Ends every send still followed, each `done` hearing 0, at once: for a client
whose loop will not run again. -/
def endFollows : Client Unit := do
  tellDrops
  runConfirmedEnds
  modifyOutbox fun outbox => { outbox with followEvents := [] }
  let core ← get
  forEach core.outbox.followStates.keys fun id => endFollow id 0
  checkFlushes

end Multiplexer
