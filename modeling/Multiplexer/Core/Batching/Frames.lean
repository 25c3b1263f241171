import Multiplexer.Core.Confirming.Wait

/-! A batch as it goes: as many of its messages as fit in one envelope, then the
next, a message alone as itself; a confirmed batch's always in envelopes, which
number them. -/

set_option autoImplicit false

namespace Multiplexer

open Program

def envelopeOf (batch : Batch) (instanceId id : Nat) (records : List Record) : Message :=
  { id := some id
    sender := some instanceId
    type := batch.type
    key := batch.key
    batch := some ⟨batchEncodedLen (records.map (·.body.length)), some (records.map Record.body)⟩
    confirm :=
      if batch.delivery.confirm then (records.map Record.number).foldl addNumber [] else [] }

/-- The records, last first, without the last ones whose bodies cover `excess`. -/
def cutLast (excess : Nat) : List Record → List Record
  | [] => []
  | [record] => [record]
  | last :: next :: rest =>
    if excess = 0 then last :: next :: rest else cutLast (excess - last.body.length) (next :: rest)

/-- The first of `records` that fit in `maxBytes` by `measure`, at least one. -/
def fitting (measure : List Record → Nat) (maxBytes : Nat) : Nat → List Record → List Record
  | 0, records => records
  | steps + 1, records =>
    if records.length > 1 ∧ measure records > maxBytes then
      fitting measure maxBytes steps
        (cutLast (measure records - maxBytes) records.reverse).reverse
    else records

/-- The frame of the first of `records` that fit. -/
def batchFrame (batch : Batch) (id : Nat) (records : List Record) :
    Client (List Record × Nat × Option FrameBytes) := do
  let records ← if batch.delivery.confirm then numbered batch.deadline records else pure records
  let core ← get
  let envelope := envelopeOf batch core.instanceId id
  let inside := fitting (fun records => (envelope records).encodedLen) batch.delivery.maxBytes
    records.length records
  let bytes := if inside.length > 1 || batch.delivery.confirm then encode (envelope inside) else none
  pure (records, inside.length, bytes)

def aloneFrame (body : Body Message) : FrameBytes :=
  ⟨HEADER_LENGTH + body.length, body.message.getD {}⟩

/-- The ends of the messages of a batch someone follows, in order. -/
def endsOf (records : List Record) : List (Option ProgramDone × Option RecordId) :=
  (records.filter fun record => record.done.isSome || record.tracker.isSome).map fun record =>
    (record.done, record.tracker)

def sendAlone (batch : Batch) (record : Record) (lane : Option LaneId) : Client Unit := do
  let done := match record.tracker with
    | none => record.done.map SendDone.program
    | some tracker => some (.batch [(record.done, some tracker)])
  let _ ← sendAt ⟨aloneFrame record.body, record.id, batch.type, .none⟩ false lane batch.deadline 0
    done
  pure ()

/-- The messages of an envelope `bytes` that confirms none, sent in it. -/
def sendEnvelope (batch : Batch) (id : Nat) (bytes : FrameBytes) (records : List Record)
    (lane : Option LaneId) : Client Unit := do
  let ends := endsOf records
  let _ ← sendAt ⟨bytes, id, batch.type, .batch (records.map Record.id)⟩ false lane batch.deadline 0
    (if ends.isEmpty then none else some (.batch ends))
  pure ()

/-- What is left of a batch as frames, one or more messages at a time. -/
def sendRecords (batch : Batch) (lane : Option LaneId) : Nat → List Record → Client Unit
  | 0, _ => pure ()
  | _, [] => pure ()
  | steps + 1, first :: rest =>
    if !rest.isEmpty || batch.delivery.confirm then do
      let id ← random64
      let (records, fit, bytes) ← batchFrame batch id (first :: rest)
      match bytes with
      | some bytes =>
        if batch.delivery.confirm then do
          waitForConfirmation ⟨bytes, id, batch.type, .confirmed⟩ batch (records.take fit) lane
          sendRecords batch lane steps (records.drop fit)
        else do
          sendEnvelope batch id bytes (records.take fit) lane
          sendRecords batch lane steps (records.drop fit)
      | none =>
        if batch.delivery.confirm then do
          cannotConfirm (records.take fit)
          sendRecords batch lane steps (records.drop fit)
        else do
          sendAlone batch first lane
          sendRecords batch lane steps rest
    else sendAlone batch first lane

/-- A batch as frames, on `idle`, when given and live, rather than where the round
robin points. -/
def sendBatch (batch : Batch) (idle : Option ConnId) : Client Unit := do
  let core ← get
  match idle.filter core.connLiving with
  | some conn => do
    let lane ← seededLane (core.wrap conn) false
    sendRecords batch (some lane) batch.records.length batch.records
  | none => sendRecords batch none batch.records.length batch.records

end Multiplexer
