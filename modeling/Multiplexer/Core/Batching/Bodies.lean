import Multiplexer.Core.Batching.Frames

/-! The frame of a batch with the moves it is made by: the bodies and the key go into the kept
envelope without a copy, the bodies cut go back to their records, and so do all of them when no
frame comes of it. -/

set_option autoImplicit false

namespace Multiplexer

open Program

def Record.emptied (record : Record) : Record := { record with body := ⟨0, none⟩ }

/-- The kept envelope of id `id`, once `key` and the bodies `inside` were moved into it, with the
numbers of `records`. -/
def movedEnvelope (batch : Batch) (key : Option String) (instanceId id : Nat)
    (records : List Record) (inside : List (Body Message)) : Message :=
  { id := some id
    sender := some instanceId
    type := batch.type
    key
    batch := some ⟨batchEncodedLen (inside.map Body.length), some inside⟩
    confirm :=
      if batch.delivery.confirm then (records.map Record.number).foldl addNumber [] else [] }

def giveBack (records : List Record) (place : Nat) (body : Body Message) : List Record :=
  records.modify place fun record => { record with body }

def giveAllBack : List Record → List (Body Message) → List Record
  | record :: records, body :: bodies => { record with body } :: giveAllBack records bodies
  | records, _ => records

/-- The last bodies popped and put back until they cover `excess`, `cut` of it already. -/
def popBodies (excess : Nat) :
    Nat → Nat → List Record → List (Body Message) → Nat × List Record × List (Body Message)
  | cut, stop + 2, records, inside =>
    if cut < excess then
      let body := inside.getLast?.getD ⟨0, none⟩
      popBodies excess (cut + body.length) (stop + 1) (giveBack records (stop + 1) body)
        inside.dropLast
    else (stop + 2, records, inside)
  | _, stop, records, inside => (stop, records, inside)

/-- Bodies popped, and the rest measured again, until they fit in `maxBytes` or one is left. -/
def packBodies (measure : List Record → List (Body Message) → Nat) (maxBytes : Nat) :
    Nat → Nat → List Record → List (Body Message) → Nat × List Record × List (Body Message)
  | 0, stop, records, inside => (stop, records, inside)
  | steps + 1, stop, records, inside =>
    let size := measure (records.take stop) inside
    if stop > 1 ∧ size > maxBytes then
      let (stop, records, inside) := popBodies (size - maxBytes) 0 stop records inside
      packBodies measure maxBytes steps stop records inside
    else (stop, records, inside)

def batchFrameMoves (batch : Batch) (id : Nat) (records : List Record) :
    Client ((Option String × List Record) × Nat × Option FrameBytes) := do
  let key := batch.key
  let inside := records.map Record.body
  let records := records.map Record.emptied
  let records ← if batch.delivery.confirm then numbered batch.deadline records else pure records
  let core ← get
  let envelope := movedEnvelope batch key core.instanceId id
  let (stop, records, inside) := packBodies (fun records inside => (envelope records inside).encodedLen)
    batch.delivery.maxBytes records.length records.length records inside
  let bytes := if stop > 1 || batch.delivery.confirm then encode (envelope (records.take stop) inside)
    else none
  let records := match bytes with
    | some _ => records -- their bodies go back to the pool
    | none => giveAllBack records inside
  pure ((key, records), stop, bytes)

end Multiplexer
