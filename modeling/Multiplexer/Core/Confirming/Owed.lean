import Multiplexer.Core.Outbox.Handover

/-! The consumer's side of confirmed batches: what it owes each producer, gathered
into one CONFIRMATION. -/

set_option autoImplicit false

namespace Multiplexer

open Program

/-- Past this many producers remembered, those owed nothing are forgotten. -/
def OWED_KEPT : Nat := 4096

namespace Owed

def add (owed : Owed) (number : Nat) (outcome : Confirmed) : Owed :=
  match outcome with
  | .processed =>
    { owed with processed := addNumber owed.processed number, count := owed.count + 1 }
  | .refused => { owed with refused := addNumber owed.refused number, count := owed.count + 1 }
  | .failed => { owed with failed := addNumber owed.failed number, count := owed.count + 1 }

def sent (owed : Owed) : Owed := { connection := owed.connection }

end Owed

/-- What this client owes `producer`, in one CONFIRMATION, on the connection its messages came on,
else another live one. -/
def sendOwed (producer : Nat) : Client Unit := do
  let core ← get
  match core.confirmer.owed[producer]? with
  | none => pure ()
  | some owed => do
    modifyConfirmer fun confirmer =>
      { confirmer with
        owed := confirmer.owed.insert producer owed.sent
        owedCount := confirmer.owedCount - owed.count }
    let id ← random64
    let message : Message :=
      { id := some id, sender := some core.instanceId, toId := some producer
        type := types.CONFIRMATION, reportDeliveryError := some false
        message := some (Confirmation.payload ⟨owed.processed, owed.refused, owed.failed⟩) }
    match encode message with
    | none => pure ()
    | some bytes => do
      noteConfirm (.told producer ⟨owed.processed, owed.refused, owed.failed⟩)
      let lane ← match owed.connection.filter core.connLiving with
        | some conn => do
          let lane ← seededLane (core.wrap conn) false
          pure (some lane)
        | none => pure none
      let _ ← sendAt ⟨bytes, id, types.CONFIRMATION, .none⟩ false lane
        (deadlineAfter core.now (some DEFAULT_TIMEOUT)) 0 none
      pure ()

/-- Tells the producer `sender` what became of its message `number`, gathered with the rest, which
goes at once when enough is owed. -/
def confirm (sender number : Nat) (outcome : Confirmed) : Client Unit := do
  if number = 0 then pure ()
  else do
    let core ← get
    let owed := (core.confirmer.owed.getD sender {}).add number outcome
    modifyConfirmer fun confirmer =>
      { confirmer with
        owed := confirmer.owed.insert sender owed, owedCount := confirmer.owedCount + 1 }
    noteConfirm (.confirmed sender number outcome)
    when (owed.count ≥ CONFIRMATIONS_GATHERED_MAX) (sendOwed sender)

def sendConfirmations : Client Unit := do
  let core ← get
  if core.confirmer.owedCount = 0 then pure ()
  else do
    forEach ((core.confirmer.owed.toList.filter (·.2.count > 0)).map Prod.fst) sendOwed
    let core ← get
    when (core.confirmer.owed.size > OWED_KEPT) do
      modifyConfirmer fun confirmer =>
        { confirmer with owed := confirmer.owed.filter fun _ owed => owed.count > 0 }

/-- The messages of a confirmed batch from `producer` came on `conn`. -/
def confirmedBatchFrom (conn : ConnId) (producer : Nat) : Client Unit :=
  modifyConfirmer fun confirmer =>
    { confirmer with
      owed := confirmer.owed.insert producer
        { confirmer.owed.getD producer {} with connection := some conn } }

/-- Confirmations a threaded client's program gave, gathered, unless the client was
torn down: what is owed goes at the end of the io thread's turn. -/
def confirmHanded (handed : List HandedConfirmation) : Client Unit := do
  let core ← get
  if handed.isEmpty || core.threaded.tornDown then pure ()
  else do
    forEach handed fun each => confirm each.sender each.number each.outcome
    let core ← get
    when (!core.confirmer.posted) do
      modifyConfirmer fun confirmer => { confirmer with posted := true }
      post .sendConfirmations

def sendConfirmationsPosted : Client Unit := do
  modifyConfirmer fun confirmer => { confirmer with posted := false }
  let core ← get
  when (!core.threaded.tornDown) sendConfirmations

end Multiplexer
