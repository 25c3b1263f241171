import Multiplexer.Stow.Outbox

/-! What is sent through the outbox, batches, confirmations, queries' frames and the program's
own, for any relation between cores that composes and that the outbox's few ways in keep. -/

set_option autoImplicit false

namespace Multiplexer

open Program Std

def Outbox.begun (outbox : Outbox) (flush : Flush) : Outbox :=
  { outbox with
    nextFlush := outbox.nextFlush + 1
    flushStates := outbox.flushStates.insert (outbox.nextFlush + 1) flush
    flushes := outbox.flushes ++ [outbox.nextFlush + 1] }

def ConfirmNote.isOwing : ConfirmNote → Bool
  | .confirmed .. | .told .. => true
  | _ => false

def Owed.confirmation (owed : Owed) : Confirmation := ⟨owed.processed, owed.refused, owed.failed⟩

namespace Core

def confirmationFor (core : Core) (producer : Nat) (owed : Owed) : Message :=
  { id := some (core.ids.nth core.drawn), sender := some core.instanceId, toId := some producer
    type := types.CONFIRMATION, reportDeliveryError := some false
    message := some owed.confirmation.payload }

/-- What is owed to `producer` told it, but for what no frame can be made of. -/
def telling (core : Core) (producer : Nat) (owed : Owed) : Core :=
  { core with
    drawn := core.drawn + 1
    confirmer :=
      { core.confirmer with
        owed := core.confirmer.owed.insert producer owed.sent
        owedCount := core.confirmer.owedCount - owed.count }
    confirmNotes :=
      if (encode (core.confirmationFor producer owed)).isSome then
        .told producer owed.confirmation :: core.confirmNotes
      else core.confirmNotes }

def gathered (core : Core) (sender number : Nat) (outcome : Confirmed) : Owed :=
  (core.confirmer.owed.getD sender {}).add number outcome

def gathering (core : Core) (sender number : Nat) (outcome : Confirmed) : Core :=
  { core with
    confirmer :=
      { core.confirmer with
        owed := core.confirmer.owed.insert sender (core.gathered sender number outcome)
        owedCount := core.confirmer.owedCount + 1 }
    confirmNotes := .confirmed sender number outcome :: core.confirmNotes }

end Core

/-- One change of what a consumer owes its producers. -/
inductive Owe : Core → Core → Prop
  | gather {core} (sender number : Nat) (outcome : Confirmed)
      (few : (core.gathered sender number outcome).count < CONFIRMATIONS_GATHERED_MAX) :
      Owe core (core.gathering sender number outcome)
  | due {core} (sender number : Nat) (outcome : Confirmed) :
      Owe core ((core.gathering sender number outcome).telling sender (core.gathered sender number outcome))
  | tell {core} (producer : Nat) (owed : Owed) (found : core.confirmer.owed[producer]? = some owed) :
      Owe core (core.telling producer owed)
  | forget {core} : Owe core
        { core with
          confirmer :=
            { core.confirmer with
              owed := core.confirmer.owed.filter fun _ owed => owed.count > 0 } }

/-- What a relation has to allow for one message to be sent, which may be dropped. -/
structure Placing (may : Nat → Prop) (Relates : Core → Core → Prop) : Prop where
  numbers : ∀ {core after}, Relates core after → core.outbox.lastNumber ≤ after.outbox.lastNumber
  settle : ∀ {core after}, Settle may core after → Relates core after
  taken : ∀ frame trackers, Keeps Relates (note (.taken frame trackers))
  placeNow : ∀ {core : Core} {frame : OutFrame} (all lane), may frame.id →
    frame.number ≤ core.outbox.lastNumber → Relates core ((placeNow frame all lane none).after core)
  hold : ∀ {core : Core} {frame : OutFrame} (all lane), frame.number ≤ core.outbox.lastNumber →
    Relates core ((hold frame none all lane).after core)

/-- What a relation has to allow for batches, those that wait for confirmations too, to keep it. -/
structure Parcels (Relates : Core → Core → Prop) : Prop where
  shift : ∀ {core after}, Shift false core after → Relates core after
  enveloped : ∀ envelope tickets, Keeps Relates (noteConfirm (.enveloped envelope tickets))
  batcher : ∀ {core : Core} (batcher : Batcher), batcher.timer = core.batcher.timer →
    Relates core { core with batcher }
  sendAt : ∀ {core : Core} (frame all lane deadline) {number : Nat} (done), number ≤ core.outbox.lastNumber →
      Relates core ((sendAt frame all lane deadline number done).after core)
  waitForIdle : Keeps Relates waitForIdle

abbrev Core.flushBegun (core : Core) (marks : List (ConnId × TrackerId)) (done : Option FlushDone)
    (lost : Bool) : Core :=
  { core with
    outbox := core.outbox.begun
      { lastNumber := core.outbox.lastNumber, waiting := core.outbox.waiting, marks, done
        flushed := false, lost, confirmMark := core.confirmer.lastNumber }
    notes := .flushBegan (core.outbox.nextFlush + 1) core.outbox.lastNumber
      core.confirmer.lastNumber :: core.notes }

structure Places (Relates : Core → Core → Prop) : Prop extends Parcels Relates where
  numbers : ∀ {core after}, Relates core after → core.outbox.lastNumber ≤ after.outbox.lastNumber
  taken : ∀ frame trackers, Keeps Relates (note (.taken frame trackers))
  owe : ∀ {core after}, Owe core after → Relates core after
  flush : ∀ (core : Core) (marks done lost), Relates core (core.flushBegun marks done lost)
  placeOn : ∀ {core : Core} {frame : OutFrame} (conn copy lane), frame.number ≤ core.outbox.lastNumber →
      Relates core ((placeOn conn frame none copy lane).after core)

/-- What a relation has to allow for all that sends to keep it, batches and confirmations taken
whole. -/
structure Ways (Relates : Core → Core → Prop) : Prop where
  numbers : ∀ {core after}, Relates core after → core.outbox.lastNumber ≤ after.outbox.lastNumber
  settle : ∀ {core after}, Settle anyBatch core after → Relates core after
  hear : ∀ {core after}, Hear core after → Relates core after
  taken : ∀ frame trackers, Keeps Relates (note (.taken frame trackers))
  flush : ∀ (core : Core) (marks done lost), Relates core (core.flushBegun marks done lost)
  sendAt : ∀ {core : Core} (frame all lane deadline) {number : Nat} (done), number ≤ core.outbox.lastNumber →
      Relates core ((sendAt frame all lane deadline number done).after core)
  placeOn : ∀ {core : Core} {frame : OutFrame} (conn copy lane), frame.number ≤ core.outbox.lastNumber →
      Relates core ((placeOn conn frame none copy lane).after core)
  recordOf : ∀ joining confirm keep done, Keeps Relates (recordOf joining confirm keep done)
  sendBatch : ∀ batch idle, (∀ record ∈ batch.records, record.number = 0) →
    Keeps Relates (sendBatch batch idle)
  closeBatch : ∀ began idle, Keeps Relates (closeBatch began idle)
  join : ∀ began joining delivery keep done, Keeps Relates (join began joining delivery keep done)
  opening : ∀ joining delivery keep done, Keeps Relates (do
    let began ← openBatch joining.type joining.key delivery
    Multiplexer.join began joining delivery keep done)
  batchTimerFired : Keeps Relates batchTimerFired
  stopBatching : Keeps Relates stopBatching
  deliveries : ∀ {change : Batcher → Batcher},
    (∀ batcher, ∃ byType byKey, change batcher = { batcher with byType, byKey }) →
      Keeps Relates (modifyBatcher change)
  confirm : ∀ sender number outcome, Keeps Relates (confirm sender number outcome)
  sendConfirmations : Keeps Relates sendConfirmations
  onConfirmation : ∀ message, Keeps Relates (onConfirmation message)
  confirmTimerFired : Keeps Relates confirmTimerFired
  confirmationsOnClosed : ∀ conn, Keeps Relates (confirmationsOnClosed conn)

theorem recordOf_number (joining : Joining) (confirm keep : Bool) (done : Option ProgramDone)
    (core : Core) : ((recordOf joining confirm keep done).value core).number = 0 := by
  unfold recordOf
  cases keep <;> cases confirm <;> rfl

section Numbers

variable {Relates : Core → Core → Prop} [IsTrans Core Relates]

theorem numberOrNext_relates {α : Type} {next : Nat → Client α} {core : Core} {number : Nat}
    (shift : ∀ {core after}, Shift true core after → Relates core after)
    (fits : number ≤ core.outbox.lastNumber)
    (rest : ∀ {core : Core} {number : Nat}, number ≤ core.outbox.lastNumber →
      Relates core ((next number).after core)) :
    Relates core ((numberOrNext number >>= next).after core) := by
  unfold numberOrNext
  split
  · exact rest fits
  · have counts : Outbox.Same core.outbox
        { core.outbox with lastNumber := core.outbox.lastNumber + 1 } :=
      { Outbox.Same.refl core.outbox with numbers := Nat.le_succ _ }
    have numbered : Shift true core (nextNumber.after core) :=
      .hush { Silent.refl core with numbers := Nat.le_succ _, outbox := counts } rfl
    exact trans_of Relates (shift numbered) (rest le_rfl)

end Numbers

namespace Placing

variable {may : Nat → Prop} {Relates : Core → Core → Prop} (placing : Placing may Relates)
  [Refl Relates] [IsTrans Core Relates]

include placing

theorem settling {α : Type} {program : Client α} (settling : Settling may program) :
    Keeps Relates program :=
  .steps placing.settle settling

theorem shifting {α : Type} {program : Client α} (shifting : Shifting true program) :
    Keeps Relates program :=
  placing.settling shifting.settling

theorem sendAt {core : Core} (frame : Frame) (all : Bool) (lane : Option LaneId)
    (deadline : Option Instant) {number : Nat} (done : Option SendDone) (own : may frame.id)
    (fits : number ≤ core.outbox.lastNumber) :
    Relates core ((sendAt frame all lane deadline number done).after core) := by
  unfold Multiplexer.sendAt
  rw [after_get_bind]
  split
  · exact refl_of Relates core
  · refine numberOrNext_relates (fun shift => placing.settle (.shift shift)) fits fun {later number} fits => ?_
    dsimp only
    generalize made : outFrame frame _ all number deadline _ = sent
    have sentNumber : sent.number = number := by rw [← made]; rfl
    have sentOwn : may sent.id := by rw [← made]; exact own
    have noted : ∀ id (done : SendDone) trackers, Keeps Relates
        (note (.followed id done sent trackers)) := fun _ _ _ =>
      placing.shifting (note_shifting rfl rfl)
    have taken : ∀ (placed : Placed) (trackers : List TrackerId), Keeps Relates (do
        note (.taken sent trackers)
        ifSome done fun done => do
          let id ← follow trackers done
          note (.followed id done sent trackers)
        pure (⟨true, trackers, placed.used⟩ : Sent)) := fun _ _ =>
      .bind (placing.taken _ _) fun _ => .bind (.ifSome fun _ =>
        .bind (placing.shifting (follow_shifting _ _)) fun _ => noted _ _ _) fun _ => .pure _
    have onwards : ∀ (placed : Placed) {later : Core}, sent.number ≤ later.outbox.lastNumber →
        Relates later ((if (!placed.placed && (placed.refused || !all && lane.any fun lane =>
            (core.lanes lane).pinned && (core.lanes lane).holdsConnection)) = true then pure {}
          else if placed.placed = true then do
            note (.taken sent placed.copies)
            ifSome done fun done => do
              let id ← follow placed.copies done
              note (.followed id done sent placed.copies)
            pure (⟨true, placed.copies, placed.used⟩ : Sent)
          else if core.past deadline = true then do
            let tracker ← giveUpMessage sent none false .noConnection
            note (.taken sent [tracker])
            ifSome done fun done => do
              let id ← follow [tracker] done
              note (.followed id done sent [tracker])
            pure (⟨true, [tracker], placed.used⟩ : Sent)
          else do
            let tracker ← Multiplexer.hold sent none all lane
            note (.taken sent [tracker])
            ifSome done fun done => do
              let id ← follow [tracker] done
              note (.followed id done sent [tracker])
            pure (⟨true, [tracker], placed.used⟩ : Sent) : Client Sent).after later) := by
      intro placed later fits
      split
      · exact refl_of Relates later
      · split
        · exact taken _ _ later
        · split
          · exact Keeps.bind (placing.settling (giveUpMessage_settling _ _ _ _ sentOwn))
              (fun _ => taken placed _) later
          · exact Keeps.bind_at (placing.hold _ _ fits) fun _ => taken placed _
    split
    · have placed := placing.placeNow all lane sentOwn (sentNumber.trans_le fits)
      exact trans_of Relates placed
        (onwards _ ((sentNumber.trans_le fits).trans (placing.numbers placed)))
    · exact onwards {} (sentNumber.trans_le fits)

end Placing

inductive Put (may : Nat → Prop) : Core → Core → Prop
  | stow {core after} (stow : Stow may core after) : Put may core after
  | taken {core} (frame : OutFrame) (trackers : List TrackerId) :
      Put may core { core with notes := .taken frame trackers :: core.notes }

abbrev Puts (may : Nat → Prop) : Core → Core → Prop := Relation.ReflTransGen (Put may)

namespace Parcels

variable {Relates : Core → Core → Prop} (parcels : Parcels Relates)

include parcels

theorem modifyBatcher {change : Batcher → Batcher}
    (slot : ∀ batcher, (change batcher).timer = batcher.timer) :
    Keeps Relates (modifyBatcher change) :=
  fun _ => parcels.batcher _ (slot _)

theorem sendNew (frame : Frame) (all : Bool) (lane : Option LaneId) (deadline : Option Instant)
    (done : Option SendDone) : Keeps Relates (Multiplexer.sendAt frame all lane deadline 0 done) :=
  fun _ => parcels.sendAt frame all lane deadline done (Nat.zero_le _)

variable [Refl Relates] [IsTrans Core Relates]

theorem shifting {α : Type} {program : Client α} (shifting : Shifting false program) :
    Keeps Relates program :=
  .steps parcels.shift shifting

/-! ## A batch -/

theorem waitForConfirmation (frame : Frame) (batch : Batch) (records : List Record)
    (lane : Option LaneId) : Keeps Relates (waitForConfirmation frame batch records lane) :=
  .bind (parcels.enveloped _ _) fun _ =>
    .bind (parcels.shifting (modifyConfirmer_steady rfl)) fun _ =>
      .bind (parcels.shifting (rebuildRuns_shifting _)) fun _ =>
        .bind (parcels.sendNew _ _ _ _ _) fun _ =>
          .bind (parcels.shifting (modifyConfirmer_steady rfl)) fun _ =>
            parcels.shifting (confirmingDue_shifting _)

theorem sendAlone (batch : Batch) (record : Record) (lane : Option LaneId) :
    Keeps Relates (sendAlone batch record lane) :=
  .bind (parcels.sendNew _ _ _ _ _) fun _ => .pure _

theorem sendEnvelope (batch : Batch) (id : Nat) (bytes : FrameBytes) (records : List Record)
    (lane : Option LaneId) : Keeps Relates (sendEnvelope batch id bytes records lane) :=
  .bind (parcels.sendNew _ _ _ _ _) fun _ => .pure _

theorem sendRecords (batch : Batch) (lane : Option LaneId) (steps : Nat) (records : List Record) :
    Keeps Relates (sendRecords batch lane steps records) := by
  induction steps generalizing records with
  | zero => exact .pure _
  | succ _ ih =>
    cases records with
    | nil => exact .pure _
    | cons =>
      refine .ite (.bind (parcels.shifting random64_shifting) fun id =>
        .bind (parcels.shifting (batchFrame_shifting _ _ _)) fun made => ?_)
        (parcels.sendAlone _ _ _)
      obtain ⟨_, _, bytes⟩ := made
      cases bytes with
      | some =>
        exact .ite (.bind (parcels.waitForConfirmation _ _ _ _) fun _ => ih _)
          (.bind (parcels.sendEnvelope _ _ _ _ _) fun _ => ih _)
      | none =>
        exact .ite (.bind (parcels.shifting (cannotConfirm_shifting _)) fun _ => ih _)
          (.bind (parcels.sendAlone _ _ _) fun _ => ih _)

theorem sendBatch (batch : Batch) (idle : Option ConnId) : Keeps Relates (sendBatch batch idle) := by
  refine .get fun core => ?_
  split
  · exact .bind (parcels.shifting (seededLane_shifting _ _)) fun _ => parcels.sendRecords _ _ _ _
  · exact parcels.sendRecords _ _ _ _

theorem dueAt (began : Nat) (due : Instant) : Keeps Relates (dueAt began due) := by
  refine .get fun core => ?_
  split
  · exact .pure _
  · exact .bind (parcels.modifyBatcher fun _ => rfl) fun _ =>
      .when (parcels.shifting armBatchTimer_shifting)

theorem closeBatch (began : Nat) (idle : Option ConnId) : Keeps Relates (closeBatch began idle) := by
  refine .get fun core => ?_
  split
  · exact .pure _
  · rename_i batch found
    refine .bind (parcels.modifyBatcher fun batcher => ?_) fun _ => .bind (.ifSome fun _ =>
      .bind (parcels.modifyBatcher fun _ => rfl) fun _ =>
        .get fun _ => .when (parcels.shifting stopBatchTimer_shifting)) fun _ => parcels.sendBatch _ _
    unfold Batcher.setGroup
    split <;> rfl

theorem closeBatches : Keeps Relates closeBatches :=
  .get fun _ => .forEach fun _ => parcels.closeBatch _ _

theorem closeOnItsOwn (began : Nat) : Keeps Relates (closeOnItsOwn began) :=
  .get fun _ => .forEach fun _ => parcels.closeBatch _ _

theorem batchTimerFired : Keeps Relates batchTimerFired :=
  .bind (parcels.shifting (modifyBatcher_shifting (fun _ => rfl) fun _ => .inr rfl)) fun _ =>
    .get fun _ => .bind (.forEach fun _ => parcels.closeOnItsOwn _) fun _ =>
      parcels.shifting armBatchTimer_shifting

theorem stopBatching : Keeps Relates stopBatching :=
  .bind parcels.closeBatches fun _ => parcels.shifting stopBatchTimer_shifting

theorem openBatch (type : Nat) (key : Option String) (delivery : Delivery) :
    Keeps Relates (openBatch type key delivery) := by
  refine .get fun core => .bind (parcels.modifyBatcher fun batcher => ?_) fun _ => ?_
  · unfold Batcher.setGroup
    split <;> rfl
  · dsimp only
    split
    · exact .bind (parcels.modifyBatcher fun _ => rfl) fun _ =>
        .bind (.ifSome fun _ => parcels.dueAt _ _) fun _ => .bind parcels.waitForIdle fun _ => .pure _
    · exact .bind (parcels.dueAt _ _) fun _ => .pure _

theorem join (began : Nat) (joining : Joining) (delivery : Delivery) (keep : Bool)
    (done : Option ProgramDone) : Keeps Relates (join began joining delivery keep done) :=
  .bind (parcels.shifting (recordOf_shifting _ _ _ _)) fun _ =>
    .bind (parcels.modifyBatcher fun _ => rfl) fun _ =>
      .get fun _ => .bind (.when (parcels.closeOnItsOwn _)) fun _ => .pure _

/-! ## Messages sent again -/

theorem sendAgain (batch : Nat) (indexes : List Nat) : Keeps Relates (sendAgain batch indexes) := by
  refine .get fun core => ?_
  split
  · exact .pure _
  · rename_i confirming found
    refine .bind (parcels.shifting (modifyConfirmer_steady rfl)) fun _ => .ite
      (.bind (parcels.shifting (resolveEach_shifting _ _ _ _ _)) fun _ =>
        parcels.shifting (putBack_shifting _ _)) ?_
    split
    · exact .bind (parcels.shifting (giveUpAgain_shifting _ _ _)) fun _ =>
        .bind (parcels.shifting (modifyConfirmer_steady rfl)) fun _ =>
          parcels.shifting (forgetResolved_shifting _)
    · exact .bind (parcels.shifting (takeAgain_shifting _ _ _)) fun _ =>
        .bind (parcels.shifting (putBack_shifting _ _)) fun _ => .ite (.pure _)
          (.bind (parcels.shifting (modifyConfirmer_steady rfl)) fun _ => parcels.sendBatch _ _)

theorem sendUnresolvedAgain (batch : Nat) : Keeps Relates (sendUnresolvedAgain batch) := by
  refine .get fun core => ?_
  split
  · exact .pure _
  · exact parcels.sendAgain _ _

theorem confirmDue (batch : Nat) : Keeps Relates (confirmDue batch) := by
  refine .get fun core => .bind (.when (.bind
    (parcels.shifting (resolveInBatch_shifting _ _ _ _ _)) fun _ => .pure _)) fun _ =>
      .get fun core => ?_
  split
  · exact .pure _
  · exact .ite (parcels.shifting (forgetResolved_shifting _))
      (.ite (parcels.sendUnresolvedAgain _) (parcels.shifting (confirmingDue_shifting _)))

theorem confirmTimerFired : Keeps Relates confirmTimerFired :=
  .bind (parcels.shifting (modifyConfirmer_shifting (fun _ => rfl) (fun _ => rfl) fun _ => .inr rfl)) fun _ =>
    .get fun _ => .bind (.forEach fun _ => parcels.confirmDue _) fun _ =>
      .bind (parcels.shifting (modifyConfirmer_steady rfl)) fun _ =>
        parcels.shifting armConfirmTimer_shifting

theorem onConfirmation (message : Message) : Keeps Relates (onConfirmation message) := by
  unfold Multiplexer.onConfirmation
  split
  · exact .bind (parcels.shifting (noteConfirm_shifting rfl)) fun _ => .get fun _ =>
      .bind (parcels.shifting (hearSegments_shifting _ _ _)) fun _ => .get fun _ =>
        .bind (parcels.shifting (hearSegments_shifting _ _ _)) fun _ => .get fun _ =>
          .bind (.forEach fun _ => parcels.sendAgain _ _) fun _ =>
            .forEach fun _ => parcels.shifting (heardOf_shifting _)
  · exact .pure _

end Parcels

namespace Places

variable {Relates : Core → Core → Prop} (places : Places Relates) [Refl Relates]
  [IsTrans Core Relates]

include places

theorem sendOwed_telling {core : Core} {producer : Nat} {owed : Owed}
    (found : core.confirmer.owed[producer]? = some owed) :
    Relates (core.telling producer owed) ((sendOwed producer).after core) := by
  have next : ∀ (bytes : FrameBytes) (lane : Option LaneId), Keeps Relates (do
      let _ ← Multiplexer.sendAt ⟨bytes, core.ids.nth core.drawn, types.CONFIRMATION, .none⟩ false
        lane (deadlineAfter core.now (some DEFAULT_TIMEOUT)) 0 none
      pure ()) := fun _ _ => .bind (places.sendNew _ _ _ _ _) fun _ => .pure _
  unfold Multiplexer.sendOwed
  rw [after_get_bind, found]
  dsimp only
  rw [after_bind, after_bind]
  unfold Core.telling
  cases encoded : encode (core.confirmationFor producer owed) with
  | none =>
    erw [encoded]
    exact refl_of Relates _
  | some bytes =>
    erw [encoded]
    dsimp only
    rw [after_bind]
    cases owed.connection.filter core.connLiving with
    | none => exact next bytes none _
    | some conn =>
      have seeded := places.shifting (seededLane_shifting (core.wrap conn) false)
      exact Keeps.bind seeded (fun lane => .bind (.pure (some lane)) fun lane => next bytes lane) _

theorem sendOwed (producer : Nat) : Keeps Relates (sendOwed producer) := by
  intro core
  cases found : core.confirmer.owed[producer]? with
  | none =>
    unfold Multiplexer.sendOwed
    rw [after_get_bind, found]
    exact refl_of Relates core
  | some owed =>
    exact trans_of Relates (places.owe (.tell producer owed found)) (places.sendOwed_telling found)

theorem confirm (sender number : Nat) (outcome : Confirmed) :
    Keeps Relates (confirm sender number outcome) := by
  refine .ite (.pure _) fun core => ?_
  change Relates core ((when (decide ((core.gathered sender number outcome).count ≥ _))
    (Multiplexer.sendOwed sender)).after (core.gathering sender number outcome))
  by_cases many : (core.gathered sender number outcome).count ≥ CONFIRMATIONS_GATHERED_MAX
  · rw [decide_eq_true many, when_true]
    exact trans_of Relates (places.owe (.due sender number outcome))
      (places.sendOwed_telling TreeMap.getElem?_insert_self)
  · rw [decide_eq_false many, when_false]
    exact places.owe (.gather sender number outcome (Nat.not_le.mp many))

theorem sendConfirmations : Keeps Relates sendConfirmations :=
  .get fun _ => .ite (.pure _) (.bind (.forEach fun _ => places.sendOwed _) fun _ =>
    .get fun _ => .when fun _ => places.owe .forget)

theorem confirmationsOnClosed (conn : ConnId) : Keeps Relates (confirmationsOnClosed conn) :=
  .get fun _ => .bind (places.shifting (modifyConfirmer_steady rfl)) fun _ =>
    .bind (.forEach fun _ => places.sendUnresolvedAgain _) fun _ =>
      .get fun _ => .when places.sendConfirmations

end Places

namespace Ways

variable {Relates : Core → Core → Prop} (ways : Ways Relates) [Refl Relates]
  [IsTrans Core Relates]

include ways

variable {α : Type} {program : Client α} {core : Core}

theorem settling (settling : Settling anyBatch program) : Keeps Relates program :=
  .steps ways.settle settling

theorem shifting (shifting : Shifting true program) : Keeps Relates program :=
  ways.settling shifting.settling

theorem hearing (hearing : Hearing program) : Keeps Relates program :=
  .steps ways.hear hearing

omit [Refl Relates] [IsTrans Core Relates] in
theorem sendNew (frame : Frame) (all : Bool) (lane : Option LaneId) (deadline : Option Instant)
    (done : Option SendDone) : Keeps Relates (Multiplexer.sendAt frame all lane deadline 0 done) :=
  fun _ => ways.sendAt frame all lane deadline done (Nat.zero_le _)

theorem closeBatches : Keeps Relates closeBatches :=
  .get fun _ => .forEach fun _ => ways.closeBatch _ _

theorem closeOnItsOwn (began : Nat) : Keeps Relates (closeOnItsOwn began) :=
  .get fun _ => .forEach fun _ => ways.closeBatch _ _

theorem closeIdleBatches (idle : Option ConnId) : Keeps Relates (closeIdleBatches idle) :=
  .get fun _ => .forEach fun _ => ways.closeBatch _ _

theorem closeIdleBatchesIfIdle : Keeps Relates closeIdleBatchesIfIdle :=
  .get fun _ => .when (ways.closeIdleBatches _)

theorem goAlone (joining : Joining) (delivery : Delivery) (keep : Bool)
    (done : Option ProgramDone) : Keeps Relates (goAlone joining delivery keep done) := by
  refine .bind ways.closeBatches fun _ => .get fun _ => .ite (fun core => ?_)
    (ways.sendNew _ _ _ _ _)
  rw [after_bind]
  have fresh : ∀ record ∈ [(Multiplexer.recordOf joining true keep done).value core],
      record.number = 0 := fun _ member =>
    List.mem_singleton.mp member ▸ recordOf_number joining true keep done core
  exact trans_of Relates (ways.recordOf joining true keep done core)
    (Keeps.bind (ways.sendBatch _ _ fresh) (fun _ => .pure _) _)

theorem batch (joining : Joining) (delivery : Delivery) (keep : Bool)
    (done : Option ProgramDone) : Keeps Relates (batch joining delivery keep done) := by
  refine .get fun core => ?_
  dsimp only
  split
  · exact ways.join _ _ _ _ _
  · exact .bind (.ifSome fun _ => ways.closeOnItsOwn _) fun _ => .get fun _ =>
      .ite (ways.goAlone _ _ _ _) (ways.opening _ _ _ _)

omit [Refl Relates] in
theorem placeNumbered {frame : Frame} {pinned : Bool} {deadline : Option Instant} {conn : ConnId}
    {lane through : Option LaneId} {onwards : Nat → Option TrackerId → Client α}
    (rest : ∀ number placed, Keeps Relates (onwards number placed)) :
    Keeps Relates (numberOrNext 0 >>= fun number =>
      Multiplexer.placeOn conn (outFrame frame pinned false number deadline through) none false
        lane >>= onwards number) :=
  fun _ => numberOrNext_relates (fun shift => ways.settle (.shift shift)) (Nat.zero_le _) fun fits =>
    Keeps.bind_at (ways.placeOn conn false lane fits) (rest _)

theorem scheduleOne (frame : Frame) (pinned : Bool) (timeout : Option Duration)
    (lane : Option LaneId) : Keeps Relates (scheduleOne frame pinned timeout 0 lane) := by
  refine .bind ways.closeBatches fun _ => .get fun core => ?_
  dsimp only
  split
  case' h_1 => refine .bind (.pure _) fun chosen => ?_
  case' h_2 => refine .bind (ways.shifting chooseConnection_shifting) fun chosen => ?_
  all_goals
    cases chosen with
    | none => exact .pure _
    | some =>
      apply ways.placeNumbered
      intro _ placed
      cases placed with
      | none => exact .pure _
      | some => exact .bind (ways.taken _ _) fun _ => .pure _

theorem scheduleOn (frame : Frame) (pinned : Bool) (wrapper : Wrapper) (timeout : Option Duration)
    (lane through : Option LaneId) :
    Keeps Relates (scheduleOn frame pinned wrapper timeout 0 lane through) := by
  refine .get fun core => ?_
  split
  · exact .pure _
  · refine .ite (.pure _) (.bind ways.closeBatches fun _ => ?_)
    apply ways.placeNumbered
    intro _ placed
    cases placed with
    | none => exact .pure _
    | some => exact .bind (ways.taken _ _) fun _ => .pure _

theorem scheduleOnEach {frame : OutFrame} (conns : List ConnId)
    (fits : frame.number ≤ core.outbox.lastNumber) :
    Relates core ((scheduleOnEach frame conns).after core) := by
  induction conns generalizing core with
  | nil => exact refl_of Relates core
  | cons conn _ ih =>
    have placed := ways.placeOn conn true none fits
    have onwards := ih (fits.trans (ways.numbers placed))
    unfold Multiplexer.scheduleOnEach
    rw [after_bind]
    cases (Multiplexer.placeOn conn frame none true none).value core with
    | none | some tracker => exact trans_of Relates placed onwards

theorem scheduleAll (frame : Frame) (timeout : Option Duration) :
    Keeps Relates (scheduleAll frame timeout 0) := by
  refine .get fun _ => .ite (.pure _) (.bind ways.closeBatches fun _ start => ?_)
  refine numberOrNext_relates (fun shift => ways.settle (.shift shift)) (Nat.zero_le _) fun {later number} fits => ?_
  rw [after_get_bind]
  exact Keeps.bind_at (ways.scheduleOnEach _ fits) fun _ =>
    .bind (.when (ways.taken _ _)) fun _ => .pure _

theorem send (frame : Frame) (all : Bool) (lane : Option LaneId) (timeout : Option Duration)
    {number : Nat} (keep : Bool) (done : Option ProgramDone) (mayBatch : Bool)
    (fits : number ≤ core.outbox.lastNumber) :
    Relates core ((send frame all lane timeout number keep done mayBatch).after core) := by
  unfold Multiplexer.send
  rw [after_get_bind]
  dsimp only
  split
  · exact refl_of Relates core
  · split
    · exact ways.batch _ _ _ _ core
    · have closed := ways.closeBatches core
      exact trans_of Relates closed
        (ways.sendAt _ _ _ _ _ (fits.trans (ways.numbers closed)))

theorem sendPlain (plain : Plain) (timeout : Option Duration) {number : Nat}
    (fits : number ≤ core.outbox.lastNumber) :
    Relates core ((sendPlain plain timeout number).after core) := by
  unfold Multiplexer.sendPlain
  rw [after_get_bind]
  dsimp only
  split
  · exact refl_of Relates core
  · split
    · exact Keeps.bind_at (ways.batch _ _ _ _ core) fun _ => .pure _
    · have closed := ways.closeBatches core
      exact trans_of Relates closed (Keeps.bind_at
        (ways.sendAt _ _ _ _ _ (fits.trans (ways.numbers closed))) fun _ => .pure _)

theorem placePlain (plain : Plain) (deadline : Option Instant) :
    Keeps Relates (placePlain plain deadline) := by
  intro core
  have numbered := ways.shifting nextNumber_shifting core
  refine trans_of Relates numbered ?_
  unfold Multiplexer.placePlain
  rw [after_bind, after_get_bind]
  split
  · exact ways.settling (reportDrop_settling _ _ _ trivial) _
  · exact Keeps.bind_at (ways.sendPlain plain _ le_rfl) fun _ =>
      .when (ways.settling (reportDrop_settling _ _ _ trivial))

theorem placeSend (frame : Frame) (all : Bool) (lane : Option LaneId)
    (deadline : Option Instant) (wait : Bool) (settled : Option CallbackId) :
    Keeps Relates (placeSend frame all lane deadline wait settled) := by
  intro core
  have numbered := ways.shifting nextNumber_shifting core
  refine trans_of Relates numbered ?_
  unfold Multiplexer.placeSend
  rw [after_bind, after_get_bind]
  have onwards : ∀ (start later : Core) (id : Option Nat) (number : Nat),
      number ≤ later.outbox.lastNumber → Relates later ((do
        let sent ← Multiplexer.send frame all lane (if wait then (deadline.map (· - start.now)).map
          (· + ROOM_GRACE_SECONDS) else deadline.map (· - start.now)) number false
          (id.map ProgramDone.settle) (!wait)
        when (!sent.accepted) do
          reportDrop none { reportFrame frame.id frame.type number with forAll := all }
            .connectionLost
          ifSome id fun id => settleSend id 0 true : Client Unit).after later) := by
    intro _ _ _ _ fits
    exact Keeps.bind_at (ways.send _ _ _ _ _ _ _ fits) fun _ =>
      .when (.bind (ways.settling (reportDrop_settling _ _ _ trivial)) fun _ =>
        .ifSome fun _ => ways.shifting (settleSend_shifting _ _ _))
  dsimp only
  split
  · exact Keeps.bind (ways.settling (reportDrop_settling _ _ _ trivial))
      (fun _ => .ifSome fun _ => ways.shifting (call_shifting _)) _
  · cases settled with
    | some settled =>
      have follows := ways.shifting (followSend_shifting settled wait deadline)
        (nextNumber.after core)
      have sends := onwards (nextNumber.after core)
        ((followSend settled wait deadline).after (nextNumber.after core))
        (some ((followSend settled wait deadline).value (nextNumber.after core)))
        (nextNumber.value core) (ways.numbers follows)
      exact trans_of Relates follows sends
    | none =>
      exact onwards (nextNumber.after core) (nextNumber.after core) none (nextNumber.value core)
        le_rfl

theorem setDelivery (type : Nat) (key : Option String) (delivery : Delivery) :
    Keeps Relates (setDelivery type key delivery) := by
  refine .when (.bind ways.closeBatches fun _ => ways.deliveries fun batcher => ?_)
  cases key <;> exact ⟨_, _, rfl⟩

theorem clearDelivery (type : Nat) (key : Option String) :
    Keeps Relates (clearDelivery type key) := by
  refine .bind ways.closeBatches fun _ => ways.deliveries fun batcher => ?_
  cases key <;> exact ⟨_, _, rfl⟩

theorem beginFlush (done : Option FlushDone) : Keeps Relates (beginFlush done) := by
  refine .gets fun before => .bind ways.closeBatches fun _ => .bind ways.sendConfirmations
    fun _ => .get fun core => .bind (.when (ways.hearing processCallbacks_hearing))
      fun _ later => ?_
  exact trans_of Relates (ways.flush later _ _ _)
    (Keeps.bind (ways.shifting checkFlushes_shifting) (fun _ => .pure _) _)

end Ways

/-- What placing a frame keeps, all that sends keeps. -/
theorem Places.ways {Relates : Core → Core → Prop} [Refl Relates] [IsTrans Core Relates]
    (places : Places Relates) : Ways Relates where
  numbers := places.numbers
  settle settle := settle.loose.within places.shift
  hear hear := hear.loose.within places.shift
  taken := places.taken
  flush := places.flush
  sendAt := places.sendAt
  placeOn := places.placeOn
  recordOf _ _ _ _ := places.shifting (recordOf_shifting _ _ _ _)
  sendBatch _ _ _ := places.sendBatch _ _
  closeBatch := places.closeBatch
  join := places.join
  opening _ _ _ _ := .bind (places.openBatch _ _ _) fun _ => places.join _ _ _ _ _
  batchTimerFired := places.batchTimerFired
  stopBatching := places.stopBatching
  deliveries same := places.modifyBatcher fun batcher => by
    obtain ⟨_, _, eq⟩ := same batcher
    rw [eq]
  confirm := places.confirm
  sendConfirmations := places.sendConfirmations
  onConfirmation := places.onConfirmation
  confirmTimerFired := places.confirmTimerFired
  confirmationsOnClosed := places.confirmationsOnClosed

end Multiplexer
