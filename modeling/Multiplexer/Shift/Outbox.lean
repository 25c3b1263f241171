import Multiplexer.Library.Lookup
import Multiplexer.Shift.Basic

/-! The parts of the outbox that only tell and count: flushes, follows, confirmed messages
resolved, drops reported, deadlines. -/

set_option autoImplicit false

namespace Multiplexer

open Program List Std

variable {strict : Bool}

/-! ## Flushes -/

theorem postCallbacks_shifting : Shifting strict postCallbacks :=
  .get fun _ => .ite (.pure _)
    (.bind (modifyOutbox_shifting fun outbox =>
      { Outbox.Same.refl outbox with callbacks := fun _ => rfl }) fun _ => post_shifting nofun)

theorem followEvent_shifting (tracker : TrackerId) (written : Bool) :
    Shifting strict (followEvent tracker written) :=
  .get fun _ => .ite
    (.bind (modifyOutbox_shifting fun _ => .of_eq rfl) fun _ => postCallbacks_shifting)
    (.pure _)

def Flush.count (flush : Flush) : Nat × Nat := (flush.lastNumber, flush.waiting)

theorem changeEach_count {change : Flush → Flush} (same : ∀ flush, (change flush).count = flush.count)
    (flushes : List FlushId) (states : TreeMap FlushId Flush) :
    (fun id => (changeEach flushes change states)[id]?.map Flush.count) =
      fun id : FlushId => states[id]?.map Flush.count := by
  induction flushes generalizing states with
  | nil => rfl
  | cons id _ ih => exact (ih _).trans (Lookup.modify_view_self states id Flush.count same)

theorem changeFlushes_shifting {change : Flush → Flush}
    (same : ∀ flush, (change flush).count = flush.count) : Shifting strict (changeFlushes change) :=
  modifyOutbox_shifting fun outbox =>
    { Outbox.Same.refl outbox with
      counts := fun id _ => congrFun (changeEach_count same outbox.flushes outbox.flushStates) id }

theorem Flush.losing_count (number : Nat) (flush : Flush) :
    (flush.losing number).count = flush.count := by
  unfold losing
  split <;> rfl

theorem Flush.losingConfirmed_count (number : Nat) (flush : Flush) :
    (flush.losingConfirmed number).count = flush.count := by
  unfold losingConfirmed
  split <;> rfl

theorem Flush.marking_count (number : Nat) (tracker : TrackerId) (conn : ConnId) (flush : Flush) :
    (flush.marking number tracker conn).count = flush.count := by
  unfold marking
  split <;> rfl

theorem flushesLost_shifting (number : Nat) : Shifting strict (flushesLost number) :=
  changeFlushes_shifting (Flush.losing_count number)

theorem flushesLostConfirmed_shifting (number : Nat) : Shifting strict (flushesLostConfirmed number) :=
  changeFlushes_shifting (Flush.losingConfirmed_count number)

theorem queued_shifting (number : Nat) (tracker : TrackerId) (conn : ConnId) :
    Shifting strict (queued number tracker conn) :=
  changeFlushes_shifting (Flush.marking_count number tracker conn)

theorem endFlush_shifting (flush : FlushId) : Shifting strict (endFlush flush) := by
  refine modifyOutbox_shifting fun outbox =>
    { Outbox.Same.refl outbox with
      flushes := filter_sublist
      counts := fun id waits => ?_ }
  have other : id ≠ flush := by simpa using (mem_filter.mp waits).2
  change (outbox.flushStates.erase flush)[id]?.map _ = outbox.flushStates[id]?.map _
  rw [Lookup.erase_apply, if_neg other]

theorem Threaded.slot_of_waits (threaded : Threaded) {flushWaits : List FlushWait}
    {keeper : Keeper} {key : TimerKey} (kept : { threaded with flushWaits }.Slot keeper key)
    (fewer : flushWaits ⊆ threaded.flushWaits) : threaded.Slot keeper key := by
  cases keeper with
  | flush =>
    obtain ⟨wait, waits, kept⟩ := kept
    exact ⟨wait, fewer waits, kept⟩
  | _ => exact kept

theorem endFlushWait_shifting (id : Nat) (flushed : Bool) : Shifting strict (endFlushWait id flushed) := by
  intro core
  unfold endFlushWait
  rw [after_get_bind]
  split
  · exact .refl
  · rename_i wait found
    have member := mem_of_find?_eq_some found
    -- the wait is taken out first, which its timer's key does not see
    have first : Shifts strict core ((cancelTimer wait.timer).after core) :=
      cancelTimer_shifts (.flush wait.id) (fun _ => rfl) fun _ kept => ⟨wait, member, rfl, kept⟩
    have rest : Shifting strict (do
        modifyThreaded fun threaded =>
          { threaded with flushWaits := threaded.flushWaits.eraseP (·.id = id) }
        ifSome wait.flush endFlush
        call (.callback wait.done)) :=
      .bind (modifyThreaded_shifting fun threaded _ _ kept => threaded.slot_of_waits kept
        eraseP_subset) fun _ =>
        .bind (.ifSome endFlush_shifting) fun _ => call_shifting _
    have whole := first.trans (rest _)
    cases found : wait.flush with
    | none | some flush =>
      rw [found] at whole
      exact whole

theorem tellFlush_shifting (id : FlushId) : Shifting strict (tellFlush id) := by
  intro core
  unfold tellFlush
  rw [after_get_bind]
  split
  · exact .refl
  · rename_i flush found
    have count : Flush.count { flush with done := none } = flush.count := rfl
    have told : Outbox.Same core.outbox
        { core.outbox with
          flushStates := core.outbox.flushStates.insert id { flush with done := none } } :=
      { Outbox.Same.refl core.outbox with
        counts := fun each _ => congrFun (Lookup.insert_view_self core.outbox.flushStates id
          Flush.count found count) each }
    refine Keeps.bind_at (.single (.hush { Silent.refl core with outbox := told } rfl)) fun _ => .bind (note_shifting rfl rfl) fun _ => ?_
    split
    · exact endFlushWait_shifting _ _
    · exact post_shifting nofun
    · exact .pure _

theorem flushPass_sublist (trackers : TrackerId → SendState) (unconfirmed : Option Nat)
    (flushes : List FlushId) (states : TreeMap FlushId Flush) :
    (flushPass trackers unconfirmed flushes states).1.Sublist flushes := by
  induction flushes generalizing states with
  | nil => exact .slnil
  | cons _ _ ih =>
    unfold flushPass
    split
    · exact (ih states).cons _
    · dsimp only
      split
      · exact (ih _).cons_cons _
      · exact (ih _).cons _

theorem flushPass_count (trackers : TrackerId → SendState) (unconfirmed : Option Nat)
    (flushes : List FlushId) (states : TreeMap FlushId Flush) :
    (fun id => (flushPass trackers unconfirmed flushes states).2.2[id]?.map Flush.count) =
      fun id : FlushId => states[id]?.map Flush.count := by
  induction flushes generalizing states with
  | nil => rfl
  | cons id rest ih =>
    unfold flushPass
    split
    · exact ih states
    · rename_i flush found
      dsimp only
      split
      · exact (ih _).trans (Lookup.insert_view_self states id Flush.count found rfl)
      · exact (ih _).trans (Lookup.insert_view_self states id Flush.count found rfl)

/-- Flushes that are over are told without a change to what waits. -/
theorem checkFlushes_shifting : Shifting strict checkFlushes := by
  intro core
  unfold checkFlushes
  rw [after_get_bind]
  split
  · exact .refl
  · have passed : Outbox.Same core.outbox
        { core.outbox with
          flushes := (flushPass core.trackers core.firstUnconfirmed core.outbox.flushes
            core.outbox.flushStates).1
          flushStates := (flushPass core.trackers core.firstUnconfirmed core.outbox.flushes
            core.outbox.flushStates).2.2 } :=
      { Outbox.Same.refl core.outbox with
        flushes := flushPass_sublist _ _ _ _
        counts := fun id _ => congrFun (flushPass_count _ _ _ _) id }
    exact Keeps.bind_at (.single (.hush { Silent.refl core with outbox := passed } rfl)) fun _ => .forEach tellFlush_shifting

theorem trackedMessageDone_shifting (tracker : TrackerId) (written : Bool) :
    Shifting strict (trackedMessageDone tracker written) :=
  .bind (followEvent_shifting tracker written) fun _ => checkFlushes_shifting

theorem follow_shifting (copies : List TrackerId) (done : SendDone) :
    Shifting strict (follow copies done) :=
  .get fun _ => .bind (modifyOutbox_shifting fun _ => .of_eq rfl) fun _ =>
    .bind (.forEach fun copy => followEvent_shifting copy false) fun _ => .pure _

/-! ## Confirmed messages -/

theorem stopConfirmTimer_shifting : Shifting false stopConfirmTimer := by
  intro _
  unfold stopConfirmTimer
  rw [after_get_bind]
  exact Keeps.bind_at (cancelTimer_shifts .confirmations nofun fun _ kept => kept) fun _ =>
    modifyConfirmer_shifting (fun _ => rfl) (fun _ => rfl) fun _ => .inr rfl

theorem armConfirmTimer_shifting : Shifting false armConfirmTimer := by
  intro core
  unfold armConfirmTimer
  rw [after_get_bind]
  split
  · exact .refl
  · split
    · exact stopConfirmTimer_shifting core
    · split
      · exact .refl
      · exact rearmTimer_shifts .confirmations rfl (fun _ kept => kept)
          (stores_confirmer (fun _ _ => rfl) (fun _ _ => rfl) fun _ _ => rfl)

theorem confirmingDue_shifting (batch : Nat) : Shifting false (confirmingDue batch) := by
  refine .get fun core => ?_
  split
  · exact .pure _
  · refine .ite (.pure _) (.bind (modifyConfirmer_steady rfl) fun _ => ?_)
    split
    · exact .bind (modifyConfirmer_steady rfl) fun _ =>
        .when armConfirmTimer_shifting
    · exact .get fun _ => .when stopConfirmTimer_shifting

theorem reportRecordDrop_shifting (ticket id : Nat) (reason : DropReason) :
    Shifting false (reportRecordDrop ticket id reason) :=
  .bind (noteConfirm_shifting rfl) fun _ => .bind (modifyClient_shifting fun _ => rfl) fun _ =>
    .get fun _ => .when (.bind (modifyOutbox_shifting fun _ => .of_eq rfl) fun _ =>
      postCallbacks_shifting)

theorem confirmedEnd_shifting (ticket id number : Nat) (tracker : Option RecordId)
    (done : Option ProgramDone) (processed : Bool) (reason : DropReason) (report : Bool) :
    Shifting false (confirmedEnd ticket id number tracker done processed reason report) :=
  .bind (.when (.bind (flushesLostConfirmed_shifting _) fun _ =>
      .when (reportRecordDrop_shifting ticket id reason))) fun _ =>
    .bind (.ifSome fun tracker => endRecord_shifting tracker processed) fun _ =>
      .bind (.ifSome fun _ => modifyConfirmer_steady rfl) fun _ =>
        .get fun _ => .when postCallbacks_shifting

theorem resolveIn_shifting (confirming : Confirming) (index : Nat) (processed : Bool)
    (reason : DropReason) (report : Bool) :
    Shifting false (resolveIn confirming index processed reason report) :=
  .ite (.pure _) (.bind (modifyConfirmer_steady rfl) fun _ =>
    .bind (noteConfirm_shifting rfl) fun _ =>
      .bind (confirmedEnd_shifting _ _ _ _ _ _ _ _) fun _ => .pure _)

theorem resolveEach_shifting (processed : Bool) (reason : DropReason) (report : Bool)
    (indexes : List Nat) (confirming : Confirming) :
    Shifting false (resolveEach processed reason report indexes confirming) := by
  induction indexes generalizing confirming with
  | nil => exact .pure _
  | cons index _ ih =>
    exact .bind (resolveIn_shifting confirming index processed reason report) fun _ =>
      .bind (ih _) fun _ => .pure _

theorem resolveInBatch_shifting (batch : Nat) (indexes : Confirming → List Nat) (processed : Bool)
    (reason : DropReason) (report : Bool) :
    Shifting false (resolveInBatch batch indexes processed reason report) := by
  refine .get fun core => ?_
  split
  · exact .pure _
  · exact .bind (modifyConfirmer_steady rfl) fun _ =>
      .bind (resolveEach_shifting _ _ _ _ _) fun _ =>
        .bind (modifyConfirmer_steady rfl) fun _ => .pure _

theorem forgetResolved_shifting (batch : Nat) : Shifting false (forgetResolved batch) := by
  refine .get fun core => ?_
  split
  · exact .pure _
  · exact .ite (.pure _) (.bind (modifyConfirmer_steady rfl) fun _ =>
      .get fun _ => .when stopConfirmTimer_shifting)

theorem confirmingWritten_shifting (batch written : Nat) :
    Shifting false (confirmingWritten batch written) := by
  refine .get fun core => ?_
  split
  · exact .pure _
  · exact .ite (.bind (resolveInBatch_shifting _ _ _ _ _) fun _ => forgetResolved_shifting batch)
      (.bind (modifyConfirmer_steady rfl) fun _ =>
        confirmingDue_shifting batch)

theorem confirmedFrameDropped_shifting (batch : Nat) (reason : DropReason) :
    Shifting false (confirmedFrameDropped batch reason) :=
  .bind (resolveInBatch_shifting _ _ _ _ _) fun _ => forgetResolved_shifting batch

/-! ## Drops -/

/-- A change that leaves batches alone, or the drop of a confirmed frame that `may` names, told to
its batch. -/
inductive Settle (may : Nat → Prop) : Core → Core → Prop
  | shift {core after} (shift : Shift true core after) : Settle may core after
  | dropped {core} (batch : Nat) (reason : DropReason) (own : may batch) :
      Settle may core ((confirmedFrameDropped batch reason).after core)

abbrev Settles (may : Nat → Prop) : Core → Core → Prop := Relation.ReflTransGen (Settle may)

instance (may : Nat → Prop) : Refl (Settles may) := ⟨fun _ => .refl⟩

instance (may : Nat → Prop) : IsTrans Core (Settles may) := ⟨fun _ _ _ => .trans⟩

abbrev Settling {α : Type} (may : Nat → Prop) (program : Client α) : Prop :=
  Keeps (Settles may) program

section Drops

variable {may : Nat → Prop}

theorem Shifting.settling {α : Type} {program : Client α} (shifting : Shifting true program) :
    Settling may program :=
  fun core => Relation.ReflTransGen.mono (fun _ _ => .shift) _ _ (shifting core)

theorem Settle.loose {core after : Core} (settle : Settle may core after) :
    Shifts false core after := by
  cases settle with
  | shift shift => exact .single shift.loose
  | dropped batch reason => exact confirmedFrameDropped_shifting batch reason core

theorem Settle.mono {more : Nat → Prop} (wider : ∀ batch, may batch → more batch)
    {core after : Core} (settle : Settle may core after) : Settle more core after := by
  cases settle with
  | shift shift => exact .shift shift
  | dropped batch reason own => exact .dropped batch reason (wider batch own)

theorem reportDrop_settling (copy : Option TrackerId) (frame : OutFrame) (reason : DropReason)
    (own : may frame.id) : Settling may (reportDrop copy frame reason) := by
  have counted : Shifting true (do
      modifyClient fun client =>
        { client with dropped := client.dropped + frame.batch.elim 1 List.length }
      flushesLost frame.number
      let core ← get
      when core.client.dropObserver do
        modifyOutbox fun outbox =>
          { outbox with
            dropEvents := outbox.dropEvents ++
              (frame.batch.getD [frame.id]).map fun id => (id, reason) }
        postCallbacks) :=
    .bind (modifyClient_shifting fun _ => rfl) fun _ => .bind (flushesLost_shifting _) fun _ =>
      .get fun _ => .when (.bind
        (modifyOutbox_shifting fun _ => .of_eq rfl) fun _ =>
          postCallbacks_shifting)
  exact .bind (note_shifting rfl rfl).settling fun _ => .ite
    (.bind (flushesLost_shifting _).settling fun _ _ => .single (.dropped _ _ own))
    counted.settling

end Drops

/-! ## Ends -/

theorem settleSend_shifting (id written : Nat) (notConnected : Bool) :
    Shifting strict (settleSend id written notConnected) := by
  refine .get fun core => ?_
  split
  · exact .pure _
  · exact .bind (modifyThreaded_shifting fun _ _ _ kept => kept) fun _ => call_shifting _

theorem endProgramSend_shifting (done : ProgramDone) (written : Nat) :
    Shifting strict (endProgramSend done written) := by
  refine .bind (call_shifting _) fun _ => ?_
  cases done with
  | callback => exact call_shifting _
  | settle => exact settleSend_shifting _ _ _

theorem endBatch_shifting (ends : List (Option ProgramDone × Option RecordId)) (written : Nat) :
    Shifting strict (endBatch ends written) :=
  .forEach fun _ => .bind (.ifSome fun tracker => endRecord_shifting tracker _) fun _ =>
    .ifSome fun done => endProgramSend_shifting done written

theorem tellDrops_shifting : Shifting strict tellDrops :=
  modifyOutbox_shifting fun _ => .of_eq rfl

/-- A change in which ends are told: one that leaves batches alone, a confirmed frame written, or
the ends of confirmed messages taken. -/
inductive Hear : Core → Core → Prop
  | shift {core after} (shift : Shift true core after) : Hear core after
  | written {core} (batch written : Nat) : Hear core ((confirmingWritten batch written).after core)
  | ends {core} : Hear core { core with confirmer := { core.confirmer with ends := [] } }

abbrev Hears : Core → Core → Prop := Relation.ReflTransGen Hear

instance : Refl Hears := ⟨fun _ => .refl⟩

instance : IsTrans Core Hears := ⟨fun _ _ _ => .trans⟩

abbrev Hearing {α : Type} (program : Client α) : Prop := Keeps Hears program

theorem Shifting.hearing {α : Type} {program : Client α} (shifting : Shifting true program) :
    Hearing program :=
  fun core => Relation.ReflTransGen.mono (fun _ _ => .shift) _ _ (shifting core)

theorem Hear.loose {core after : Core} (hear : Hear core after) : Shifts false core after := by
  cases hear with
  | shift shift => exact .single shift.loose
  | written batch written => exact confirmingWritten_shifting batch written core
  | ends =>
    have taken : Shifting false (modifyConfirmer fun confirmer => { confirmer with ends := [] }) :=
      modifyConfirmer_steady rfl
    exact taken core

theorem modifyOutbox_hearing {change : Outbox → Outbox}
    (same : ∀ outbox : Outbox, outbox.Same (change outbox)) : Hearing (modifyOutbox change) :=
  (modifyOutbox_shifting same).hearing

theorem endSend_hearing (done : SendDone) (written : Nat) : Hearing (endSend done written) := by
  cases done with
  | program done => exact (endProgramSend_shifting done written).hearing
  | batch ends => exact (endBatch_shifting ends written).hearing
  | confirmed batch => exact fun _ => .single (.written batch written)

theorem runConfirmedEnds_hearing : Hearing runConfirmedEnds :=
  .get fun _ => .bind (fun _ => .single .ends) fun _ =>
    .forEach fun _ => (endProgramSend_shifting _ _).hearing

theorem endFollow_hearing (id written : Nat) : Hearing (endFollow id written) := by
  refine .get fun core => ?_
  split
  · exact .pure _
  · exact .bind (modifyOutbox_hearing fun _ => .of_eq rfl) fun _ =>
      .ite (.pure _) (.bind (modifyOutbox_hearing fun _ => .of_eq rfl) fun _ =>
        .ifSome fun done => .bind (note_shifting rfl rfl).hearing fun _ =>
          endSend_hearing done written)

theorem processFollow_hearing (tracker : TrackerId) (written : Bool) :
    Hearing (processFollow tracker written) := by
  refine .get fun core => ?_
  split
  · exact .pure _
  · refine .bind (modifyOutbox_hearing fun _ => .of_eq rfl) fun _ => ?_
    split
    · exact .pure _
    · exact .bind (modifyOutbox_hearing fun _ => .of_eq rfl) fun _ =>
        .ite (endFollow_hearing _ _) (.when (endFollow_hearing _ _))

theorem processFollows_hearing : Hearing processFollows :=
  .get fun _ => .bind (modifyOutbox_hearing fun _ => .of_eq rfl) fun _ =>
    .bind (.forEach fun _ => processFollow_hearing _ _) fun _ => checkFlushes_shifting.hearing

theorem processCallbacks_hearing : Hearing processCallbacks :=
  .bind tellDrops_shifting.hearing fun _ => .bind runConfirmedEnds_hearing fun _ =>
    processFollows_hearing

theorem endFollows_hearing : Hearing endFollows :=
  .bind tellDrops_shifting.hearing fun _ => .bind runConfirmedEnds_hearing fun _ => .bind (modifyOutbox_hearing fun _ => .of_eq rfl) fun _ =>
      .get fun _ => .bind (.forEach fun id => endFollow_hearing id 0) fun _ =>
        checkFlushes_shifting.hearing

/-! ## Numbers and places -/

theorem nextNumber_shifting : Shifting strict nextNumber :=
  .bind (modifyOutbox_shifting fun outbox =>
    { Outbox.Same.refl outbox with numbers := Nat.le_succ _ }) fun _ _ => .refl

theorem loseTracker_shifting (tracker : TrackerId) (followed : Bool) :
    Shifting strict (loseTracker tracker followed) :=
  .get fun _ => .when (.bind (setTracker_shifting _ _) fun _ =>
    .when (trackedMessageDone_shifting _ _))

theorem giveUpMessage_settling {may : Nat → Prop} (frame : OutFrame) (tracker : Option TrackerId)
    (followed : Bool) (reason : DropReason) (own : may frame.id) :
    Settling may (giveUpMessage frame tracker followed reason) :=
  .bind (trackerOrNew_shifting frame tracker).settling fun _ =>
    .bind (reportDrop_settling _ _ _ own) fun _ =>
      .bind (loseTracker_shifting _ _).settling fun _ => .pure _

theorem chooseConnection_shifting : Shifting strict chooseConnection := by
  intro core
  unfold chooseConnection
  rw [after_get_bind]
  split
  · exact .refl
  · split
    · rename_i conn found
      have rotated : (core.roundRobin.erase conn ++ [conn]).Perm core.roundRobin :=
        perm_append_comm.trans
          (perm_cons_erase (mem_of_find?_eq_some found)).symm
      exact .single (.hush { Silent.refl core with roundRobin := rotated } rfl)
    · exact .refl

theorem recordMoved_shifting (tracker : TrackerId) (conn : Wrapper) :
    Shifting strict (recordMoved tracker conn) :=
  .get fun _ => .bind (.when (modifyOutbox_shifting fun _ => .of_eq rfl)) fun _ =>
    modifyOutbox_shifting fun _ => .of_eq rfl

theorem followedConnection_shifting (tracker : TrackerId) (first : Option Wrapper) :
    Shifting strict (followedConnection tracker first) :=
  .get fun _ => .bind (modifyOutbox_shifting fun _ => .of_eq rfl) fun _ => .pure _

theorem supersede_shifting (tracker : TrackerId) : Shifting strict (supersede tracker) :=
  .get fun _ => loseTracker_shifting _ _

theorem successor_shifting (dead : ConnId) : Shifting strict (successor dead) := by
  refine .get fun core => ?_
  split
  · exact .pure _
  · dsimp only
    split
    · exact .pure _
    · refine .bind chooseConnection_shifting fun chosen => ?_
      cases chosen with
      | none => exact .pure _
      | some =>
        exact .bind (modifyOutbox_shifting fun _ => .of_eq rfl) fun _ => .pure _

end Multiplexer
