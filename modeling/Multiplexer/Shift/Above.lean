import Multiplexer.Shift.Outbox

/-! The same above the outbox: confirmed batches, queries, acknowledged changes, what arrives,
and the calls the threaded client keeps. -/

set_option autoImplicit false

namespace Multiplexer

open Program

variable {strict : Bool}

/-! ## Confirmed batches -/

theorem numbered_shifting (deadline : Option Instant) (records : List Record) :
    Shifting false (numbered deadline records) := by
  induction records with
  | nil => exact .pure _
  | cons record rest ih =>
    have onwards : ∀ record, Shifting false (numbered deadline rest >>= fun rest => pure (record :: rest)) :=
      fun _ => .bind ih fun _ => .pure _
    unfold numbered
    dsimp only
    split
    · exact .bind (modifyConfirmer_steady rfl) fun _ =>
        .get fun _ => .bind (noteConfirm_shifting rfl) fun _ => onwards _
    · exact onwards record

theorem rebuildRuns_shifting (batch : Nat) : Shifting false (rebuildRuns batch) := by
  refine .get fun core => ?_
  split
  · exact .pure _
  · exact modifyConfirmer_steady rfl

theorem cannotConfirm_shifting (records : List Record) : Shifting false (cannotConfirm records) :=
  .forEach fun _ => .bind (noteConfirm_shifting rfl) fun _ => confirmedEnd_shifting _ _ _ _ _ _ _ _

theorem batchFrame_shifting (batch : Batch) (id : Nat) (records : List Record) :
    Shifting false (batchFrame batch id records) := by
  unfold batchFrame
  dsimp only
  split
  · exact .bind (numbered_shifting _ _) fun _ => .get fun _ => .pure _
  · exact .get fun _ => .pure _

theorem recordOf_shifting (joining : Joining) (confirm keep : Bool) (done : Option ProgramDone) :
    Shifting false (recordOf joining confirm keep done) := by
  have named : ∀ tracker, Shifting false (if confirm then do
      modifyConfirmer fun confirmer => { confirmer with tickets := confirmer.tickets + 1 }
      let core ← get
      noteConfirm (.sent core.confirmer.tickets joining.id)
      pure (⟨joining.body, joining.id, done, tracker, 0, core.confirmer.tickets⟩ : Record)
    else pure ⟨joining.body, joining.id, done, tracker, 0, 0⟩) := fun _ =>
    .ite (.bind (modifyConfirmer_steady rfl) fun _ =>
      .get fun _ => .bind (noteConfirm_shifting rfl) fun _ => .pure _) (.pure _)
  unfold recordOf
  dsimp only
  split
  · exact .bind newRecord_shifting fun _ => named _
  · exact named none

theorem resolvedInRun_shifting (batch number count : Nat) :
    Shifting false (resolvedInRun batch number count) := by
  refine .get fun core => ?_
  dsimp only
  split
  · exact .pure _
  · split
    · exact .pure _
    · exact .ite (.pure _) (modifyConfirmer_steady rfl)

theorem takeAgain_shifting (bodies : List (Body Message)) (indexes : List Nat)
    (confirming : Confirming) : Shifting false (takeAgain bodies indexes confirming) := by
  induction indexes generalizing confirming with
  | nil => exact .pure _
  | cons _ _ ih =>
    exact .ite (ih confirming)
      (.bind (modifyConfirmer_steady rfl) fun _ =>
        .bind (ih _) fun _ => .pure _)

theorem giveUpAgain_shifting (batch : Nat) (indexes : List Nat) (confirming : Confirming) :
    Shifting false (giveUpAgain batch indexes confirming) := by
  induction indexes generalizing confirming with
  | nil => exact .pure _
  | cons _ _ ih =>
    exact .bind (resolveIn_shifting _ _ _ _ _) fun _ =>
      .bind (.when (resolvedInRun_shifting _ _ _)) fun _ => ih _

theorem putBack_shifting (batch : Nat) (confirming : Confirming) :
    Shifting false (putBack batch confirming) :=
  .bind (modifyConfirmer_steady rfl) fun _ =>
    .bind (rebuildRuns_shifting batch) fun _ => forgetResolved_shifting batch

theorem confirmedBatchNotTaken_shifting (envelope : Nat) :
    Shifting false (confirmedBatchNotTaken envelope) := by
  refine .get fun core => ?_
  split
  · exact .pure _
  · exact .bind (modifyConfirmer_steady rfl) fun _ =>
      .bind (confirmingDue_shifting _) fun _ => .pure _

theorem resolvedAtOnce_shifting (segment : Segment) (processed : Bool) :
    Shifting false (resolvedAtOnce segment processed) := by
  refine .get fun core => ?_
  split
  · exact .pure _
  · exact .ite (.pure _)
      (.bind (modifyConfirmer_steady rfl) fun _ =>
        .bind (.forEach fun _ => noteConfirm_shifting rfl) fun _ =>
          .bind (.when postCallbacks_shifting) fun _ => .pure _)

theorem resolveSegment_shifting (segment : Segment) (processed : Bool) (reason : DropReason) :
    Shifting false (resolveSegment segment processed reason) := by
  refine .bind (resolvedAtOnce_shifting segment processed) fun resolved => ?_
  cases resolved with
  | some => exact .pure _
  | none => exact resolveInBatch_shifting _ _ _ _ _

/-- Confirmations heard leave what waits and the connections alone. -/
theorem hearSegments_shifting (processed : Bool) (reason : DropReason) (segments : List Segment) :
    Shifting false (hearSegments processed reason segments) := by
  induction segments with
  | nil => exact .pure _
  | cons _ _ ih =>
    exact .bind (resolveSegment_shifting _ _ _) fun _ =>
      .bind (.when (resolvedInRun_shifting _ _ _)) fun _ => .bind ih fun _ => .pure _

theorem heardOf_shifting (batch : Nat) : Shifting false (heardOf batch) := by
  refine .get fun core => ?_
  split
  · exact .pure _
  · exact .ite (forgetResolved_shifting batch)
      (.bind (modifyConfirmer_steady rfl) fun _ =>
        confirmingDue_shifting batch)

theorem giveUpConfirmations_shifting (reason : DropReason) :
    Shifting false (giveUpConfirmations reason) :=
  .get fun _ => .bind (modifyConfirmer_steady rfl) fun _ =>
    .bind (.forEach fun _ => .bind (resolveEach_shifting _ _ _ _ _) fun _ => .pure _) fun _ =>
      .bind (modifyConfirmer_steady rfl) fun _ =>
        stopConfirmTimer_shifting

/-! ## Batches' timer -/

theorem armBatchTimer_shifting : Shifting false armBatchTimer := by
  intro _
  unfold armBatchTimer
  rw [after_get_bind]
  split
  · exact .refl
  · split
    · exact .refl
    · exact rearmTimer_shifts .batches rfl (fun _ kept => kept)
        (stores_batcher (fun _ _ => rfl) fun _ _ => rfl)

theorem stopBatchTimer_shifting : Shifting false stopBatchTimer := by
  intro _
  unfold stopBatchTimer
  rw [after_get_bind]
  exact Keeps.bind_at (cancelTimer_shifts .batches nofun fun _ kept => kept) fun _ =>
    modifyBatcher_shifting (fun _ => rfl) fun _ => .inr rfl

/-! ## What a query only tells -/

theorem getQuery_shifting {α : Type} {query : QueryId} {next : Option InFlight → Client α}
    (rest : ∀ found, Shifting strict (next found)) : Shifting strict (getQuery query >>= next) :=
  .gets rest

theorem postFill_shifting : Shifting strict postFill :=
  .get fun _ => .ite (.pure _)
    (.bind (fun core => .single (.hush { Silent.refl core with } rfl)) fun _ =>
      post_shifting nofun)

theorem acknowledged_shifting (query : QueryId) (message : Message) :
    Shifting strict (acknowledged query message) := by
  refine getQuery_shifting fun found => ?_
  cases found with
  | none => exact .pure _
  | some => exact .ite (.pure _) (.ifSome fun _ => call_shifting _)

theorem followHandover_shifting (query : QueryId) : Shifting strict (followHandover query) := by
  refine getQuery_shifting fun found => ?_
  cases found with
  | none => exact .pure _
  | some => exact post_shifting nofun

/-! ## Acknowledged changes -/

theorem runAcknowledgedCallbacks_shifting : Shifting strict runAcknowledgedCallbacks :=
  .get fun _ => .ite (.pure _) (.bind (modifyClient_shifting fun _ => rfl) fun _ =>
    .forEach fun _ => call_shifting _)

theorem changeAcknowledged_shifting : Shifting strict changeAcknowledged :=
  .bind (modifyClient_shifting fun _ => rfl) fun _ =>
    .get fun _ => .when runAcknowledgedCallbacks_shifting

theorem acknowledgedByReceive_shifting : Shifting strict acknowledgedByReceive :=
  .get fun _ => .when changeAcknowledged_shifting

/-! ## What arrives -/

theorem askSearchPolicy_shifting : Shifting strict askSearchPolicy := by
  refine .get fun core => ?_
  split
  · exact .pure _
  · exact .bind (modifyThreaded_shifting fun _ _ _ kept => kept) fun _ => .pure _

theorem refuseArrivals_shifting : Shifting strict refuseArrivals := modifyClient_shifting fun _ => rfl

theorem loseEntry_shifting (entry : QueueEntry) : Shifting strict (loseEntry entry) :=
  .get fun _ => .bind (setTracker_shifting _ _) fun _ => .when (trackedMessageDone_shifting _ _)

theorem wroteEntry_shifting (conn : ConnId) (entry : QueueEntry) :
    Shifting strict (wroteEntry conn entry) :=
  .bind (note_shifting rfl rfl) fun _ => .get fun _ => .bind (setTracker_shifting _ _) fun _ =>
    .when (trackedMessageDone_shifting _ _)

/-! ## Calls that wait -/

theorem Threaded.slot_of_connects (threaded : Threaded) {connects : List ConnectWaiter}
    {keeper : Keeper} {key : TimerKey} (kept : { threaded with connects }.Slot keeper key)
    (fewer : ∀ waiter ∈ connects, waiter.timer = some key → waiter ∈ threaded.connects) :
    threaded.Slot keeper key := by
  cases keeper with
  | connect =>
    obtain ⟨waiter, waits, named, kept⟩ := kept
    exact ⟨waiter, fewer waiter waits kept, named, kept⟩
  | _ => exact kept

theorem endConnect_shifting (id : Nat) (up : Bool) : Shifting strict (endConnect id up) := by
  intro core
  unfold endConnect
  rw [after_get_bind]
  split
  · exact .refl
  · rename_i waiter found
    have member := List.mem_of_find?_eq_some found
    have first : Shifts strict core ((cancelTimer waiter.timer).after core) :=
      cancelTimer_shifts (.connect waiter.id) (fun _ => rfl) fun _ kept => ⟨waiter, member, rfl, kept⟩
    have rest : Shifting strict (do
        modifyThreaded fun threaded =>
          { threaded with connects := threaded.connects.eraseP (·.id = id) }
        call (.callback waiter.done)) :=
      .bind (modifyThreaded_shifting fun threaded _ _ kept => threaded.slot_of_connects kept
        fun _ waits _ => List.mem_of_mem_eraseP waits) fun _ => call_shifting _
    exact first.trans (rest _)

theorem connectWaitExpired_shifting (id : Nat) : Shifting strict (connectWaitExpired id) := by
  refine .bind (modifyThreaded_shifting fun threaded _ _ kept => threaded.slot_of_connects kept ?_)
    fun _ => endConnect_shifting id false
  intro waiter waits timer
  obtain ⟨before, member, rfl⟩ := List.mem_map.mp waits
  split at timer
  · exact nomatch timer
  · rename_i other
    rw [if_neg other]
    exact member

theorem flushWaitExpired_shifting (id : Nat) : Shifting strict (flushWaitExpired id) := by
  refine .bind (modifyThreaded_shifting fun threaded keeper key kept => ?_)
    fun _ => endFlushWait_shifting id false
  cases keeper with
  | flush each =>
    obtain ⟨wait, waits, named, kept⟩ := kept
    obtain ⟨before, member, rfl⟩ := List.mem_map.mp waits
    split at kept
    · exact nomatch kept
    · rename_i other
      rw [if_neg other] at named
      exact ⟨before, member, named, kept⟩
  | _ => exact kept

/-! ## Sends that are followed -/

theorem armSendExpiry_shifting : Shifting strict armSendExpiry := by
  refine .bind (modifyThreaded_shifting fun _ _ _ kept => kept) fun _ core => ?_
  rw [after_get_bind]
  split
  · refine Keeps.bind_at (cancelTimer_shifts .sends (fun _ => rfl) fun _ kept => kept) fun _ =>
      modifyThreaded_shifting fun threaded keeper key kept => ?_
    cases keeper with
    | sends => exact nomatch kept
    | _ => exact kept
  · split
    · exact .refl
    · refine rearmTimer_shifts .sends rfl (fun _ kept => kept)
        (stores_threaded rfl fun key threaded each other kept => ?_)
      cases each with
      | sends => exact .inr ⟨rfl, (Option.some.inj kept).symm⟩
      | _ => exact .inl kept

theorem Threaded.compactExpiring_slot {threaded : Threaded} {keeper : Keeper} {key : TimerKey}
    (kept : threaded.compactExpiring.Slot keeper key) : threaded.Slot keeper key := by
  unfold compactExpiring at kept
  split at kept
  · exact kept
  · exact kept

theorem expireSendAt_shifting (id : Nat) (deadline : Option Instant) :
    Shifting strict (expireSendAt id deadline) :=
  .ifSome fun _ => .get fun _ =>
    .bind (modifyThreaded_shifting fun _ _ _ kept => Threaded.compactExpiring_slot kept) fun _ =>
      .when armSendExpiry_shifting

theorem followSend_shifting (settled : CallbackId) (wait : Bool) (deadline : Option Instant) :
    Shifting strict (followSend settled wait deadline) :=
  .get fun _ => .bind (modifyThreaded_shifting fun _ _ _ kept => kept) fun _ =>
    .bind (.when (expireSendAt_shifting _ _)) fun _ => .pure _

theorem sendsExpireLoop_shifting (steps : Nat) : Shifting strict (sendsExpireLoop steps) := by
  induction steps with
  | zero => exact .pure _
  | succ _ ih =>
    refine .get fun core => ?_
    split
    · exact .pure _
    · exact .ite (.pure _) (.bind (modifyThreaded_shifting fun _ _ _ kept => kept) fun _ =>
        .bind (settleSend_shifting _ _ _) fun _ => ih)

theorem sendsExpire_shifting : Shifting strict sendsExpire := by
  refine .bind (modifyThreaded_shifting fun threaded keeper key kept => ?_) fun _ =>
    .get fun _ => .bind (sendsExpireLoop_shifting _) fun _ => armSendExpiry_shifting
  cases keeper with
  | sends => exact nomatch kept
  | _ => exact kept

theorem registerInbox_shifting : Shifting strict registerInbox :=
  .get fun _ => .when (modifyThreaded_shifting fun _ _ _ kept => kept)

theorem registerSubscription_shifting (type : Nat) : Shifting strict (registerSubscription type) :=
  .get fun _ => .when (modifyThreaded_shifting fun _ _ _ kept => kept)

end Multiplexer
