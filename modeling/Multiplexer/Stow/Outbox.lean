import Multiplexer.Stow.Basic

/-! The outbox, function by function: where a message is stowed, moved and dropped. -/

set_option autoImplicit false

namespace Multiplexer

open Program

variable {may : Nat → Prop}

/-! ## What waits -/

theorem Outbox.pushBacklog_stays (outbox : Outbox) (conn : ConnId) (key : WaitKey) :
    (outbox.pushBacklog conn key).stays = outbox.stays := by
  unfold pushBacklog
  split <;> rfl

theorem Outbox.release_stays (outbox : Outbox) (key : WaitKey) : (outbox.release key).stays = outbox.stays := by
  unfold release
  split <;> rfl

theorem Outbox.sweep_stays (outbox : Outbox) (queue : List WaitKey) :
    (outbox.sweep queue).2.stays = outbox.stays := by
  induction queue generalizing outbox with
  | nil => rfl
  | cons _ _ ih =>
    unfold sweep
    split
    · exact ih outbox
    · rw [ih, release_stays]

theorem Outbox.clearOut_stays (outbox : Outbox) (queue : List WaitKey) (live : Nat) :
    (outbox.clearOut queue live).2.stays = outbox.stays := by
  unfold clearOut
  split
  · rfl
  · exact outbox.sweep_stays queue

theorem release_stowing (key : WaitKey) : Stowing may (modifyOutbox fun outbox => outbox.release key) :=
  modifyOutbox_stowing fun outbox => outbox.release_stays key

/-! ## Counts and deadlines -/

theorem heldLeft_stowing : Stowing may heldLeft := by
  have wakes : Shifting true (modifyClient fun client => { client with acknowledgedWake := true }) :=
    modifyClient_shifting fun _ => rfl
  exact .bind (modifyOutbox_stowing fun _ => rfl) fun _ => .get fun _ => .when wakes.stowing

theorem waitFlushes_stowing (number : Nat) (copies : Int) : Stowing may (waitFlushes number copies) :=
  modifyOutbox_stowing fun _ => rfl

theorem waitingLeft_stowing (number : Nat) : Stowing may (waitingLeft number) :=
  .bind (modifyOutbox_stowing fun _ => rfl) fun _ => waitFlushes_stowing _ _

theorem cancelExpiry_stows {core : Core} {slot : Option TimerKey}
    (kept : core.outbox.timer = slot) : Stows may core ((cancelTimer slot).after core) := by
  cases slot with
  | none => exact .refl
  | some key => exact .single (.cancel key kept)

theorem armExpiry_stowing : Stowing may armExpiry := by
  refine .bind (modifyOutbox_stowing fun _ => rfl) fun _ core => ?_
  rw [after_get_bind]
  split
  · exact Keeps.bind_at (cancelExpiry_stows rfl) fun _ => emptySlot_stowing fun _ => rfl
  · split
    · exact .refl
    · exact (cancelExpiry_stows rfl).tail (.arm _ _ le_rfl rfl rfl)

theorem Outbox.compactExpiring_stays (outbox : Outbox) : outbox.compactExpiring.stays = outbox.stays := by
  unfold compactExpiring
  split <;> rfl

theorem expireAt_stowing (key : WaitKey) : Stowing may (expireAt key) := by
  refine .get fun core => ?_
  split
  · exact .pure _
  · exact .bind (modifyOutbox_stowing fun outbox => outbox.compactExpiring_stays) fun _ =>
      .when armExpiry_stowing

/-! ## What is placed, and what is dropped -/

theorem stopWaiting_stowing (key : WaitKey) (waiting : Waiting) (backlogged : Bool) :
    Stowing may (stopWaiting key waiting backlogged) :=
  .bind (modifyOutbox_stowing fun _ => rfl) fun _ =>
    .bind (.when (.ifSome fun _ => modifyOutbox_stowing fun _ => rfl)) fun _ =>
      .bind (.when heldLeft_stowing) fun _ => waitingLeft_stowing _

theorem dropExpired_stowing (key : WaitKey) : Stowing anyBatch (dropExpired key) := by
  refine .get fun core => ?_
  split
  · exact .pure _
  · refine .bind (stopWaiting_stowing _ _ _) fun _ =>
      .bind (reportDrop_settling _ _ _ trivial).stowing fun _ => .get fun _ =>
        .bind (loseTracker_shifting _ _).stowing fun _ => ?_
    split
    · exact modifyOutbox_stowing fun outbox => outbox.clearOut_stays _ _
    · refine modifyOutbox_stowing fun outbox => ?_
      split
      · rfl
      · exact outbox.clearOut_stays _ _

theorem dropHeld_stowing (tracker : TrackerId) : Stowing anyBatch (dropHeld tracker) :=
  .get fun _ => .ifSome dropExpired_stowing

theorem enterBacklog_stowing (conn : ConnId) (frame : OutFrame) (tracker : TrackerId) (copy : Bool)
    (lane : Option LaneId) : Stowing may (enterBacklog conn frame tracker copy lane) :=
  .get fun _ => .bind (modifyOutbox_stowing fun _ => Outbox.pushBacklog_stays _ _ _) fun _ =>
    .bind (note_shifting rfl rfl).stowing fun _ =>
      .bind (modifyOutbox_stowing fun _ => rfl) fun _ =>
        .bind (waitFlushes_stowing _ _) fun _ => .pure _

theorem waitOn_stowing (conn : ConnId) (frame : OutFrame) (tracker : TrackerId) (copy : Bool)
    (lane : Option LaneId) : Stowing may (waitOn conn frame tracker copy lane) :=
  .bind (enterBacklog_stowing _ _ _ _ _) fun key => expireAt_stowing key

theorem placeOn_stowing (conn : ConnId) (frame : OutFrame) (tracker : Option TrackerId) (copy : Bool)
    (lane : Option LaneId) (own : may frame.id) : Stowing may (placeOn conn frame tracker copy lane) := by
  refine .get fun core => .ite (.pure _) (.bind (trackerOrNew_shifting _ _).stowing fun copied => ?_)
  have onwards : ∀ taken : Bool, Stowing may (if taken = true then do
      queued frame.number copied conn
      pure (some copied)
    else if core.past frame.deadline then do
      let copied ← giveUpMessage frame (some copied) tracker.isSome .noRoom
      pure (some copied)
    else do
      waitOn conn frame copied copy lane
      pure (some copied)) := fun _ =>
    .ite (.bind (queued_shifting _ _ _).stowing fun _ => .pure _)
      (.ite (.bind (giveUpMessage_settling _ _ _ _ own).stowing fun _ => .pure _)
        (.bind (waitOn_stowing _ _ _ _ _) fun _ => .pure _))
  dsimp only
  split
  · exact onwards false
  · exact .bind (takeOver_stowing _ _) onwards

theorem enterHeld_stowing (frame : OutFrame) (tracker : TrackerId) (all : Bool)
    (lane : Option LaneId) : Stowing may (enterHeld frame tracker all lane) :=
  .get fun _ => .bind (modifyOutbox_stowing fun _ => rfl) fun _ =>
    .bind (waitFlushes_stowing _ _) fun _ => .pure _

theorem hold_stowing (frame : OutFrame) (tracker : Option TrackerId) (all : Bool)
    (lane : Option LaneId) : Stowing may (hold frame tracker all lane) :=
  .bind (trackerOrNew_shifting _ _).stowing fun _ => .bind (enterHeld_stowing _ _ _ _) fun key =>
    .bind (expireAt_stowing key) fun _ => .pure _

/-! ## Placing now -/

theorem placeOnEach_stowing (frame : OutFrame) (conns : List ConnId) (tracker : Option TrackerId)
    (own : may frame.id) : Stowing may (placeOnEach frame conns tracker) := by
  induction conns generalizing tracker with
  | nil => exact .pure _
  | cons _ _ ih =>
    exact .get fun _ => .ite (ih _) (.bind (placeOn_stowing _ _ _ _ _ own) fun _ =>
      .bind (ih _) fun _ => .pure _)

theorem placeOnAll_stowing (frame : OutFrame) (tracker : Option TrackerId) (own : may frame.id) :
    Stowing may (placeOnAll frame tracker) :=
  .get fun _ => .bind (placeOnEach_stowing _ _ _ own) fun _ => .get fun _ =>
    .ite (.bind (placeOnEach_stowing _ _ _ own) fun _ => .pure _) (.pure _)

theorem placeOnOne_stowing (frame : OutFrame) (tracker : Option TrackerId) (lane : Option LaneId)
    (conn : Option ConnId) (own : may frame.id) : Stowing may (placeOnOne frame tracker lane conn) := by
  have onto : ∀ conn : ConnId, Stowing may (do
      let copy ← placeOn conn frame tracker false lane
      let core ← get
      ifSome lane fun lane => adopt lane (core.wrap conn)
      pure ({ placed := true, copies := copy.toList, used := some (core.wrap conn) } : Placed)) :=
    fun _ => .bind (placeOn_stowing _ _ _ _ _ own) fun _ => .get fun _ =>
      .bind (.ifSome fun _ => (adopt_shifting _ _).stowing) fun _ => .pure _
  cases conn with
  | some conn => exact onto conn
  | none =>
    apply Keeps.bind chooseConnection_shifting.stowing
    intro chosen
    cases chosen with
    | none => exact .pure _
    | some conn => exact onto conn

theorem placeNow_stowing (frame : OutFrame) (all : Bool) (lane : Option LaneId)
    (tracker : Option TrackerId) (own : may frame.id) : Stowing may (placeNow frame all lane tracker) := by
  refine .get fun core => .ite (.pure _) (.ite (placeOnAll_stowing _ _ own) ?_)
  split
  · exact placeOnOne_stowing _ _ _ _ own
  · split
    · exact .bind (placeOn_stowing _ _ _ _ _ own) fun _ => .pure _
    · exact .ite (.pure _) (placeOnOne_stowing _ _ _ _ own)

/-! ## A connection came up, or has room -/

theorem lose_stowing (key : WaitKey) (held : Nat) : Stowing anyBatch (lose key held) := by
  refine .get fun core => ?_
  split
  · exact .pure _
  · exact .bind (stopWaiting_stowing _ _ _) fun _ =>
      .bind (reportDrop_settling _ _ _ trivial).stowing fun _ => .get fun _ =>
        (loseTracker_shifting _ _).stowing

theorem endWaiting_stowing (key : WaitKey) : Stowing may (endWaiting key) :=
  modifyOutbox_stowing fun outbox => (outbox.setOver key).release_stays key

theorem leaveHeld_stowing (key : WaitKey) (number : Nat) : Stowing may (leaveHeld key number) :=
  .bind (endWaiting_stowing key) fun _ => .bind heldLeft_stowing fun _ =>
    waitingLeft_stowing _

theorem popHeld_stowing : Stowing may popHeld := modifyOutbox_stowing fun _ => rfl

theorem placeHeldLoop_stowing (steps : Nat) : Stowing anyBatch (placeHeldLoop steps) := by
  induction steps with
  | zero => exact .pure _
  | succ _ ih =>
    refine .get fun core => ?_
    split
    · exact .pure _
    · split
      · exact .bind popHeld_stowing fun _ => ih
      · refine .ite (.bind popHeld_stowing fun _ => .bind (release_stowing _) fun _ => ih)
          (.bind (placeNow_stowing _ _ _ _ trivial) fun _ => .ite ?_ (.ite ?_ (.pure _)))
        · exact .bind popHeld_stowing fun _ => .get fun _ =>
            .bind (.when (.ifSome fun _ => (recordMoved_shifting _ _).stowing)) fun _ =>
              .bind (leaveHeld_stowing _ _) fun _ =>
                .bind (modifyOutbox_stowing fun _ => rfl) fun _ => ih
        · exact .bind popHeld_stowing fun _ => .bind (lose_stowing _ _) fun _ =>
            .bind (release_stowing _) fun _ => ih

theorem placeHeld_stowing : Stowing anyBatch placeHeld :=
  .get fun _ => .bind (placeHeldLoop_stowing _) fun _ => checkFlushes_shifting.stowing

theorem removeBacklog_stowing (conn : ConnId) : Stowing may (removeBacklog conn) := by
  refine .get fun core => ?_
  split
  · exact .pure _
  · exact .bind (modifyOutbox_stowing fun _ => rfl) fun _ => .forEach release_stowing

theorem moveIn_stowing (conn : ConnId) (key : WaitKey) (waiting : Waiting) :
    Stowing may (moveIn conn key waiting) :=
  .bind (endWaiting_stowing key) fun _ => .bind (modifyOutbox_stowing fun _ => rfl) fun _ =>
    .bind (modifyOutbox_stowing fun _ => rfl) fun _ => .bind (takeOver_stowing _ _) fun _ =>
      .bind (waitFlushes_stowing _ _) fun _ => (queued_shifting _ _ _).stowing

theorem refill_stowing (conn : ConnId) (key : WaitKey) : Stowing anyBatch (refill conn key) := by
  refine .get fun core => ?_
  split
  · exact .pure _
  · exact .ite (release_stowing _)
      (.ite (.bind (dropExpired_stowing _) fun _ => release_stowing _) (moveIn_stowing _ _ _))

theorem refillLoop_stowing (conn : ConnId) (steps : Nat) : Stowing anyBatch (refillLoop conn steps) := by
  induction steps with
  | zero => exact .pure _
  | succ _ ih =>
    refine .get fun core => ?_
    split
    · exact .pure _
    · refine .ite (.pure _) ?_
      split
      · exact .pure _
      · exact .bind (modifyOutbox_stowing fun _ => rfl) fun _ =>
          .bind (refill_stowing _ _) fun _ => ih

/-- Room in a queue moves its backlog in, by stows alone. -/
theorem outgoingQueueHasRoom_stowing (conn : ConnId) : Stowing anyBatch (outgoingQueueHasRoom conn) :=
  .get fun _ => .bind (refillLoop_stowing _ _) fun _ => .get fun _ =>
    .bind (.when (removeBacklog_stowing _)) fun _ => checkFlushes_shifting.stowing

/-! ## Deadlines -/

theorem expireLoop_stowing (steps : Nat) : Stowing anyBatch (expireLoop steps) := by
  induction steps with
  | zero => exact .pure _
  | succ _ ih =>
    refine .get fun core => ?_
    split
    · exact .pure _
    · exact .ite (.pure _) (.bind (modifyOutbox_stowing fun _ => rfl) fun _ =>
        .bind (.when (dropExpired_stowing _)) fun _ => ih)

theorem expire_stowing : Stowing anyBatch expire :=
  .bind (emptySlot_stowing fun _ => rfl) fun _ => .get fun _ =>
    .bind (expireLoop_stowing _) fun _ => .get fun _ =>
      .bind (.forEach removeBacklog_stowing) fun _ => .bind armExpiry_stowing fun _ =>
        checkFlushes_shifting.stowing

/-! ## A connection died -/

theorem handOver_stowing (conn : Option ConnId) (entry : QueueEntry) : Stowing anyBatch (handOver conn entry) := by
  refine .get fun core => .ite (.pure _) (.ite (.ite (.pure _) (.ite ?_ (.ite (.pure _) ?_))) ?_)
  · exact .bind (supersede_shifting _).stowing fun _ => .pure _
  · exact .bind (hold_stowing _ _ _ _) fun _ => .pure _
  · split
    · exact .ite (.pure _) (.bind (hold_stowing _ _ _ _) fun _ => .pure _)
    · refine .bind (modifyOutbox_stowing fun _ => rfl) fun _ =>
        .bind (placeOn_stowing _ _ _ _ _ trivial) fun placed => ?_
      cases placed with
      | none => exact .pure _
      | some =>
        exact .get fun _ => .bind (.when (recordMoved_shifting _ _).stowing) fun _ => .pure _

theorem handOverEach_stowing (conn : Option ConnId) (entries : List QueueEntry) :
    Stowing anyBatch (handOverEach conn entries) := by
  induction entries with
  | nil => exact .pure _
  | cons _ _ ih =>
    exact .bind (handOver_stowing _ _) fun _ => .bind ih fun _ => .pure _

theorem replaceOn_stowing (conn : ConnId) (key : WaitKey) (waiting : Waiting) :
    Stowing anyBatch (replaceOn conn key waiting) :=
  .bind (endWaiting_stowing key) fun _ => .bind (waitingLeft_stowing _) fun _ =>
    .bind (modifyOutbox_stowing fun _ => rfl) fun _ => .get fun _ =>
      .bind (placeOn_stowing _ _ _ _ _ trivial) fun _ =>
        .bind (.when (recordMoved_shifting _ _).stowing) fun _ =>
          .ifSome fun _ => (adopt_shifting _ _).stowing

theorem replaceOne_stowing (conn : Option ConnId) (key : WaitKey) : Stowing anyBatch (replaceOne conn key) := by
  have lost : Stowing anyBatch (do lose key 0; modifyOutbox fun outbox => outbox.release key) :=
    .bind (lose_stowing _ _) fun _ => release_stowing _
  refine .get fun core => ?_
  split
  · exact .pure _
  · refine .ite (release_stowing _) (.ite lost (.ite (.ite lost (.ite ?_ ?_)) ?_))
    · exact .bind (modifyOutbox_stowing fun _ => rfl) fun _ =>
        .bind (waitingLeft_stowing _) fun _ =>
          .bind (supersede_shifting _).stowing fun _ => release_stowing _
    · exact modifyOutbox_stowing fun _ => rfl
    · split
      · exact modifyOutbox_stowing fun _ => rfl
      · exact replaceOn_stowing _ _ _

theorem replaceDisplaced_stowing (conn : Option ConnId) : Stowing anyBatch (replaceDisplaced conn) :=
  .get fun _ => .bind (modifyOutbox_stowing fun _ => rfl) fun _ =>
    .bind (.forEach (replaceOne_stowing conn)) fun _ => checkFlushes_shifting.stowing

/-! ## The shutdown -/

theorem dropOne_stowing (key : WaitKey) : Stowing anyBatch (dropOne key) := by
  refine .get fun core => ?_
  split
  · exact .pure _
  · exact .ite (release_stowing _) (.bind (modifyOutbox_stowing fun _ => rfl) fun _ =>
      .bind (reportDrop_settling _ _ _ trivial).stowing fun _ => .get fun _ =>
        .bind (loseTracker_shifting _ _).stowing fun _ => release_stowing _)

theorem dropOutbox_stowing : Stowing anyBatch dropOutbox := by
  refine .get fun core => .bind (modifyOutbox_stowing fun _ => rfl) fun _ =>
    .bind (.forEach dropOne_stowing) fun _ core => ?_
  rw [after_get_bind]
  exact Keeps.bind_at (cancelExpiry_stows rfl) fun _ =>
    emptySlot_stowing fun _ => rfl

end Multiplexer
