import Multiplexer.Stow.Above

/-! What the ways into the outbox do to the connections: nothing but what stows messages, and
the queue of a dead one emptied. -/

set_option autoImplicit false

namespace Multiplexer

open Program Std

inductive Stir : Core → Core → Prop
  | stow {core after} (stow : Stow anyBatch core after) : Stir core after
  | own {core after} (own : Own core after) : Stir core after
  | shift {core after} (shift : Shift false core after) : Stir core after
  | taken {core} (frame : OutFrame) (trackers : List TrackerId) :
      Stir core { core with notes := .taken frame trackers :: core.notes }
  | enveloped {core} (envelope : Nat) (tickets : List Nat) :
      Stir core { core with confirmNotes := .enveloped envelope tickets :: core.confirmNotes }
  | owe {core after} (owe : Owe core after) : Stir core after
  | flush {core} (marks : List (ConnId × TrackerId)) (done : Option FlushDone) (lost : Bool) :
      Stir core (core.flushBegun marks done lost)
  | batcher {core} (batcher : Batcher) (slot : batcher.timer = core.batcher.timer) :
      Stir core { core with batcher }

abbrev Stirs : Core → Core → Prop := Relation.ReflTransGen Stir

instance : Refl Stirs := ⟨fun _ => .refl⟩

instance : IsTrans Core Stirs := ⟨fun _ _ _ => .trans⟩

abbrev Stirring {α : Type} (program : Client α) : Prop := Keeps Stirs program

variable {α : Type} {program : Client α} {core after : Core} {may : Nat → Prop}

theorem Stowing.stirring (stowing : Stowing anyBatch program) : Stirring program :=
  .steps (fun stow => .single (.stow stow)) stowing

theorem Shifting.stirring (shifting : Shifting false program) : Stirring program :=
  .steps (fun shift => .single (.shift shift)) shifting

theorem Shift.steady {strict : Bool} (shift : Shift strict core after) : Steady core after := by
  cases shift with
  | silent same | arm _ _ same => exact same.toSteady
  | cancel => exact { Steady.refl core with }

instance : Refl Steady := ⟨Steady.refl⟩

instance : IsTrans Core Steady := ⟨fun _ _ _ => Steady.trans⟩

theorem Settle.steady (settle : Settle may core after) : Steady core after :=
  settle.loose.within Shift.steady

theorem processSendQueue_steady (conn : ConnId) (core : Core) :
    Steady core ((processSendQueue conn).after core) := by
  obtain ⟨_, _, eq⟩ := processSendQueue_eq conn core
  rw [eq]
  exact { Steady.refl core with }

theorem Stow.steady (stow : Stow may core after) : Steady core after := by
  cases stow with
  | settle settle => exact settle.steady
  | line _ numbers | arm _ _ numbers => exact { Steady.refl core with numbers }
  | cancel | idle => exact { Steady.refl core with }
  | queue conn =>
    refine Steady.trans ?_ (processSendQueue_steady conn _)
    exact { Steady.refl core with }

theorem Stow.mono {more : Nat → Prop} (wider : ∀ batch, may batch → more batch)
    (stow : Stow may core after) : Stow more core after := by
  cases stow with
  | settle settle => exact .settle (settle.mono wider)
  | line outbox numbers slot callbacks => exact .line outbox numbers slot callbacks
  | arm deadline outbox numbers slot callbacks => exact .arm deadline outbox numbers slot callbacks
  | cancel key slot => exact .cancel key slot
  | queue conn state entry found living room => exact .queue conn state entry found living room
  | idle conn state asks found => exact .idle conn state asks found

theorem Owe.aloof (owe : Owe core after) : Aloof core after := by
  cases owe with
  | gather | forget => exact { Aloof.refl core with }
  | due | tell => exact { Aloof.refl core with drawn := Nat.le_succ _ }

theorem Stir.steady (stir : Stir core after) : Steady core after := by
  cases stir with
  | stow stow => exact stow.steady
  | own own =>
    cases own with
    | put conn =>
      refine Steady.trans ?_ (processSendQueue_steady conn _)
      exact { Steady.refl core with }
  | shift shift => exact shift.steady
  | owe owe => exact owe.aloof.toSteady
  | _ => exact { Steady.refl core with }

theorem Stirs.steady (stirs : Stirs core after) : Steady core after :=
  stirs.within Stir.steady

theorem Puts.numbers (puts : Puts may core after) : core.outbox.lastNumber ≤ after.outbox.lastNumber := by
  induction puts with
  | refl => exact le_rfl
  | tail _ put ih =>
    cases put with
    | stow stow => exact ih.trans stow.steady.numbers
    | taken => exact ih

instance (may : Nat → Prop) : Refl (Puts may) := ⟨fun _ => .refl⟩

instance (may : Nat → Prop) : IsTrans Core (Puts may) := ⟨fun _ _ _ => .trans⟩

theorem placing_puts (may : Nat → Prop) : Placing may (Puts may) where
  numbers puts := Puts.numbers puts
  settle settle := .single (.stow (.settle settle))
  taken _ _ _ := .single (.taken _ _)
  placeNow _ _ own _ := Keeps.steps (fun stow => .single (.stow stow)) (placeNow_stowing _ _ _ _ own) _
  hold _ _ _ := Keeps.steps (fun stow => .single (.stow stow)) (hold_stowing _ _ _ _) _

theorem sendAt_puts (frame : Frame) (all : Bool) (lane : Option LaneId) (deadline : Option Instant)
    {number : Nat} (done : Option SendDone) (fits : number ≤ core.outbox.lastNumber) :
    Puts (· = frame.id) core ((sendAt frame all lane deadline number done).after core) :=
  (placing_puts (· = frame.id)).sendAt frame all lane deadline done rfl fits

theorem Puts.stirs (puts : Puts may core after) : Stirs core after := by
  induction puts with
  | refl => exact .refl
  | tail _ put ih =>
    cases put with
    | stow stow => exact ih.tail (.stow (stow.mono fun _ _ => trivial))
    | taken frame trackers => exact ih.tail (.taken frame trackers)

theorem places_stirs : Places Stirs where
  numbers stirs := stirs.steady.numbers
  shift shift := .single (.shift shift)
  taken _ _ _ := .single (.taken _ _)
  enveloped _ _ _ := .single (.enveloped _ _)
  owe owe := .single (.owe owe)
  batcher _ slot := .single (.batcher _ slot)
  flush _ _ _ _ := .single (.flush _ _ _)
  sendAt _ _ _ _ _ _ fits := (sendAt_puts _ _ _ _ _ fits).stirs
  placeOn _ _ _ _ := (placeOn_stowing _ _ _ _ _ trivial).stirring _
  waitForIdle := waitForIdle_stowing.stirring

/-! ## The ways in -/

inductive WayIn : {α : Type} → Client α → Prop
  | own (conn : ConnId) (frame : OutFrame) (force asap : Bool) (own : frame.own = true) :
      WayIn (schedule conn frame force asap)
  | scheduleOne (frame : Frame) (pinned : Bool) (timeout : Option Duration)
      (lane : Option LaneId) : WayIn (scheduleOne frame pinned timeout 0 lane)
  | scheduleOn (frame : Frame) (pinned : Bool) (wrapper : Wrapper) (timeout : Option Duration)
      (lane through : Option LaneId) :
      WayIn (scheduleOn frame pinned wrapper timeout 0 lane through)
  | scheduleAll (frame : Frame) (timeout : Option Duration) : WayIn (scheduleAll frame timeout 0)
  | send (frame : Frame) (all : Bool) (lane : Option LaneId) (timeout : Option Duration)
      (keep : Bool) (done : Option ProgramDone) (mayBatch : Bool) :
      WayIn (send frame all lane timeout 0 keep done mayBatch)
  | placeSend (frame : Frame) (all : Bool) (lane : Option LaneId) (deadline : Option Instant)
      (wait : Bool) (settled : Option CallbackId) :
      WayIn (placeSend frame all lane deadline wait settled)
  | sendPlain (plain : Plain) (timeout : Option Duration) : WayIn (sendPlain plain timeout 0)
  | placePlain (plain : Plain) (deadline : Option Instant) : WayIn (placePlain plain deadline)
  | beginFlush (done : Option FlushDone) : WayIn (beginFlush done)
  | setDelivery (type : Nat) (key : Option String) (delivery : Delivery) :
      WayIn (setDelivery type key delivery)
  | clearDelivery (type : Nat) (key : Option String) : WayIn (clearDelivery type key)
  | stopBatching : WayIn stopBatching
  | closeIdleBatches (idle : Option ConnId) : WayIn (closeIdleBatches idle)
  | batchTimerFired : WayIn batchTimerFired
  | confirm (sender number : Nat) (outcome : Confirmed) : WayIn (confirm sender number outcome)
  | sendConfirmations : WayIn sendConfirmations
  | onConfirmation (message : Message) : WayIn (onConfirmation message)
  | confirmTimerFired : WayIn confirmTimerFired
  | confirmationsOnClosed (conn : ConnId) : WayIn (confirmationsOnClosed conn)
  | outgoingQueueHasRoom (conn : ConnId) : WayIn (outgoingQueueHasRoom conn)
  | placeHeld : WayIn placeHeld
  | expire : WayIn expire
  | dropHeld (tracker : TrackerId) : WayIn (dropHeld tracker)
  | giveUp (conn : ConnId) (entries : List QueueEntry) : WayIn (giveUp conn entries)

section Keeps

variable {Relates : Core → Core → Prop} [Refl Relates] [IsTrans Core Relates]
  (ways : Ways Relates) (stow : ∀ {core after}, Stow anyBatch core after → Relates core after)
  (put : ∀ {core after}, Own core after → Relates core after)

include ways stow

theorem giveUp_keeps (dead : ConnId) (entries : List QueueEntry) : Keeps Relates (giveUp dead entries) := by
  have onwards : ∀ (outgoing : List QueueEntry) (core : Core) (conn : Option ConnId), Keeps Relates (do
      let left ← handOverEach conn outgoing
      forEach left fun entry =>
        reportDrop (some entry.tracker) entry.frame (if core.client.shutsDown then .shutDown else .connectionLost)
      replaceDisplaced conn
      closeIdleBatchesIfIdle
      pure left) := fun _ _ _ =>
    .bind (.steps stow (handOverEach_stowing _ _)) fun _ =>
      .bind (.forEach fun _ => ways.settling (reportDrop_settling _ _ _ trivial)) fun _ =>
        .bind (.steps stow (replaceDisplaced_stowing _)) fun _ =>
          .bind ways.closeIdleBatchesIfIdle fun _ => .pure _
  have orphans : ∀ outgoing, Keeps Relates (handleOrphanedOutgoingMessages dead outgoing) := by
    refine fun outgoing => .get fun core => ?_
    dsimp only
    split
    · exact onwards outgoing core none
    · exact .bind (ways.shifting (successor_shifting _)) (onwards outgoing core)
  exact .bind (orphans _) fun _ => .forEach fun _ => ways.shifting (loseEntry_shifting _)

include put

theorem WayIn.keeps {α : Type} {program : Client α} (way : WayIn program) :
    Keeps Relates program := by
  cases way with
  | own conn _ force asap own =>
    exact schedule_keeps (fun shift => ways.settle (.shift shift)) put conn force asap own
  | scheduleOne => exact ways.scheduleOne _ _ _ _
  | scheduleOn => exact ways.scheduleOn _ _ _ _ _ _
  | scheduleAll => exact ways.scheduleAll _ _
  | send => exact fun _ => ways.send _ _ _ _ _ _ _ (Nat.zero_le _)
  | placeSend => exact ways.placeSend _ _ _ _ _ _
  | sendPlain => exact fun _ => ways.sendPlain _ _ (Nat.zero_le _)
  | placePlain => exact ways.placePlain _ _
  | beginFlush => exact ways.beginFlush _
  | setDelivery => exact ways.setDelivery _ _ _
  | clearDelivery => exact ways.clearDelivery _ _
  | stopBatching => exact ways.stopBatching
  | closeIdleBatches => exact ways.closeIdleBatches _
  | batchTimerFired => exact ways.batchTimerFired
  | confirm => exact ways.confirm _ _ _
  | sendConfirmations => exact ways.sendConfirmations
  | onConfirmation => exact ways.onConfirmation _
  | confirmTimerFired => exact ways.confirmTimerFired
  | confirmationsOnClosed => exact ways.confirmationsOnClosed _
  | outgoingQueueHasRoom conn => exact .steps stow (outgoingQueueHasRoom_stowing conn)
  | placeHeld => exact .steps stow placeHeld_stowing
  | expire => exact .steps stow expire_stowing
  | dropHeld tracker => exact .steps stow (dropHeld_stowing tracker)
  | giveUp conn entries => exact giveUp_keeps ways stow conn entries

end Keeps

/-- Whatever the program sends with stirs the core, no more. -/
theorem WayIn.stirring (way : WayIn program) : Stirring program :=
  way.keeps places_stirs.ways (fun stow => .single (.stow stow)) fun own => .single (.own own)

end Multiplexer
