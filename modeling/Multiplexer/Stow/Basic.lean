import Multiplexer.Shift.Above

/-! The changes by which a message is stowed: put in a line, in a connection's queue, its write
begun. No other change of a connection comes with them, and none of a batch. -/

set_option autoImplicit false

namespace Multiplexer

open Program

/-- The queue once `entry`, a frame of the connection's own, is in: at its end or right behind
the front, not too many past it. -/
inductive Conn.Schedules (state : Conn) (entry : QueueEntry) : List QueueEntry → Prop
  | last (fits : state.outgoing.length < state.outgoingMax + FORCED_FRAMES_PAST_FULL_QUEUE) :
      Schedules state entry (state.outgoing ++ [entry])
  | asap (fits : state.outgoing.length < state.outgoingMax + FORCED_FRAMES_PAST_FULL_QUEUE) :
      Schedules state entry (state.insertAsap entry)

inductive Stow (may : Nat → Prop) : Core → Core → Prop
  | settle {core after} (settle : Settle may core after) : Stow may core after
  | line {core} (outbox : Outbox) (numbers : core.outbox.lastNumber ≤ outbox.lastNumber)
      (slot : outbox.timer = core.outbox.timer ∨ outbox.timer = none)
      (callbacks : outbox.callbacksPosted = core.outbox.callbacksPosted) :
      Stow may core { core with outbox }
  | arm {core} (deadline : Instant) (outbox : Outbox) (numbers : core.outbox.lastNumber ≤ outbox.lastNumber)
      (slot : outbox.timer = some (core.timers.nextKey + 1))
      (callbacks : outbox.callbacksPosted = core.outbox.callbacksPosted) :
      Stow may core { core with timers := core.timers.arm deadline .outboxExpiry, outbox }
  | cancel {core} (key : TimerKey) (slot : core.outbox.timer = some key) :
      Stow may core { core with timers := core.timers.cancel (some key) }
  | queue {core} (conn : ConnId) (state : Conn) (entry : QueueEntry)
      (found : core.conns[conn]? = some state) (living : state.living = true)
      (room : state.outgoingQueueFull = false) :
      Stow may core ((processSendQueue conn).after
        { core with
          conns := core.conns.insert conn { state with outgoing := state.outgoing ++ [entry] }
          notes := .queued conn entry :: core.notes })
  | idle {core} (conn : ConnId) (state : Conn) (asks : Bool) (found : core.conns[conn]? = some state) :
      Stow may core { core with conns := core.conns.insert conn { state with notifyWhenIdle := asks } }

/-- A frame of a connection's own goes into its queue. -/
inductive Own : Core → Core → Prop
  | put {core} (conn : ConnId) (state : Conn) (entry : QueueEntry) (outgoing : List QueueEntry)
      (found : core.conns[conn]? = some state) (living : state.living = true)
      (own : entry.frame.own = true) (schedules : state.Schedules entry outgoing) :
      Own core ((processSendQueue conn).after
        { core with conns := core.conns.insert conn { state with outgoing } })

abbrev Stows (may : Nat → Prop) : Core → Core → Prop := Relation.ReflTransGen (Stow may)

instance (may : Nat → Prop) : Std.Refl (Stows may) := ⟨fun _ => .refl⟩

instance (may : Nat → Prop) : IsTrans Core (Stows may) := ⟨fun _ _ _ => .trans⟩

abbrev Stowing {α : Type} (may : Nat → Prop) (program : Client α) : Prop :=
  Keeps (Stows may) program

def anyBatch : Nat → Prop := fun _ => True

variable {may : Nat → Prop}

theorem Settling.stowing {α : Type} {program : Client α} (settling : Settling may program) :
    Stowing may program :=
  fun core => Relation.ReflTransGen.mono (fun _ _ => .settle) _ _ (settling core)

theorem Shifting.stowing {α : Type} {program : Client α} (shifting : Shifting true program) :
    Stowing may program :=
  shifting.settling.stowing

def Outbox.stays (outbox : Outbox) : Nat × Option TimerKey × Bool :=
  (outbox.lastNumber, outbox.timer, outbox.callbacksPosted)

theorem modifyOutbox_stowing {change : Outbox → Outbox}
    (stays : ∀ outbox, (change outbox).stays = outbox.stays) : Stowing may (modifyOutbox change) := by
  intro core
  obtain ⟨numbers, slot, callbacks⟩ :
      _ ∧ _ ∧ _ := by simpa [Outbox.stays, Prod.ext_iff] using stays core.outbox
  exact .single (.line _ numbers.ge (.inl slot) callbacks)

theorem emptySlot_stowing {change : Outbox → Outbox}
    (stays : ∀ outbox, (change outbox).stays = (outbox.lastNumber, none, outbox.callbacksPosted)) :
    Stowing may (modifyOutbox change) := by
  intro core
  obtain ⟨numbers, slot, callbacks⟩ :
      _ ∧ _ ∧ _ := by simpa [Outbox.stays, Prod.ext_iff] using stays core.outbox
  exact .single (.line _ numbers.ge (.inr slot) callbacks)

/-! ## A connection's queue -/

theorem processSendQueue_cases {core : Core} {conn : ConnId} {state : Conn}
    (found : core.conns[conn]? = some state) : (processSendQueue conn).after core = core ∧
        (state.out ≠ .free ∨ state.shutsDown = true ∨ state.outgoing = []) ∨
      ∃ front, state.out = .free ∧ state.shutsDown = false ∧ state.outgoing.head? = some front ∧
        (processSendQueue conn).after core =
          { core with
            conns := core.conns.insert conn { state with out := .busy, writeInFlight := true }
            actions := core.actions ++ [.write conn front.frame.bytes] } := by
  unfold processSendQueue getConn
  rw [after_gets_bind, found]
  dsimp only
  split
  · rename_i busy
    exact .inl ⟨rfl, busy.imp_right .inl⟩
  · rename_i free
    obtain ⟨free, stays⟩ := not_or.mp free
    split
    · rename_i empty
      exact .inl ⟨rfl, .inr (.inr (List.head?_eq_none_iff.mp empty))⟩
    · rename_i front first
      exact .inr ⟨front, not_not.mp free, Bool.eq_false_of_not_eq_true stays, first, rfl⟩

/-- A queue processed changes connections and asks for writes, no more. -/
theorem processSendQueue_eq (conn : ConnId) (core : Core) :
    ∃ conns actions, (processSendQueue conn).after core = { core with conns, actions } := by
  cases found : core.conns[conn]? with
  | none =>
    refine ⟨core.conns, core.actions, ?_⟩
    unfold processSendQueue getConn
    rw [after_gets_bind, found]
    rfl
  | some =>
    rcases processSendQueue_cases found with ⟨same, -⟩ | ⟨_, -, -, -, begun⟩
    · exact ⟨core.conns, core.actions, same⟩
    · exact ⟨_, _, begun⟩

theorem takeOver_stowing (conn : ConnId) (entry : QueueEntry) : Stowing may (takeOver conn entry) := by
  intro core
  unfold takeOver getConn
  rw [after_gets_bind]
  split
  · exact .refl
  · rename_i state found
    split
    · exact .refl
    · rename_i takes
      simp only [Bool.or_eq_true, not_or, Bool.not_eq_true, Bool.not_eq_false'] at takes
      exact .single (.queue conn state entry found takes.1 takes.2)

theorem schedule_keeps {Relates : Core → Core → Prop} [Std.Refl Relates] [IsTrans Core Relates]
    (shift : ∀ {core after}, Shift true core after → Relates core after)
    (put : ∀ {core after}, Own core after → Relates core after) (conn : ConnId) {frame : OutFrame}
    (force asap : Bool) (own : frame.own = true) : Keeps Relates (schedule conn frame force asap) := by
  intro core
  unfold schedule getConn
  rw [after_gets_bind]
  split
  · exact refl_of Relates core
  · rename_i state found
    split
    · exact refl_of Relates core
    · rename_i takes
      have living : state.living = true := by
        by_contra dead
        simp [dead] at takes
      split
      · exact refl_of Relates core
      · rename_i fits
        have room : state.outgoing.length < state.outgoingMax + FORCED_FRAMES_PAST_FULL_QUEUE := by
          simp only [Conn.outgoingQueueFull, Bool.and_eq_true, decide_eq_true_eq, Bool.or_eq_true,
            not_and, not_or] at fits
          by_contra past
          have full : state.outgoingMax ≤ state.outgoing.length := by omega
          exact (fits full).2 (by omega)
        refine trans_of Relates (Keeps.steps shift (newTracker_shifting .queued) core) (put ?_)
        cases asap with
        | true => exact .put conn state ⟨core.nextTracker, frame⟩ _ found living own (.asap room)
        | false => exact .put conn state ⟨core.nextTracker, frame⟩ _ found living own (.last room)

theorem waitForIdle_stowing : Stowing may waitForIdle := by
  refine .get fun core => .forEach fun conn core => ?_
  unfold getConn
  rw [after_gets_bind]
  split
  · exact .refl
  · rename_i state found
    exact .single (.idle conn state true found)

end Multiplexer
