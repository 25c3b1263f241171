import Multiplexer.Runs.Moves

/-! An event beat by beat: a beat is a change of the confirmed messages or of the ids seen, one of
the ways into the outbox, or leaves all that alone. -/

set_option autoImplicit false

namespace Multiplexer

open Program

/-- The batches, the confirmed messages and the ids seen are as they were. -/
structure Calm (core after : Core) : Prop where
  ids : after.ids = core.ids
  instanceId : after.instanceId = core.instanceId
  drawn : core.drawn ≤ after.drawn
  confirmer : after.confirmer = core.confirmer
  batcher : after.batcher = core.batcher
  confirmNotes : after.confirmNotes = core.confirmNotes
  lastSeen : after.client.lastSeen = core.client.lastSeen
  arrivals : after.arrivals = core.arrivals
  marks : after.notes.filterMap OutboxNote.mark = core.notes.filterMap OutboxNote.mark
  callbacks : core.outbox.callbacksPosted = true → after.outbox.callbacksPosted = true

theorem Calm.refl (core : Core) : Calm core core := ⟨rfl, rfl, le_rfl, rfl, rfl, rfl, rfl, rfl, rfl, id⟩

inductive Beat : Core → Core → Prop
  | calm {core after} (calm : Calm core after) : Beat core after
  | told {core after} (told : Told core after) : Beat core after
  | mark {core after} (mark : Mark core after) : Beat core after
  | enter {core} {α : Type} {program : Client α} (way : WayIn program) : Beat core (program.after core)
  | post {core} (flag : Bool) (posted : List Posted) :
      Beat core { core with confirmer := { core.confirmer with posted := flag }, posted }

abbrev Beats : Core → Core → Prop := Relation.ReflTransGen Beat

instance : Std.Refl Beats := ⟨fun _ => .refl⟩

instance : IsTrans Core Beats := ⟨fun _ _ _ => .trans⟩

section Beats

variable {core after : Core}

theorem Shift.calm (shift : Shift true core after) : Calm core after := by
  have steady := shift.steady
  have same : after.client.view.lastSeen = core.client.view.lastSeen := by rw [steady.client]
  cases shift with
  | silent silent apart =>
    have apart := apart rfl
    exact { steady with
      confirmer := apart.confirmer, batcher := apart.batcher, confirmNotes := apart.confirmNotes
      lastSeen := same, marks := silent.marks, callbacks := silent.outbox.callbacks }
  | arm _ _ silent apart =>
    have apart := (apart rfl).1
    exact { steady with
      confirmer := apart.confirmer, batcher := apart.batcher, confirmNotes := apart.confirmNotes
      lastSeen := same, marks := silent.marks, callbacks := silent.outbox.callbacks }
  | cancel => exact { Calm.refl core with }

theorem Own.calm (own : Own core after) : Calm core after := by
  cases own with
  | put conn state _ outgoing =>
    obtain ⟨_, _, eq⟩ := processSendQueue_eq conn
      { core with conns := core.conns.insert conn { state with outgoing } }
    rw [eq]
    exact { Calm.refl core with }

theorem Stow.calm_or_told {may : Nat → Prop} (stow : Stow may core after) :
    Calm core after ∨ Told core after := by
  cases stow with
  | settle settle =>
    cases settle with
    | shift shift => exact .inl shift.calm
    | dropped batch reason => exact .inr (.dropped batch reason)
  | line outbox _ _ callbacks | arm deadline outbox _ _ callbacks =>
    exact .inl { Calm.refl core with callbacks := fun posted => callbacks.trans posted }
  | cancel | idle => exact .inl { Calm.refl core with }
  | queue conn state entry =>
    obtain ⟨conns, actions, eq⟩ := processSendQueue_eq conn
      { core with
        conns := core.conns.insert conn { state with outgoing := state.outgoing ++ [entry] }
        notes := .queued conn entry :: core.notes }
    rw [eq]
    exact .inl { Calm.refl core with }

theorem left_calm (core : Core) (conn : ConnId) (state : Conn) : Calm core (core.left conn state) := by
  have stays := congrArg (·.2.2) (core.outbox.displacing_stays conn)
  have seen : (core.clientLeft conn state).lastSeen = core.client.lastSeen := by
    unfold Core.clientLeft
    dsimp only
    split
    · rfl
    · rfl
  exact { Calm.refl core with lastSeen := seen, callbacks := fun posted => stays.trans posted }

theorem Change.beats {event : Event} {leave : Leave} (change : Change event leave core after) :
    Beats core after := by
  cases change with
  | shift shift => exact .single (.calm shift.calm)
  | told told => exact .single (.told told)
  | mark mark => exact .single (.mark mark)
  | enter way => exact .single (.enter way)
  | die conn state =>
    have dead : Calm core (core.deadening conn state) := { Calm.refl core with }
    rw [dying_eq]
    split
    · exact .single (.calm dead)
    · exact .tail (.single (.calm dead)) (.calm (left_calm _ conn state.dead))
  | orphan conn state _ found =>
    have emptied : Calm core (core.putting conn state.emptied) := { Calm.refl core with }
    rw [orphanOutgoingMessages_eq found]
    exact .tail (.single (.calm emptied)) (.enter (.giveUp conn _))
  | readOn conn state deliver =>
    have reads : Calm core (core.putting conn (state.readsOn deliver)) := { Calm.refl core with }
    rw [readingOn_eq]
    exact .tail (.single (.calm reads)) (.calm (left_calm _ conn _))
  | quit =>
    rw [quitting_eq]
    exact .single (.calm { Calm.refl core with })
  | drop =>
    have stows := dropOutbox_stowing core
    exact stows.within fun stow => .single (stow.calm_or_told.elim .calm .told)
  | request => exact .single (.calm { Calm.refl core with drawn := Nat.le_succ _ })
  | owe => exact .single (.post true _)
  | paid => exact .single (.post false _)
  | _ => exact .single (.calm { Calm.refl core with })

theorem Move.beats {event : Event} (move : Move event core after) : Beats core after := by
  cases move with
  | fine fine =>
    cases fine with
    | change change => exact change.beats
    | _ => exact .single (.calm { Calm.refl core with })
  | _ => exact .single (.calm { Calm.refl core with })

theorem step_beats (now : Instant) (event : Event) (core : Core) : Beats core (step now event core) := by
  have begun : Calm core { core with now, actions := [] } := { Calm.refl core with }
  have moves := handle_moves event { core with now, actions := [] }
  exact .head (.calm begun) (moves.within Move.beats)

end Beats

theorem WayIn.keep {Holds : Core → Prop} {core : Core} {α : Type} {program : Client α}
    (stir : ∀ {core after}, Stir core after → Holds core → Holds after) (way : WayIn program)
    (holds : Holds core) : Holds (program.after core) := by
  have kept : ∀ {after}, Stirs core after → Holds after := by
    intro _ stirs
    induction stirs with
    | refl => exact holds
    | tail _ last ih => exact stir last ih
  exact kept (way.stirring core)

/-- What holds at the start and along every beat holds at every event boundary of every run. -/
theorem Core.run_beats {Holds : Core → Prop} {start : Core} (holds : Holds start)
    (beat : ∀ {core after}, Beat core after → Holds core → Holds after) (history : History) :
    Holds (start.run history) := by
  have kept : ∀ {core after : Core}, Beats core after → Holds core → Holds after := by
    intro _ _ beats held
    induction beats with
    | refl => exact held
    | tail _ last ih => exact beat last ih
  exact Core.run_keeps (fun now event held => kept (step_beats now event _) held) holds history

end Multiplexer
