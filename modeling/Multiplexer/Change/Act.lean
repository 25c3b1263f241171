import Multiplexer.Change.Life

/-! What an event goes on to, once it began: turns in which nothing ends, and whole blocks, the
end of a connection, and the registration of one, each with all it brings about. -/

set_option autoImplicit false

namespace Multiplexer

open Program

/-! ## Ends -/

structure Falls (event : Event) (conn : ConnId) (state : Conn) (core after : Core) : Prop where
  found : core.conns[conn]? = some state
  stays : state.shutsDown = false
  goes : Turns event (.only conn) ((dying conn state).after core) after
  buries : ∀ next : Conn, after.conns[conn]? = some next → next.Buried

structure Departs (event : Event) (conn : ConnId) (state : Conn) (deliver : Bool)
    (core after : Core) : Prop where
  found : core.conns[conn]? = some state
  stays : state.shutsDown = false
  untold : state.toldGone = false
  registered : state.registered = true
  goes : Turns event (.only conn) ((readingOn conn state deliver).after core) after
  departs : ∃ next : Conn, after.conns[conn]? = some next ∧ next.Departing

variable {conn : ConnId} {state : Conn} {leave : Leave}

theorem shutdownConnection_falls {event : Event} {core : Core}
    (found : core.conns[conn]? = some state) (stays : state.shutsDown = false) :
    Falls event conn state core ((shutdownConnection conn).after core) :=
  ⟨found, stays, shutdownConnection_dies rfl found stays, fun _ =>
    shutdownConnection_buries found stays⟩

theorem readToTheEnd_goes {event : Event} {core : Core} {bound : Duration} {deliver : Bool}
    (found : core.conns[conn]? = some state) (stays : state.shutsDown = false)
    (untold : state.toldGone = false) (registered : state.registered = true) :
    Departs event conn state deliver core ((readToTheEnd conn bound deliver).after core) :=
  ⟨found, stays, untold, registered, readToTheEnd_reads rfl found stays untold,
    readToTheEnd_departs found stays untold⟩

/-! ## Registrations -/

def Conn.enlisted (state : Conn) : Conn := { state.widened with registered := true }

/-- What a connection that registered, now in `state`, brings about, up to what waited for one. -/
def enrolling (conn : ConnId) (state : Conn) : Client Unit := do
  note (.registered conn)
  let core ← get
  putConn conn { state with routingAcknowledged := state.routingInWelcome }
  when (state.routingInWelcome ≠ core.client.routingVersion) (sendRouting conn)
  updateConfirmation
  modifyClient fun client =>
    { client with firstConnectionOver := client.firstConnectionOver.insert state.target }
  outgoingQueueHasRoom conn
  placeHeld

/-! ## Acts -/

inductive Act (event : Event) : Core → Core → Prop
  | turn {core after} (turn : Turn event .still core after) : Act event core after
  | fall {core after} (conn : ConnId) (state : Conn) (falls : Falls event conn state core after) :
      Act event core after
  | depart {core after} (conn : ConnId) (state : Conn) (deliver : Bool)
      (departs : Departs event conn state deliver core after) : Act event core after
  | meet {core} (conn : ConnId) (state : Conn) (id type : Nat)
      (found : core.conns[conn]? = some state) (unregistered : state.registered = false) :
      Act event core
        { core with conns := core.conns.insert conn { state with peerId := id, peerType := type } }
  | enrol {core} (conn : ConnId) (state : Conn) (enlists : core.Enlists conn state) :
      Act event core ((enrolling conn state.enlisted).after (core.enlisting conn state))

abbrev Acts (event : Event) : Core → Core → Prop := Relation.ReflTransGen (Act event)

instance (event : Event) : Std.Refl (Acts event) := ⟨fun _ => .refl⟩

instance (event : Event) : IsTrans Core (Acts event) := ⟨fun _ _ _ => .trans⟩

abbrev Acting {α : Type} (event : Event) (program : Client α) : Prop := Keeps (Acts event) program

variable {event : Event}

theorem Turns.acts {core after : Core} (turns : Turns event .still core after) :
    Acts event core after :=
  Relation.ReflTransGen.mono (fun _ _ => .turn) _ _ turns

theorem Turning.acting {α : Type} {program : Client α} (turning : Turning event .still program) :
    Acting event program :=
  fun core => Turns.acts (turning core)

/-! ## Act by act, change by change -/

theorem enrolling_turns {core : Core} (may : leave.joins conn)
    (found : core.conns[conn]? = some state) :
    Turns event leave core ((enrolling conn state).after core) := by
  let noted := (note (.registered conn)).after core
  let welcomed := (putConn conn
    { state with routingAcknowledged := state.routingInWelcome }).after noted
  have notes : Turns event leave core noted := Shifts.turns (note_shifting rfl rfl core)
  have welcomes : Change event leave noted welcomed := .welcomed conn state may found
  have onwards : Turning event leave (do
      when (state.routingInWelcome ≠ noted.client.routingVersion) (sendRouting conn)
      updateConfirmation
      modifyClient fun client =>
        { client with firstConnectionOver := client.firstConnectionOver.insert state.target }
      outgoingQueueHasRoom conn
      placeHeld) :=
    .bind (.when (sendRouting_turning conn)) fun _ => .bind updateConfirmation_turning fun _ =>
      .bind (modifyClient_turning fun _ => rfl) fun _ =>
        .bind (WayIn.outgoingQueueHasRoom conn).turning fun _ => WayIn.placeHeld.turning
  unfold enrolling
  rw [after_bind, after_get_bind, after_bind]
  exact (notes.tail (.change welcomes)).trans (onwards welcomed)

theorem Turns.of_only {core after : Core} (may : leave.falls conn)
    (turns : Turns event (.only conn) core after) : Turns event leave core after := by
  refine turns.mono (fun each is => ?_) fun _ => False.elim
  have same : each = conn := is
  rw [same]
  exact may

theorem Falls.turns {core after : Core} (falls : Falls event conn state core after)
    (may : leave.falls conn) : Turns event leave core after :=
  .head (.change (.die conn state may falls.found falls.stays)) (Turns.of_only may falls.goes)

theorem Departs.turns {core after : Core} {deliver : Bool}
    (departs : Departs event conn state deliver core after) (may : leave.falls conn) :
    Turns event leave core after :=
  .head (.change (.readOn conn state deliver may departs.found departs.stays departs.untold
    departs.registered)) (Turns.of_only may departs.goes)

theorem enrol_turns {core : Core} (may : leave.joins conn) (enlists : core.Enlists conn state) :
    Turns event leave core ((enrolling conn state.enlisted).after (core.enlisting conn state)) :=
  .head (.change (.enlist conn state may enlists)) (enrolling_turns may Std.TreeMap.getElem?_insert_self)

theorem Act.turns {core after : Core} (act : Act event core after) : Turns event .all core after := by
  cases act with
  | turn turn => exact Turns.mono (fun _ => False.elim) (fun _ => False.elim) (.single turn)
  | fall _ _ falls => exact falls.turns trivial
  | depart _ _ _ departs => exact departs.turns trivial
  | meet conn state id type found unregistered =>
    exact (Change.meet conn state id type trivial found unregistered).turns
  | enrol _ _ enlists => exact enrol_turns trivial enlists

/-- What shuts connections down or registers them is turns that may do it all. -/
theorem Acts.turns {core after : Core} (acts : Acts event core after) :
    Turns event .all core after := by
  induction acts with
  | refl => exact .refl
  | tail _ act ih => exact ih.trans act.turns

/-! ## The ends as acts -/

theorem shutdownConnection_acting (conn : ConnId) : Acting event (shutdownConnection conn) := by
  intro core
  by_cases shut : core.ShutDown conn
  · rw [shutdownConnection_none shut]
  · obtain ⟨state, found, stays⟩ := exists_stays shut
    exact .single (.fall conn state (shutdownConnection_falls found stays))

theorem closeGracefully_acting (conn : ConnId) (bound : Duration) : Acting event (closeGracefully conn bound) := by
  intro core
  unfold closeGracefully getConn
  rw [after_gets_bind]
  split
  · exact .refl
  · rename_i state found
    split
    · exact .refl
    · rename_i runs
      simp only [Bool.or_eq_true, not_or, Bool.not_eq_true] at runs
      split
      · exact shutdownConnection_acting conn core
      · rename_i registered
        exact .single (.depart conn state false (readToTheEnd_goes found runs.1 runs.2 (by simpa using registered)))

end Multiplexer
