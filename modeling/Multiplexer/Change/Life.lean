import Multiplexer.Change.Ends

/-! The turns a connection's life is made of: its routing and its end. -/

set_option autoImplicit false

namespace Multiplexer

open Program Std

variable {event : Event} {leave : Leave}

theorem modifyClient_turning {change : ClientState → ClientState}
    (client : ∀ client, (change client).view = client.view) :
    Turning event leave (modifyClient change) :=
  (modifyClient_shifting client).turning

variable {core : Core} {conn : ConnId} {state next : Conn}

theorem putConn_turns (found : core.conns[conn]? = some state) (same : next.stance = state.stance) :
    Turns event leave core ((putConn conn next).after core) :=
  (Change.put conn state next found same).turns

/-! ## The routing -/

theorem updateConfirmation_turning : Turning event leave updateConfirmation := by
  intro core
  unfold updateConfirmation
  rw [after_get_bind]
  split
  · rename_i left
    exact (Change.unconfirm (by simpa using left)).turns
  · rename_i all
    refine Keeps.bind_at ?_ fun _ => .get fun _ => .when changeAcknowledged_shifting.turning
    cases core.client.confirmed with
    | true => exact .refl
    | false => exact (Change.confirm (by simpa using all)).turns

theorem sendRouting_turning (conn : ConnId) : Turning event leave (sendRouting conn) := by
  intro core
  unfold sendRouting
  rw [after_get_bind, after_bind]
  dsimp only
  split
  · exact random64_shifting.turning core
  · unfold getConn
    rw [after_gets_bind]
    split
    · exact random64_shifting.turning core
    · rename_i state found
      have requested : Change event leave core
          ((putConn conn { state with routingRequestId := core.ids.nth core.drawn }).after
            (random64.after core)) := .request conn state found
      rw [after_bind]
      refine requested.turns.trans (Keeps.bind (WayIn.turning ?_) (fun _ => .pure _) _)
      exact .own _ _ _ _ rfl

theorem routingChanged_turns (routing : Routing) (filters : List KeyFilter)
    (callbacks : List CallbackId) : Turns event leave core (routingChanged.after
      { core with
        client :=
          { core.client with
            routing, keyFiltersMessage := filters, acknowledgedCallbacks := callbacks } }) := by
  have onwards : Turning event leave (do
      let core ← get
      forEach (core.byPeerId.values.filter core.connLiving) sendRouting
      updateConfirmation) :=
    .get fun _ => .bind (.forEach fun _ => sendRouting_turning _) fun _ =>
      updateConfirmation_turning
  exact .head (.change (.version routing filters callbacks)) (onwards _)

theorem setRouting_turning (routing : Routing) (acknowledged : Option CallbackId) :
    Turning event leave (setRouting routing acknowledged) :=
  fun _ => routingChanged_turns routing _ _

theorem setKeyFilters_turning (filters : List KeyFilter) (acknowledged : Option CallbackId) :
    Turning event leave (setKeyFilters filters acknowledged) :=
  .when fun _ => routingChanged_turns _ filters _

theorem onPeerStatus_turning {message : Message} (heard : event = .frame conn (some message))
    (type : message.type = types.PEER_STATUS) :
    Turning event leave (onPeerStatus conn message) := by
  intro core
  unfold onPeerStatus
  split
  · rename_i status content
    split
    · exact .refl
    · rename_i right
      rw [after_get_bind]
      split
      · exact .refl
      · rename_i state found
        cases answers : (message.references.getD 0 = state.routingRequestId &&
            sameRouting (status.routing.getD {}) core.client.routing &&
            status.keyFilter = core.client.keyFiltersMessage : Bool) with
        | false => exact .refl
        | true =>
          simp only [Bool.and_eq_true, decide_eq_true_eq] at answers
          refine .head (.change (.acknowledge conn state message status heard found ?_))
            (updateConfirmation_turning _)
          exact ⟨content, type, by simpa using right, answers.1.1, answers.1.2, answers.2⟩
  · exact .refl

/-! ## The news of an end -/

theorem onConnection_turning (connection : Wrapper) (up : Bool) :
    Turning event leave (onConnection connection up) :=
  .get fun _ => .bind (.forEach fun _ => (endConnect_shifting _ _).turning) fun _ =>
    (QueryWay.moves (.onConnection _ _)).turning

def news (target : Target) (running : Bool) : Client Unit := do
  onConnection ⟨none, target⟩ false
  when running updateConfirmation

theorem news_turning (target : Target) (running : Bool) : Turning event leave (news target running) :=
  .bind (onConnection_turning _ _) fun _ => .when updateConfirmation_turning

theorem tellClientGone_after (found : core.conns[conn]? = some state) :
    ∃ running, (tellClientGone conn).after core =
      (if state.toldGone then pure () else news state.target running).after
        ((leavingOnce conn state).after core) := by
  unfold tellClientGone getConn leavingOnce
  rw [after_gets_bind, found]
  dsimp only
  split
  · exact ⟨true, rfl⟩
  · let put : Core := { core with conns := core.conns.insert conn { state with toldGone := true } }
    let unregistered := (when state.registered (unregisterConnection conn)).after put
    have here : put.conns[conn]? = some { state with toldGone := true } :=
      TreeMap.getElem?_insert_self
    have read : unregistered.conns[conn]? = some { state with toldGone := true } := by
      change ((when state.registered (unregisterConnection conn)).after put).conns[conn]? = _
      cases registered : state.registered with
      | true =>
        have after := unregisterConnection_after here registered
        rw [when_true, after]
        rw [registered] at here
        exact here
      | false =>
        rw [registered] at here
        exact here
    refine ⟨!unregistered.client.shutsDown, ?_⟩
    change (connectionDestroyed conn).after unregistered = _
    unfold connectionDestroyed
    rw [after_get_bind, read]
    rfl

theorem tellClientGone_turns (found : core.conns[conn]? = some state) :
    Turns event leave ((leavingOnce conn state).after core) ((tellClientGone conn).after core) := by
  obtain ⟨_, eq⟩ := tellClientGone_after found
  rw [eq]
  split
  · exact .refl
  · exact news_turning _ _ _

/-! ## A shutdown -/

def Core.Ended (core : Core) (conn : ConnId) : Prop :=
  ∀ state : Conn, core.conns[conn]? = some state → state.shutsDown = true ∧ state.living = false

theorem Lasts.ended {after : Core} (lasts : Lasts core after) (ended : core.Ended conn) :
    after.Ended conn := by
  intro next found
  obtain ⟨state, before, ages⟩ := lasts.ages conn next found
  obtain ⟨shut, dead⟩ := ended state before
  exact ⟨ages.shut shut, ages.dead dead⟩

theorem dying_ended (core : Core) (conn : ConnId) (state : Conn) : ((dying conn state).after core).Ended conn := by
  have put : (core.deadening conn state).conns[conn]? = some state.dead :=
    TreeMap.getElem?_insert_self
  rw [dying_eq]
  split
  · intro each found
    cases put.symm.trans found
    exact ⟨rfl, rfl⟩
  · refine (left_lasts put).ended fun each found => ?_
    cases put.symm.trans found
    exact ⟨rfl, rfl⟩

theorem closeSocket_turns (may : leave.falls conn) (ended : core.Ended conn) :
    Turns event leave core ((closeSocket conn).after core) := by
  unfold closeSocket getConn
  rw [after_gets_bind]
  split
  · exact .refl
  · rename_i state found
    cases opened : state.socketOpen with
    | true => exact (Change.close conn state may found (ended state found).1 opened).turns
    | false => exact .refl

theorem connectionClosed_turns (may : leave.falls conn) (ended : core.Ended conn) :
    Turns event leave core ((connectionClosed conn).after core) :=
  Keeps.bind_at (closeSocket_turns may ended) fun _ =>
    .bind (WayIn.confirmationsOnClosed conn).turning fun _ =>
      .get fun _ => .ifSome fun _ => modifyClient_turning fun _ => rfl

theorem forgetIfFinished_turning (may : leave.falls conn) : Turning event leave (forgetIfFinished conn) := by
  intro core
  change Turns event leave core (if core.conns[conn]?.any Conn.finished then _ else core)
  split
  · rename_i finished
    obtain ⟨state, found, finished⟩ := Option.any_eq_true _ _ |>.mp finished
    exact (Change.forget conn state may found finished).turns
  · exact .refl

def settling (conn : ConnId) (socketOpen : Bool) : Client Unit := do
  when socketOpen (emit (.shutdown conn))
  orphanOutgoingMessages conn
  connectionClosed conn
  forgetIfFinished conn

theorem settling_turns {socketOpen : Bool} (may : leave.falls conn)
    (found : core.conns[conn]? = some state) (ended : core.Ended conn)
    (broken : state.out = .broken) :
    Turns event leave core ((settling conn socketOpen).after core) := by
  let asked := (when socketOpen (emit (.shutdown conn))).after core
  have asks : Turns event leave core asked :=
    Keeps.when (fun _ => (Change.ask (.shutdown conn) rfl).turns) core
  have read : asked.conns[conn]? = some state := by
    change ((when socketOpen (emit (.shutdown conn))).after core).conns[conn]? = _
    cases socketOpen with
    | true | false => exact found
  have orphans : Turns event leave core ((orphanOutgoingMessages conn).after asked) :=
    asks.tail (.change (.orphan conn state may read (ended state found).2 broken))
  have closes := orphans.trans (connectionClosed_turns may (orphans.lasts.ended ended))
  unfold settling
  rw [after_bind, after_bind, after_bind]
  exact closes.trans (forgetIfFinished_turning may _)

theorem windUp_turns (may : leave.falls conn) (ended : core.Ended conn) :
    Turns event leave core ((getConn conn >>= fun found => (ifSome found fun state => do
      putConn conn state.stopped
      cancelTimer state.sendHeartbitTimer
      cancelTimer state.requireHeartbitTimer
      cancelTimer state.connectDeadline
      settling conn state.socketOpen)).after core) := by
  unfold getConn
  rw [after_gets_bind]
  cases found : core.conns[conn]? with
  | none => exact .refl
  | some state =>
    have stops : Turns event leave core (core.stopping conn state) :=
      (Change.stop conn state may found (ended state found).1).turns
    have stopping : (cancelTimer state.connectDeadline).after ((cancelTimer state.requireHeartbitTimer).after
          ((cancelTimer state.sendHeartbitTimer).after
            ((putConn conn state.stopped).after core))) = core.stopping conn state := rfl
    rw [ifSome_some, after_bind, after_bind, after_bind, after_bind, stopping]
    exact stops.trans (settling_turns may TreeMap.getElem?_insert_self (stops.lasts.ended ended) rfl)

theorem shutdownConnection_stays (found : core.conns[conn]? = some state)
    (stays : state.shutsDown = false) : (shutdownConnection conn).after core =
      (getConn conn >>= fun found => (ifSome found fun state => do
        putConn conn state.stopped
        cancelTimer state.sendHeartbitTimer
        cancelTimer state.requireHeartbitTimer
        cancelTimer state.connectDeadline
        settling conn state.socketOpen)).after
        ((tellClientGone conn).after (core.deadening conn state)) := by
  have dies : (putConn conn { state with
      shutsDown := true, living := false, notifyWhenReadDrained := false }).after core =
      (putConn conn state.dead).after core := rfl
  unfold shutdownConnection getConn
  rw [after_gets_bind, found]
  dsimp only
  rw [stays, if_neg Bool.false_ne_true, after_bind, after_bind]
  rw [dies, deadening_eq, after_bind, after_gets_bind, after_gets_bind]
  cases ((tellClientGone conn).after (core.deadening conn state)).conns[conn]? with
  | none | some => rfl

/-- A shutdown first marks the connection dead; the rest is turns. -/
theorem shutdownConnection_dies (may : leave.falls conn) (found : core.conns[conn]? = some state)
    (stays : state.shutsDown = false) :
    Turns event leave ((dying conn state).after core) ((shutdownConnection conn).after core) := by
  have dies : (dying conn state).after core = (leavingOnce conn state.dead).after (core.deadening conn state) := by
    rw [dying_eq]
    unfold leavingOnce
    change _ = (if state.toldGone then _ else _ : Client Unit).after _
    split
    · rfl
    · exact (leaving_eq _ _ _).symm
  have gone : Turns event leave ((dying conn state).after core)
      ((tellClientGone conn).after (core.deadening conn state)) := by
    rw [dies]
    exact tellClientGone_turns TreeMap.getElem?_insert_self
  rw [shutdownConnection_stays found stays]
  exact gone.trans (windUp_turns may (gone.lasts.ended (dying_ended core conn state)))

theorem shutdownConnection_none (shut : core.ShutDown conn) : (shutdownConnection conn).after core = core := by
  unfold shutdownConnection getConn
  rw [after_gets_bind]
  split
  · rfl
  · rename_i state found
    rw [if_pos (shut state found)]
    rfl

theorem shutdownConnection_turning (may : leave.falls conn) : Turning event leave (shutdownConnection conn) := by
  intro core
  cases found : core.conns[conn]? with
  | none => rw [shutdownConnection_none fun state is => nomatch found.symm.trans is]
  | some state =>
    cases stays : state.shutsDown with
    | false =>
      exact .head (.change (.die conn state may found stays)) (shutdownConnection_dies may found stays)
    | true =>
      rw [shutdownConnection_none fun each is => by cases found.symm.trans is; exact stays]

theorem shutdownConnection_ends (core : Core) (conn : ConnId) :
    ((shutdownConnection conn).after core).ShutDown conn := by
  by_cases shut : core.ShutDown conn
  · rw [shutdownConnection_none shut]
    exact shut
  · obtain ⟨state, found, stays⟩ := exists_stays shut
    have turns : Turns .timer (.only conn) ((dying conn state).after core) ((shutdownConnection conn).after core) :=
      shutdownConnection_dies rfl found stays
    exact fun each read => (turns.lasts.ended (dying_ended core conn state) each read).1

/-! ### What is left of it -/

/-- A connection that was shut down: the end of its write is all that is still to come. -/
structure Conn.Buried (state : Conn) : Prop where
  shut : state.shutsDown = true
  dead : state.living = false
  told : state.toldGone = true
  unregistered : state.registered = false
  deaf : state.reading = false
  broken : state.out = .broken
  writes : state.writeInFlight = true
  empty : state.outgoing = []
  beat : state.sendHeartbitTimer = none
  silence : state.requireHeartbitTimer = none
  connect : state.connectDeadline = none
  closed : state.socketOpen = false

section

variable (found : core.conns[conn]? = some state)

include found

theorem orphanOutgoingMessages_leaves (dead : state.living = false) :
    ∃ next : Conn, ((orphanOutgoingMessages conn).after core).conns[conn]? = some next ∧
      next.stance = state.emptied.stance := by
  have emptied : (core.putting conn state.emptied).conns[conn]? = some state.emptied :=
    TreeMap.getElem?_insert_self
  obtain ⟨next, read, serves⟩ := ((WayIn.giveUp conn state.handsOver).serves _).next emptied
  rw [orphanOutgoingMessages_eq found]
  exact ⟨next, read, serves.still dead⟩

theorem closeSocket_leaves : ∃ next : Conn, ((closeSocket conn).after core).conns[conn]? = some next ∧
      next = { state with socketOpen := false } := by
  unfold closeSocket getConn
  rw [after_gets_bind, found]
  dsimp only
  cases opened : state.socketOpen with
  | true => exact ⟨_, TreeMap.getElem?_insert_self, rfl⟩
  | false =>
    refine ⟨state, found, ?_⟩
    rw [← opened]

theorem connectionClosed_leaves (dead : state.living = false) :
    ∃ next : Conn, ((connectionClosed conn).after core).conns[conn]? = some next ∧
      next.stance = { state with socketOpen := false }.stance := by
  obtain ⟨_, here, rfl⟩ := closeSocket_leaves found
  obtain ⟨next, read, serves⟩ := ((WayIn.confirmationsOnClosed conn).serves _).next here
  have counts : ∀ (known : Option Conn) (core : Core), ((ifSome known fun state => modifyClient fun client =>
        { client with
          droppedWhileClosing := client.droppedWhileClosing + state.droppedWhileClosing }).after
        core).conns = core.conns := by
    intro known core
    cases known with
    | none | some => rfl
  refine ⟨next, ?_, serves.still dead⟩
  unfold connectionClosed
  rw [after_bind, after_bind, after_get_bind, counts, read]

end

theorem forgetIfFinished_leaves (found : ((forgetIfFinished conn).after core).conns[conn]? = some next) :
    core.conns[conn]? = some next ∧ next.finished = false := by
  change (if core.conns[conn]?.any Conn.finished then { core with conns := core.conns.erase conn }
    else core).conns[conn]? = some next at found
  split at found
  · change (core.conns.erase conn)[conn]? = some next at found
    rw [Lookup.erase_apply, if_pos rfl] at found
    cases found
  · rename_i not
    rw [found] at not
    exact ⟨found, Bool.eq_false_of_not_eq_true not⟩

theorem settling_leaves {socketOpen : Bool} (found : core.conns[conn]? = some state)
    (dead : state.living = false)
    (read : ((settling conn socketOpen).after core).conns[conn]? = some next) :
    next.finished = false ∧ next.stance = { state.emptied with socketOpen := false }.stance := by
  have asked : ((when socketOpen (emit (.shutdown conn))).after core).conns[conn]? = some state := by
    cases socketOpen with
    | true | false => exact found
  obtain ⟨one, first, same⟩ := orphanOutgoingMessages_leaves asked dead
  have still : one.living = false :=
    (show one.stance.living = state.emptied.stance.living from congrArg _ same).trans dead
  obtain ⟨_, second, also⟩ := connectionClosed_leaves first still
  unfold settling at read
  rw [after_bind, after_bind, after_bind] at read
  obtain ⟨last, unfinished⟩ := forgetIfFinished_leaves read
  cases second.symm.trans last
  refine ⟨unfinished, also.trans ?_⟩
  exact congrArg (fun stance : Conn => { stance with socketOpen := false }) same

theorem shutdownConnection_buries (found : core.conns[conn]? = some state) (stays : state.shutsDown = false)
    (read : ((shutdownConnection conn).after core).conns[conn]? = some next) : next.Buried := by
  have put : (core.deadening conn state).conns[conn]? = some state.dead :=
    TreeMap.getElem?_insert_self
  have gone : Turns .timer .still ((leavingOnce conn state.dead).after (core.deadening conn state))
      ((tellClientGone conn).after (core.deadening conn state)) := tellClientGone_turns put
  have ended : ∀ last : Conn, ((tellClientGone conn).after (core.deadening conn state)).conns[conn]? =
      some last → last.shutsDown = true ∧ last.living = false ∧ last.toldGone = true := by
    intro last known
    obtain ⟨told, here, ages⟩ := gone.lasts.ages conn last known
    have is : told.shutsDown = true ∧ told.living = false ∧ told.toldGone = true := by
      unfold leavingOnce at here
      change ((if state.toldGone then _ else _ : Client Unit).after _).conns[conn]? = _ at here
      split at here
      · rename_i was
        cases put.symm.trans here
        exact ⟨rfl, rfl, was⟩
      · change ((leaving conn state.dead).after (core.deadening conn state)).conns[conn]? = _ at here
        rw [leaving_eq] at here
        change ((core.deadening conn state).conns.insert conn
          { state.dead with toldGone := true })[conn]? = _ at here
        rw [TreeMap.getElem?_insert_self] at here
        cases here
        exact ⟨rfl, rfl, rfl⟩
    exact ⟨ages.shut is.1, ages.dead is.2.1, ages.told is.2.2⟩
  rw [shutdownConnection_stays found stays] at read
  unfold getConn at read
  rw [after_gets_bind] at read
  cases known : ((tellClientGone conn).after (core.deadening conn state)).conns[conn]? with
  | none =>
    rw [known, ifSome_none] at read
    cases known.symm.trans read
  | some last =>
    obtain ⟨shut, dead, told⟩ := ended last known
    rw [known, ifSome_some, after_bind, after_bind, after_bind, after_bind] at read
    have stopped : ((cancelTimer last.connectDeadline).after ((cancelTimer last.requireHeartbitTimer).after
          ((cancelTimer last.sendHeartbitTimer).after ((putConn conn last.stopped).after
              ((tellClientGone conn).after (core.deadening conn state)))))).conns[conn]? =
        some last.stopped := TreeMap.getElem?_insert_self
    obtain ⟨unfinished, same⟩ := settling_leaves stopped dead read
    have field : ∀ {α : Type} (view : Conn → α), view next.stance =
        view { last.stopped.emptied with socketOpen := false }.stance := fun view =>
      congrArg view same
    have isShut : next.shutsDown = true := (field Conn.shutsDown).trans shut
    have writes : next.writeInFlight = true := by
      unfold Conn.finished at unfinished
      rw [isShut, Bool.true_and, Bool.not_eq_false'] at unfinished
      exact unfinished
    exact
      { shut := isShut
        dead := (field Conn.living).trans dead
        told := (field Conn.toldGone).trans told
        unregistered := field Conn.registered
        deaf := field Conn.reading
        broken := field Conn.out
        writes
        empty := field Conn.outgoing
        beat := field Conn.sendHeartbitTimer
        silence := field Conn.requireHeartbitTimer
        connect := field Conn.connectDeadline
        closed := field Conn.socketOpen }

/-! ## Reading on to the end -/

def boundReading (conn : ConnId) (bound : Duration) : Client Unit := do
  let core ← get
  match core.conns[conn]? with
  | none => pure ()
  | some state => do
    emit (.shutdownWrite conn)
    cancelTimer state.requireHeartbitTimer
    let key ← rearmTimer state.sendHeartbitTimer (core.now + bound) (.readToTheEnd conn)
    putConn conn { state with requireHeartbitTimer := none, sendHeartbitTimer := some key }

theorem boundReading_turns {bound : Duration} (may : leave.falls conn)
    (found : core.conns[conn]? = some state) (dead : state.living = false)
    (stays : state.shutsDown = false) :
    Turns event leave core ((boundReading conn bound).after core) := by
  unfold boundReading
  rw [after_get_bind, found]
  exact (Change.bound conn state bound may found dead stays).turns

structure Conn.Departing (state : Conn) : Prop where
  stays : state.shutsDown = false
  dead : state.living = false
  told : state.toldGone = true
  broken : state.out = .broken
  empty : state.outgoing = []
  silence : state.requireHeartbitTimer = none

section ReadingOn

variable {core : Core} {conn : ConnId} {state : Conn} {deliver : Bool}

theorem readingOn_tells (untold : state.toldGone = false) :
    Turns event leave ((readingOn conn state deliver).after core)
      ((tellClientGone conn).after (core.putting conn (state.readsOn deliver))) := by
  have leaves : (leavingOnce conn (state.readsOn deliver)).after
      (core.putting conn (state.readsOn deliver)) = (readingOn conn state deliver).after core := by
    rw [readingOn_eq]
    unfold leavingOnce
    change (if state.toldGone then _ else _ : Client Unit).after _ = _
    rw [if_neg (Bool.eq_false_iff.mp untold)]
    exact leaving_eq _ _ _
  rw [← leaves]
  exact tellClientGone_turns TreeMap.getElem?_insert_self

theorem readingOn_told (stays : state.shutsDown = false) (untold : state.toldGone = false) :
    ∃ later : Conn, ((tellClientGone conn).after
        (core.putting conn (state.readsOn deliver))).conns[conn]? = some later ∧
      later.living = false ∧ later.shutsDown = false ∧ later.toldGone = true ∧
      later.out = .broken := by
  have gone : Turns .timer .still ((readingOn conn state deliver).after core)
      ((tellClientGone conn).after (core.putting conn (state.readsOn deliver))) :=
    readingOn_tells untold
  have before : ((readingOn conn state deliver).after core).conns[conn]? =
      some { state.readsOn deliver with toldGone := true } := by
    rw [readingOn_eq]
    exact TreeMap.getElem?_insert_self
  obtain ⟨later, here, bides⟩ := gone.spares.bides conn _ id id before
  obtain ⟨_, found, ages⟩ := gone.lasts.ages conn later here
  cases before.symm.trans found
  refine ⟨later, here, ages.dead rfl, ?_, ages.told rfl, ages.broken rfl⟩
  exact (show later.character.shutsDown = (Conn.character _).shutsDown from
    congrArg _ bides.character).trans stays

theorem readToTheEnd_reads {bound : Duration} (may : leave.falls conn)
    (found : core.conns[conn]? = some state) (stays : state.shutsDown = false)
    (untold : state.toldGone = false) :
    Turns event leave ((readingOn conn state deliver).after core)
      ((readToTheEnd conn bound deliver).after core) := by
  have gone : Turns event leave ((readingOn conn state deliver).after core)
      ((tellClientGone conn).after (core.putting conn (state.readsOn deliver))) :=
    readingOn_tells untold
  obtain ⟨later, here, dead, shut, -, broken⟩ := readingOn_told stays untold
  obtain ⟨last, finds, still⟩ := orphanOutgoingMessages_leaves here dead
  have orphaned := gone.tail (.change (.orphan conn later may here dead broken))
  unfold readToTheEnd getConn
  rw [after_gets_bind, found]
  refine orphaned.trans (boundReading_turns may finds ?_ ?_)
  · exact (show last.stance.living = later.emptied.stance.living from congrArg _ still).trans dead
  · exact (show last.stance.shutsDown = later.emptied.stance.shutsDown from
      congrArg _ still).trans shut

/-- A connection read to its end lives on, departing. -/
theorem readToTheEnd_departs {bound : Duration} (found : core.conns[conn]? = some state)
    (stays : state.shutsDown = false) (untold : state.toldGone = false) :
    ∃ next : Conn, ((readToTheEnd conn bound deliver).after core).conns[conn]? = some next ∧
      next.Departing := by
  obtain ⟨later, here, dead, shut, told, broken⟩ := readingOn_told stays untold
  obtain ⟨last, finds, still⟩ := orphanOutgoingMessages_leaves here dead
  have field : ∀ {α : Type} (view : Conn → α), view last.stance = view later.emptied.stance :=
    fun view => congrArg view still
  let bounded : Conn :=
    { last with
      requireHeartbitTimer := none
      sendHeartbitTimer := some ((((orphanOutgoingMessages conn).after ((tellClientGone conn).after
          (core.putting conn (state.readsOn deliver)))).boundTimers last).nextKey + 1) }
  have bounds : ((boundReading conn bound).after ((orphanOutgoingMessages conn).after
      ((tellClientGone conn).after (core.putting conn (state.readsOn deliver))))).conns[conn]? =
      some bounded := by
    unfold boundReading
    rw [after_get_bind, finds]
    exact TreeMap.getElem?_insert_self
  unfold readToTheEnd getConn
  rw [after_gets_bind, found]
  exact ⟨bounded, bounds, (field Conn.shutsDown).trans shut, (field Conn.living).trans dead,
    (field Conn.toldGone).trans told, (field Conn.out).trans broken, field Conn.outgoing, rfl⟩

end ReadingOn

/-! ## Writes -/

theorem notifyIdle_turning (conn : ConnId) : Turning event leave (notifyIdle conn) := by
  intro core
  unfold notifyIdle getConn
  rw [after_gets_bind]
  split
  · exact .refl
  · rename_i state found
    cases (state.notifyWhenIdle && state.outgoing.isEmpty) with
    | false => exact .refl
    | true =>
      exact Keeps.bind_at (putConn_turns found rfl) fun _ =>
        (WayIn.closeIdleBatches (some conn)).turning

theorem settleSetAside_turning (conn : ConnId) (written : Nat) (failed : Bool) :
    Turning event leave (settleSetAside conn written failed) := by
  intro core
  unfold settleSetAside getConn
  rw [after_gets_bind]
  split
  · exact .refl
  · rename_i state found
    split
    · exact .refl
    · rename_i entry rest queued
      exact Keeps.bind_at (putConn_turns found rfl) fun _ =>
        .ite (wroteEntry_shifting _ _).turning (WayIn.giveUp conn [entry]).turning

end Multiplexer
