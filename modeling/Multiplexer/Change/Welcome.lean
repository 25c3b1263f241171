import Multiplexer.Change.Client

/-! What a frame read goes on to: a turn of the client, or a welcome, at which a connection
registers and what waited for it goes out. -/

set_option autoImplicit false

namespace Multiplexer

open Program Std

variable {event : Event}

/-! ## The welcome -/

variable {core : Core} {conn : ConnId} {state : Conn}

theorem afterConnectionRegistration_acts (enlists : core.Enlists conn state) : Acts event core ((do
      note (.registered conn)
      afterConnectionRegistration conn).after (core.enlisting conn state)) := by
  have read : ((note (.registered conn)).after (core.enlisting conn state)).conns[conn]? =
      some state.enlisted := TreeMap.getElem?_insert_self
  have enrols : Acts event core ((enrolling conn state.enlisted).after (core.enlisting conn state)) :=
    .single (.enrol conn state enlists)
  have onwards : Turning event .still (do
      closeIdleBatches (some conn)
      onConnection ⟨some conn, state.target⟩ true) :=
    .bind (WayIn.closeIdleBatches _).turning fun _ => onConnection_turning _ _
  unfold enrolling at enrols
  rw [after_bind, after_get_bind, after_bind, after_bind, after_bind, after_bind, after_bind]
    at enrols
  rw [after_bind]
  unfold afterConnectionRegistration
  rw [after_get_bind, read]
  dsimp only
  rw [after_bind, after_bind, after_bind, after_bind, after_bind, after_bind]
  exact enrols.trans (Turns.acts (onwards _))

theorem recordConnection_after (found : core.conns[conn]? = some state) :
    (recordConnection conn state.peerId).after core =
      { core with
        byPeerId := core.byPeerId.insert state.peerId conn
        roundRobin := conn :: core.roundRobin
        conns := core.conns.insert conn state.widened } := by
  have read : ((modify fun core : Core =>
      { core with
        byPeerId := core.byPeerId.insert state.peerId conn
        roundRobin := conn :: core.roundRobin }).after core).conns[conn]? = some state := found
  unfold recordConnection getConn
  rw [after_bind, after_gets_bind, read]
  rfl

def entering (conn : ConnId) : Client Unit := do
  let found ← getConn conn
  ifSome found fun state => when (!state.shutsDown) do
    putConn conn { state with registered := true }
    note (.registered conn)
    afterConnectionRegistration conn

theorem entering_refused (shut : core.ShutDown conn) : (entering conn).after core = core := by
  unfold entering getConn
  rw [after_gets_bind]
  cases found : core.conns[conn]? with
  | none => rfl
  | some state =>
    rw [ifSome_some, shut state found]
    rfl

theorem entering_acts (enlists : core.Enlists conn state) :
    Acts event core ((recordConnection conn state.peerId >>= fun _ => entering conn).after core) := by
  have acts : Acts event core _ := afterConnectionRegistration_acts enlists
  rw [after_bind, recordConnection_after enlists.found]
  unfold entering getConn
  rw [after_gets_bind]
  have read : (core.conns.insert conn state.widened)[conn]? = some state.widened :=
    TreeMap.getElem?_insert_self
  change Acts event core ((ifSome (core.conns.insert conn state.widened)[conn]? _).after _)
  have stays : (!state.widened.shutsDown) = true := by
    change (!state.shutsDown) = true
    rw [enlists.stays]
    rfl
  rw [read, ifSome_some, stays, when_true, after_bind]
  exact acts

theorem refused_acts (conn : ConnId) (core : Core) :
    Acts event core ((shutdownConnection conn >>= fun _ => entering conn).after core) := by
  rw [after_bind, entering_refused (shutdownConnection_ends core conn)]
  exact shutdownConnection_acting conn core

theorem replacing_enlists {previous : ConnId} (found : core.conns[conn]? = some state)
    (stays : state.shutsDown = false) (unregistered : state.registered = false)
    (reads : state.reading = true) (indexed : core.byPeerId[state.peerId]? = some previous)
    (other : previous ≠ conn) :
    ∃ later, ((shutdownConnection previous).after core).Enlists conn later ∧
      later.peerId = state.peerId := by
  have turns : Turns .timer (.only previous) core ((shutdownConnection previous).after core) :=
    shutdownConnection_turning rfl core
  obtain ⟨later, here, bides⟩ := turns.spares.bides conn state other.symm id found
  have same := bides.character
  have id : later.peerId = state.peerId :=
    show later.character.peerId = state.character.peerId from congrArg _ same
  refine ⟨later, ⟨here, ?_, ?_, ?_, fun each recorded => ?_⟩, id⟩
  · exact (show later.character.shutsDown = state.character.shutsDown from
      congrArg _ same).trans stays
  · exact (show later.character.registered = state.character.registered from
      congrArg _ same).trans unregistered
  · exact (show later.character.reading = state.character.reading from congrArg _ same).trans reads
  · rw [id] at recorded
    cases (turns.spares.index (fun _ => False.elim) _ _ recorded).symm.trans indexed
    exact .inr (shutdownConnection_ends core _)

theorem registerConnection_acts {welcome : WelcomeMessage} (found : core.conns[conn]? = some state)
    (stays : state.shutsDown = false) (unregistered : state.registered = false)
    (reads : state.reading = true) (told : state.peerId = welcome.id) :
    Acts event core ((registerConnection conn welcome >>= fun _ => entering conn).after core) := by
  unfold registerConnection
  rw [after_bind, after_get_bind, found]
  dsimp only
  split
  · exact refused_acts conn core
  · split
    · rename_i vacant
      rw [← told] at vacant ⊢
      refine entering_acts ⟨found, stays, unregistered, reads, fun previous indexed => ?_⟩
      by_cases same : previous = conn
      · exact .inl same
      · refine .inr fun old read => ?_
        rw [indexed] at vacant
        simp [Option.filter, same, read] at vacant
    · rename_i previous old recorded
      obtain ⟨_, filtered, known⟩ := Option.bind_eq_some_iff.mp recorded
      obtain ⟨indexed, other⟩ := Option.filter_eq_some_iff.mp filtered
      obtain ⟨_, -, same⟩ := Option.map_eq_some_iff.mp known
      cases same
      split
      · exact refused_acts conn core
      · rw [← told] at indexed ⊢
        obtain ⟨_, enlists, id⟩ := replacing_enlists found stays unregistered reads indexed
          (by simpa using other)
        rw [after_bind]
        have enters : Acts event _ _ := entering_acts enlists
        rw [id] at enters
        exact (shutdownConnection_acting _ core).trans enters

/-- A welcome registers its connection, in an older one's place too, or ends it. -/
theorem receiveWelcome_acts {message : Message} (found : core.conns[conn]? = some state)
    (stays : state.shutsDown = false) (reads : state.reading = true) :
    Acts event core ((receiveWelcome conn message).after core) := by
  unfold receiveWelcome getConn
  rw [after_gets_bind, found]
  dsimp only
  split
  · exact shutdownConnection_acting conn core
  · rename_i unregistered
    split
    · rename_i welcome content
      let met : Conn := { state with peerId := welcome.id, peerType := welcome.type }
      let meets : Core := { core with conns := core.conns.insert conn met }
      have unregistered := Bool.eq_false_of_not_eq_true unregistered
      have registers : Acts event meets
          ((registerConnection conn welcome >>= fun _ => entering conn).after meets) :=
        registerConnection_acts TreeMap.getElem?_insert_self stays unregistered reads rfl
      refine .head (.meet conn state welcome.id welcome.type found unregistered) ?_
      rw [after_bind] at registers
      unfold entering getConn at registers
      rw [after_gets_bind] at registers
      have puts : (putConn conn met).after core = meets := rfl
      change Acts event meets _
      rw [after_bind, after_bind, after_gets_bind, puts]
      cases last : ((registerConnection conn welcome).after meets).conns[conn]? with
      | none =>
        rw [last] at registers
        exact registers
      | some known =>
        rw [last, ifSome_some] at registers
        dsimp only
        split
        · rename_i shut
          have refused : (!known.shutsDown) = false := by rw [shut, Bool.not_true]
          rw [refused, when_false] at registers
          exact registers
        · rename_i runs
          have taken : (!known.shutsDown) = true := by
            rw [Bool.eq_false_of_not_eq_true runs, Bool.not_false]
          rw [taken, when_true] at registers
          exact registers
    · exact shutdownConnection_acting conn core

/-! ## A frame -/

def taking (conn : ConnId) (state : Conn) (body : Option Message) : Client Unit :=
  if !state.delivering then
    ifSome body fun message =>
      when (message.type ≠ types.HEARTBIT && !answersThisPeer message) do
        match ← getConn conn with
        | none => pure ()
        | some state =>
          putConn conn { state with droppedWhileClosing := state.droppedWhileClosing + 1 }
  else match body with
    | none => shutdownConnection conn
    | some message =>
      if message.type = types.CONNECTION_WELCOME then receiveWelcome conn message
      else if message.type = types.HEARTBIT then
        when (!state.registered) (shutdownConnection conn)
      else if !state.registered then shutdownConnection conn
      else handleMessage conn message

theorem taking_acts {later : Conn} {body : Option Message} (heard : event = .frame conn body)
    (found : core.conns[conn]? = some later) (stays : later.shutsDown = false)
    (reads : later.reading = true) : Acts event core ((taking conn state body).after core) := by
  unfold taking
  split
  · cases body with
    | none => exact .refl
    | some message =>
      rw [ifSome_some]
      refine Keeps.when (fun start => ?_) core
      unfold getConn
      rw [after_gets_bind]
      split
      · exact .refl
      · rename_i known read
        exact Turns.acts (putConn_turns read rfl)
  · cases body with
    | none => exact shutdownConnection_acting conn core
    | some message =>
      dsimp only
      split
      · exact receiveWelcome_acts found stays reads
      · have acts : Acting event
            (if message.type = types.HEARTBIT then when (!state.registered) (shutdownConnection conn)
              else if !state.registered then shutdownConnection conn
              else handleMessage conn message) :=
          .ite (.when (shutdownConnection_acting conn))
            (.ite (shutdownConnection_acting conn) (handleMessage_turning heard).acting)
        exact acts core

end Multiplexer
