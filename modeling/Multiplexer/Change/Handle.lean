import Multiplexer.Change.Onset

/-! Every event begins by its onset and goes on by acts. -/

set_option autoImplicit false

namespace Multiplexer

open Program Std

def Goes (event : Event) (core after : Core) : Prop :=
  ∃ between, Onset event core between ∧ Acts event between after

variable {event : Event} {core : Core} {conn : ConnId} {state : Conn}

theorem Onset.goes {after : Core} (onset : Onset event core after) : Goes event core after :=
  ⟨after, onset, .refl⟩

theorem Acting.goes {program : Client Unit} (acting : Acting event program)
    (plain : event.isPlain = true) (core : Core) : Goes event core (program.after core) :=
  ⟨core, .plain plain, acting core⟩

theorem Turning.goes {program : Client Unit} (turning : Turning event .still program)
    (plain : event.isPlain = true) (core : Core) : Goes event core (program.after core) :=
  turning.acting.goes plain core

/-! ## The driver's words -/

theorem onResolved_goes (conn : ConnId) (candidates : List SocketAddr) (core : Core) :
    Goes (.resolved conn candidates) core ((onResolved conn candidates).after core) := by
  unfold onResolved getConn
  rw [after_gets_bind]
  split
  · exact Onset.goes (.unresolved conn candidates)
  · rename_i state found
    split
    · exact Onset.goes (.unresolved conn candidates)
    · rename_i stays
      cases candidates with
      | nil => exact ⟨core, .unresolved conn [], shutdownConnection_acting conn core⟩
      | cons address rest =>
        rw [List.isEmpty_cons, if_neg Bool.false_ne_true, after_bind]
        have read : ((putConn conn
            { state with candidates := address :: rest, nextCandidate := 0 }).after core).conns[conn]? =
            some { state with candidates := address :: rest, nextCandidate := 0 } :=
          TreeMap.getElem?_insert_self
        rw [tryNextCandidate_some read (by rfl)]
        exact Onset.goes (.resolved conn state (address :: rest) address found
          (Bool.eq_false_of_not_eq_true stays))

theorem schedule_forced (frame : OutFrame) (asap : Bool) (found : core.conns[conn]? = some state)
    (living : state.living = true) :
    state.outgoing.length < state.outgoingMax + FORCED_FRAMES_PAST_FULL_QUEUE ∧
        (schedule conn frame true asap).value core = true ∨
      state.outgoingMax + FORCED_FRAMES_PAST_FULL_QUEUE ≤ state.outgoing.length ∧
        (schedule conn frame true asap).run core = (false, core) := by
  unfold schedule getConn Program.value
  rw [run_bind, value_gets, after_gets, found]
  dsimp only
  rw [living, Bool.not_true, if_neg Bool.false_ne_true]
  by_cases fits : state.outgoing.length < state.outgoingMax + FORCED_FRAMES_PAST_FULL_QUEUE
  · left
    refine ⟨fits, ?_⟩
    rw [if_neg]
    · rfl
    · simp only [Bool.and_eq_true, Bool.or_eq_true, decide_eq_true_eq, not_and, not_or]
      exact fun _ => ⟨by simp, by omega⟩
  · right
    refine ⟨by omega, ?_⟩
    rw [if_pos]
    · rfl
    · simp only [Conn.outgoingQueueFull, Bool.and_eq_true, Bool.or_eq_true, decide_eq_true_eq]
      exact ⟨by omega, .inr (by omega)⟩

theorem connected_goes (conn : ConnId) (up : Bool) (core : Core) :
    Goes (.connected conn up) core ((connected conn up).after core) := by
  unfold connected
  rw [after_get_bind]
  split
  · rename_i missing
    exact Onset.goes (.unknown conn up missing)
  · rename_i state found
    rw [after_bind]
    cases up with
    | true =>
      let welcoming : Conn := { state.tried with routingInWelcome := core.client.routingVersion }
      let put := (putConn conn welcoming).after ((cancelTimer state.connectDeadline).after core)
      have read : put.conns[conn]? = some welcoming :=
        TreeMap.getElem?_insert_self
      have here : (core.starting conn state).conns[conn]? =
          some { welcoming with living := true, reading := true } :=
        TreeMap.getElem?_insert_self
      change Goes _ core ((startConnection conn).after put)
      unfold startConnection
      rw [after_get_bind, read]
      change Goes _ core ((schedule conn put.welcomeFrame true true >>= fun scheduled =>
        if scheduled then do
          sendHeartbitLater conn
          requireHeartbitLater conn
        else shutdownConnection conn).after (core.starting conn state))
      rcases schedule_forced put.welcomeFrame true here rfl with ⟨fits, taken⟩ | ⟨full, refused⟩
      · rw [after_bind, taken, if_pos rfl]
        exact Onset.goes (.up conn state put.welcomeFrame found rfl fits)
      · have value : (schedule conn put.welcomeFrame true true).value (core.starting conn state) =
            false := congrArg Prod.fst refused
        have same : (schedule conn put.welcomeFrame true true).after (core.starting conn state) =
            core.starting conn state := congrArg Prod.snd refused
        rw [after_bind, value, same, if_neg Bool.false_ne_true]
        exact ⟨_, .swamped conn state found full, shutdownConnection_acting conn _⟩
    | false =>
      have read : (core.failing conn state).conns[conn]? = some state.tried :=
        TreeMap.getElem?_insert_self
      change Goes _ core ((when (!state.shutsDown) (tryNextCandidate conn)).after
        (core.failing conn state))
      cases stays : state.shutsDown with
      | true => exact Onset.goes (.failed conn state found)
      | false =>
        cases candidate : state.tried.candidates[state.tried.nextCandidate]? with
        | none =>
          refine ⟨core.failing conn state, .failed conn state found, ?_⟩
          change Acts _ _ ((tryNextCandidate conn).after _)
          unfold tryNextCandidate
          rw [after_get_bind, read]
          dsimp only
          rw [candidate]
          exact shutdownConnection_acting conn _
        | some address =>
          change Goes _ core ((tryNextCandidate conn).after (core.failing conn state))
          rw [tryNextCandidate_some read candidate]
          exact Onset.goes (.retried conn state address found stays)

/-! ## Frames -/

theorem onFrameStarted_goes (conn : ConnId) (core : Core) :
    Goes (.frameStarted conn) core ((onFrameStarted conn).after core) := by
  unfold onFrameStarted getConn
  rw [after_gets_bind]
  split
  · rename_i missing
    exact Onset.goes (.unstarted conn fun state found => nomatch missing.symm.trans found)
  · rename_i state found
    cases hears : (state.reading && !state.shutsDown) with
    | false =>
      refine Onset.goes (.unstarted conn fun each read => ?_)
      cases found.symm.trans read
      simpa [imp_iff_not_or] using hears
    | true =>
      simp only [Bool.and_eq_true, Bool.not_eq_true'] at hears
      exact Onset.goes (.started conn state found hears.1 hears.2)

theorem requireHeartbitLater_found (found : core.conns[conn]? = some state) :
    ∃ later, ((requireHeartbitLater conn).after core).conns[conn]? = some later ∧
      later.shutsDown = state.shutsDown ∧ later.reading = state.reading := by
  unfold requireHeartbitLater
  rw [after_get_bind, found]
  dsimp only
  split
  · exact ⟨_, TreeMap.getElem?_insert_self, rfl, rfl⟩
  · exact ⟨_, TreeMap.getElem?_insert_self, rfl, rfl⟩

theorem onFrame_goes (conn : ConnId) (body : Option Message) (core : Core) :
    Goes (.frame conn body) core ((onFrame conn body).after core) := by
  unfold onFrame
  rw [getConn, after_gets_bind]
  split
  · rename_i missing
    exact Onset.goes (.unheard conn body fun state found => nomatch missing.symm.trans found)
  · rename_i state found
    split
    · rename_i deaf
      refine Onset.goes (.unheard conn body fun each read => ?_)
      cases found.symm.trans read
      simpa using deaf
    · rename_i hears
      simp only [Bool.or_eq_true, Bool.not_eq_true', not_or, Bool.not_eq_false, Bool.not_eq_true]
        at hears
      obtain ⟨_, here, stays, reads⟩ := requireHeartbitLater_found found
      refine ⟨_, .heard conn body state found hears.1 hears.2, ?_⟩
      have takes : Acts (.frame conn body) ((requireHeartbitLater conn).after core)
          ((taking conn state body).after ((requireHeartbitLater conn).after core)) :=
        taking_acts rfl here (stays.trans hears.2) (reads.trans hears.1)
      rw [after_bind]
      exact takes

/-! ## The end of a write -/

theorem writeFailed_goes {written : Nat} {failed : Bool} (found : core.conns[conn]? = some state)
    (opened : state.out ≠ .broken) (not : ∀ front, ¬WentOut state front written failed) :
    Goes (.writeDone conn written failed) core
      ((writeFailed conn).after (core.putting conn state.rested)) := by
  have read : (core.putting conn state.rested).conns[conn]? = some state.rested :=
    TreeMap.getElem?_insert_self
  unfold writeFailed getConn
  rw [after_gets_bind, read]
  dsimp only
  split
  · rename_i ended
    have ended : state.shutsDown = true ∨ state.toldGone = true := by
      rw [← Bool.or_eq_true]
      exact ended
    exact Onset.goes (.unwritten conn state written failed found opened not ended)
  · rename_i runs
    simp only [Bool.or_eq_true, not_or, Bool.not_eq_true] at runs
    obtain ⟨stays, untold⟩ := runs
    split
    · exact Onset.goes (.fell conn state written failed found opened not untold
        (shutdownConnection_falls read stays))
    · rename_i registered
      have registered : state.registered = true := (Bool.not_eq_false' _).mp
        (Bool.eq_false_of_not_eq_true registered)
      exact Onset.goes (.broke conn state written failed found opened not
        (readToTheEnd_goes read stays untold registered))

theorem onWriteDone_goes (conn : ConnId) (written : Nat) (failed : Bool) (core : Core) :
    Goes (.writeDone conn written failed) core ((onWriteDone conn written failed).after core) := by
  unfold onWriteDone
  rw [getConn, after_gets_bind]
  split
  · rename_i missing
    exact Onset.goes (.stray conn written failed missing)
  · rename_i state found
    split
    · rename_i broken
      exact Onset.goes (.settled conn state written failed found broken)
    · rename_i opened
      split
      · rename_i front first
        split
        · rename_i bad
          refine writeFailed_goes found opened fun each went => ?_
          cases first.symm.trans went.first
          have right := went.right
          have some_ := went.some_
          have whole := went.whole
          simp_all
        · rename_i good
          simp only [Bool.or_eq_true, decide_eq_true_eq, not_or, not_not,
            Bool.not_eq_true] at good
          have onwards : Turning (.writeDone conn written failed) .still (notifyIdle conn) :=
            notifyIdle_turning conn
          exact ⟨_, .written conn state front written failed found
            ⟨opened, first, good.1.1, good.1.2, good.2⟩, onwards.acting _⟩
      · rename_i empty
        refine writeFailed_goes found opened fun each went => ?_
        cases empty.symm.trans went.first

/-! ## Timers and posted work -/

theorem reconnectAfterTimeout_fires (number : Nat) (core : Core) :
    Fires core (.other (.reconnect number)) ((reconnectAfterTimeout number).after core.fired) := by
  unfold reconnectAfterTimeout
  rw [after_get_bind]
  split
  · rename_i missing
    exact .noReconnect number missing
  · rename_i key target found
    refine .reconnect number key target found ?_
    rw [after_bind]
    cases wanted : (!core.fired.client.shutsDown && !core.fired.client.byTarget.contains target) with
    | false =>
      refine .inl ⟨rfl, ?_⟩
      rw [← Bool.or_eq_true, ← Bool.not_eq_false', Bool.not_or]
      exact wanted
    | true => exact .inr (asyncConnect_connects target _)

def FiresTo (core : Core) (fired : Timers.Fired) (after : Core) : Prop :=
  ∃ between, Fires core fired between ∧ Acts .timer between after

theorem Fires.to {after : Core} {fired : Timers.Fired} (fires : Fires core fired after) :
    FiresTo core fired after :=
  ⟨after, fires, .refl⟩

theorem requireHeartbitNow_fires (conn : ConnId) (core : Core) :
    FiresTo core (.other (.requireHeartbitNow conn)) ((requireHeartbitNow conn).after core.fired) := by
  by_cases shut : core.ShutDown conn
  · exact Fires.to (.silentOver conn shut)
  · obtain ⟨state, found, stays⟩ := exists_stays shut
    have fired : core.fired.conns[conn]? = some state := found
    have runs : (!state.shutsDown) = true := by rw [stays, Bool.not_false]
    unfold requireHeartbitNow getConn
    rw [after_gets_bind, fired]
    dsimp only
    rw [after_bind, runs, when_true]
    exact Fires.to (.silent conn state found (shutdownConnection_falls TreeMap.getElem?_insert_self stays))

theorem readToTheEndBound_fires (conn : ConnId) (core : Core) :
    FiresTo core (.other (.readToTheEnd conn)) ((readToTheEndBound conn).after core.fired) := by
  by_cases shut : core.ShutDown conn
  · exact Fires.to (.boundOver conn shut)
  · obtain ⟨state, found, stays⟩ := exists_stays shut
    have fired : core.fired.conns[conn]? = some state := found
    have runs : (!state.shutsDown) = true := by rw [stays, Bool.not_false]
    unfold readToTheEndBound getConn
    rw [after_gets_bind, fired]
    dsimp only
    rw [after_bind, runs, when_true]
    exact Fires.to (.bound conn state found (shutdownConnection_falls TreeMap.getElem?_insert_self stays))

/-- Every timer of the table that fires is such an onset. -/
theorem runDue_fires (due : Due) (core : Core) :
    FiresTo core (.other due) ((runDue due).after core.fired) := by
  have apart : ∀ {program : Client Unit}, due.isApart = true → Acting .timer program →
      FiresTo core (.other due) (program.after core.fired) :=
    fun apart acting => ⟨core.fired, .apart due apart, acting _⟩
  cases due with
  | sendHeartbit conn => exact Fires.to (.beat conn)
  | requireHeartbitSoon conn => exact Fires.to (.soon conn)
  | requireHeartbitNow conn => exact requireHeartbitNow_fires conn core
  | readToTheEnd conn => exact readToTheEndBound_fires conn core
  | connectDeadline conn => exact Fires.to (.connectDeadline conn)
  | reconnect number => exact Fires.to (reconnectAfterTimeout_fires number core)
  | outboxExpiry => exact Fires.to .expiry
  | connectWait id => exact apart rfl (connectWaitExpired_shifting id).turning.acting
  | flushWait id => exact apart rfl (flushWaitExpired_shifting id).turning.acting
  | sendsExpire => exact apart rfl sendsExpire_shifting.turning.acting
  | drain => exact apart rfl drainExpired_acting
  | batches => exact apart rfl WayIn.batchTimerFired.turning.acting
  | confirmations => exact apart rfl WayIn.confirmTimerFired.turning.acting

theorem runOneTimer_goes (core : Core) : Goes .timer core (runOneTimer.after core) := by
  have fires : FiresTo core (core.timers.takeDue core.now).1 (runOneTimer.after core) := by
    unfold runOneTimer
    rw [after_get_bind]
    dsimp only
    rw [after_bind]
    cases (core.timers.takeDue core.now).1 with
    | nothing => exact Fires.to .nothing
    | query query generation =>
      have turns : Turning .timer .still (queryDeadline query generation) :=
        (QueryWay.moves (.deadline query generation)).turning
      exact ⟨core.fired, .query query generation, turns.acting _⟩
    | other due => exact runDue_fires due core
  obtain ⟨between, fires, acts⟩ := fires
  exact ⟨between, .timer fires, acts⟩

theorem runPosted_acting {posted : Posted} (other : ∀ conn, posted ≠ .connectFailed conn) :
    Acting event (runPosted posted) := by
  cases posted with
  | connectFailed conn => exact absurd rfl (other conn)
  | processCallbacks =>
    intro core
    -- the ends gathered are taken with the mark that their pass is posted
    have tells : Turning event .still (do
        forEach core.confirmer.ends fun told => endProgramSend told.1 told.2
        processFollows) :=
      .bind (.forEach fun _ => (endProgramSend_shifting _ _).turning) fun _ =>
        processFollows_hearing.turning
    exact Turns.acts (Mark.ring.turns.trans (tells _))
  | fill => exact (QueryWay.moves .fill).turning.acting
  | followHandover => exact (QueryWay.moves (.handover _ _ _)).turning.acting
  | writeOutStep => exact writeOutStep_acting
  | plain plain deadline => exact (WayIn.placePlain plain deadline).turning.acting
  | sendConfirmations => exact sendConfirmationsPosted_turning.acting

section Elsewhere

variable {event other : Event} {core after : Core}

variable {leave : Leave}

section

variable (unread : ∀ conn body, event ≠ .frame conn body)

include unread

theorem Turn.elsewhere (turn : Turn event leave core after) : Turn other leave core after := by
  cases turn with
  | change change =>
    exact .change (change.mono (fun _ may => may) (fun _ may => may)
      fun conn body is => absurd is (unread conn body))
  | query way => exact .query way

theorem Turns.elsewhere (turns : Turns event leave core after) : Turns other leave core after :=
  Relation.ReflTransGen.mono (fun _ _ turn => turn.elsewhere unread) _ _ turns

theorem Falls.elsewhere {conn : ConnId} {state : Conn} (falls : Falls event conn state core after) :
    Falls other conn state core after :=
  { falls with goes := Turns.elsewhere unread falls.goes }

theorem Departs.elsewhere {conn : ConnId} {state : Conn} {deliver : Bool}
    (departs : Departs event conn state deliver core after) :
    Departs other conn state deliver core after :=
  { departs with goes := Turns.elsewhere unread departs.goes }

theorem Acts.elsewhere (acts : Acts event core after) : Acts other core after := by
  refine Relation.ReflTransGen.mono (fun before next act => ?_) _ _ acts
  cases act with
  | turn turn => exact .turn (turn.elsewhere unread)
  | fall conn state falls => exact .fall conn state (falls.elsewhere unread)
  | depart conn state deliver departs => exact .depart conn state deliver (departs.elsewhere unread)
  | meet conn state id type found unregistered =>
    exact .meet conn state id type found unregistered
  | enrol conn state enlists => exact .enrol conn state enlists

end

end Elsewhere

theorem runOnePosted_goes (core : Core) : Goes .posted core (runOnePosted.after core) := by
  unfold runOnePosted
  rw [after_get_bind]
  split
  · rename_i none_
    exact Onset.goes (.nothing none_)
  · rename_i first rest queued
    rw [after_bind]
    by_cases failed : ∃ conn, first = .connectFailed conn
    · obtain ⟨conn, rfl⟩ := failed
      obtain ⟨between, onset, acts⟩ := connected_goes conn false { core with posted := rest }
      have unread : ∀ each body, Event.connected conn false ≠ .frame each body :=
        fun _ _ is => by cases is
      exact ⟨between, .postedFailed conn rest queued onset, acts.elsewhere unread⟩
    · exact ⟨_, .posted first rest queued fun conn is => failed ⟨conn, is⟩,
        runPosted_acting (fun conn is => failed ⟨conn, is⟩) _⟩

/-! ## The program's connections -/

theorem startConnect_goes (target : Target) (timeout : Option Duration) (done : CallbackId)
    (core : Core) : Goes (.startConnect target timeout done) core
      ((startConnect target timeout done).after core) := by
  have calls : Turning (.startConnect target timeout done) .still (call (.callback done)) :=
    (call_shifting _).turning
  unfold startConnect
  rw [after_get_bind]
  split
  · rename_i down
    exact ⟨core, .tooLate target timeout done down, calls.acting core⟩
  · rename_i runs
    rw [after_bind]
    refine ⟨_, .startConnect target timeout done (Bool.eq_false_of_not_eq_true runs)
      (asyncConnect_connects target core), ?_⟩
    cases (asyncConnect target).value core with
    | none => exact calls.acting _
    | some conn => exact (connectWait_turning conn timeout done).acting _

theorem forsaking_only (target : Target) (core : Core) :
    ∃ reconnects timers, (forsaking target).after core =
      { core with
        timers
        client :=
          { core.client with
            reconnects
            byTarget := core.client.byTarget.erase target
            firstConnectionOver := core.client.firstConnectionOver.erase target } } := by
  have drops : ∀ (drop : Nat × TimerKey × Target → Client Unit)
      (_ : ∀ entry core, ∃ reconnects timers, (drop entry).after core =
        { core with timers, client := { core.client with reconnects } })
      (entries : List (Nat × TimerKey × Target)) (core : Core),
      ∃ reconnects timers, (forEach entries drop).after core =
        { core with timers, client := { core.client with reconnects } } := by
    intro _ one entries
    induction entries with
    | nil => exact fun core => ⟨core.client.reconnects, core.timers, rfl⟩
    | cons entry _ ih =>
      intro core
      obtain ⟨reconnects, timers, first⟩ := one entry core
      rw [forEach_cons, after_bind, first]
      exact ih _
  have ends : ∀ between : Core, (∃ reconnects timers, between =
        { core with timers, client := { core.client with reconnects } }) →
      ∃ reconnects timers, (modifyClient fun client =>
        { client with
          byTarget := client.byTarget.erase target
          firstConnectionOver := client.firstConnectionOver.erase target }).after between =
        { core with
          timers
          client :=
            { core.client with
              reconnects
              byTarget := core.client.byTarget.erase target
              firstConnectionOver := core.client.firstConnectionOver.erase target } } := by
    intro _ only
    obtain ⟨reconnects, timers, rfl⟩ := only
    exact ⟨reconnects, timers, rfl⟩
  exact ends _ (drops _ (fun _ _ => ⟨_, _, rfl⟩) _ core)

theorem forsaking_conns (target : Target) (core : Core) :
    ((forsaking target).after core).conns = core.conns := by
  obtain ⟨_, _, eq⟩ := forsaking_only target core
  rw [eq]

theorem disconnect_goes (target : Target) (core : Core) :
    Goes (.disconnect target) core ((disconnect target).after core) := by
  unfold disconnect
  rw [after_get_bind]
  split
  · rename_i down
    exact Onset.goes (.leaving target down)
  · rename_i runs
    have runs := Bool.eq_false_of_not_eq_true runs
    change Goes _ core ((ifSome core.client.byTarget[target]? fun conn =>
      closeGracefully conn CLOSE_READ_SECONDS).after ((forsaking target).after core))
    cases entry : core.client.byTarget[target]? with
    | none =>
      exact Onset.goes (.forsake target runs fun conn state is => nomatch entry.symm.trans is)
    | some conn =>
      rw [ifSome_some]
      unfold closeGracefully getConn
      rw [after_gets_bind, forsaking_conns]
      cases found : core.conns[conn]? with
      | none =>
        refine Onset.goes (.forsake target runs fun each state is read => ?_)
        cases entry.symm.trans is
        cases found.symm.trans read
      | some state =>
        dsimp only
        split
        · rename_i ended
          refine Onset.goes (.forsake target runs fun each state is read => ?_)
          cases entry.symm.trans is
          cases found.symm.trans read
          simpa using ended
        · rename_i lives
          simp only [Bool.or_eq_true, not_or, Bool.not_eq_true] at lives
          obtain ⟨stays, untold⟩ := lives
          have there : ((forsaking target).after core).conns[conn]? = some state := by
            rw [forsaking_conns, found]
          split
          · exact Onset.goes (.cut target conn state runs entry untold
              (shutdownConnection_falls there stays))
          · rename_i registered
            exact Onset.goes (.close target conn state runs entry
              (readToTheEnd_goes there stays untold (by simpa using registered)))

/-! ## Every event -/

theorem syncSend_turning (frame : Frame) (all : Bool) (lane : Option LaneId)
    (timeout : Option Duration) (keep : Bool) (done : Option CallbackId) (mayBatch : Bool) :
    Turning event .still (syncSend frame all lane timeout keep done mayBatch) :=
  have keeps : ∀ sent : Sent, Shifting true (modify fun core : Core =>
      { core with kept := core.kept ++ sent.trackers }) := fun _ start =>
    .single (.silent { Silent.refl start with } (fun _ => { Apart.refl start with }) rfl
      fun _ _ kept => kept)
  .bind (WayIn.send _ _ _ _ _ _ _).turning fun sent => .when (keeps sent).turning

/-- Every event is its onset, then acts. -/
theorem handle_goes (event : Event) (core : Core) :
    Goes event core ((handle event).after core) := by
  cases event with
  | resolved conn candidates => exact onResolved_goes conn candidates core
  | connected conn up => exact connected_goes conn up core
  | openFailed conn => exact Onset.goes (.openFailed conn)
  | frameStarted conn => exact onFrameStarted_goes conn core
  | frame conn body => exact onFrame_goes conn body core
  | readDrained conn => exact (onReadDrained_turning conn).goes rfl core
  | readEnd conn => exact (onReadEnd_acting conn).goes rfl core
  | writeDone conn written failed => exact onWriteDone_goes conn written failed core
  | timer => exact runOneTimer_goes core
  | posted => exact runOnePosted_goes core
  | connect target => exact Onset.goes (.connect target (asyncConnect_connects target core))
  | startConnect target timeout done => exact startConnect_goes target timeout done core
  | disconnect target => exact disconnect_goes target core
  | newLane pinned =>
    exact Turning.goes (.bind (newLane_shifting pinned).turning fun _ => .pure _) rfl core
  | laneThrough =>
    exact Turning.goes (.bind (seededLane_shifting _ _).turning fun _ => .pure _) rfl core
  | send => exact (syncSend_turning _ _ _ _ _ _ _).goes rfl core
  | placeSend => exact (WayIn.placeSend _ _ _ _ _ _).turning.goes rfl core
  | sendPlain =>
    exact Turning.goes (.bind (WayIn.sendPlain _ _).turning fun _ => .pure _) rfl core
  | postPlain plain deadline =>
    have other : ∀ conn, Posted.plain plain deadline ≠ .connectFailed conn :=
      fun _ is => by cases is
    exact (post_shifting other).turning.goes rfl core
  | dropHeld tracker => exact (WayIn.dropHeld tracker).turning.goes rfl core
  | letGo | setDropObserver =>
    exact ⟨core, .plain rfl, .single (.turn (.change (.shift (.hush { Silent.refl core with } rfl))))⟩
  | setDelivery => exact (WayIn.setDelivery _ _ _).turning.goes rfl core
  | clearDelivery => exact (WayIn.clearDelivery _ _).turning.goes rfl core
  | flush => exact Turning.goes (.bind (WayIn.beginFlush _).turning fun _ => .pure _) rfl core
  | flushAll timeout done => exact (beginFlushAll_turning timeout done).goes rfl core
  | forgetFlush flush => exact (endFlush_shifting flush).turning.goes rfl core
  | query =>
    exact Turning.goes (.bind (QueryWay.start _ _ _ _ _).turning fun _ => .pure _) rfl core
  | stopQuery => exact (QueryWay.moves (.finish _ _)).turning.goes rfl core
  | receive => exact receive_turning.goes rfl core
  | confirm => exact (WayIn.confirm _ _ _).turning.goes rfl core
  | confirmHanded handed => exact (confirmHanded_handing handed).turning.goes rfl core
  | sendConfirmations => exact WayIn.sendConfirmations.turning.goes rfl core
  | refuseArrivals => exact refuseArrivals_shifting.turning.goes rfl core
  | refuseUnread => exact refuseUnread_turning.goes rfl core
  | inbox => exact registerInbox_shifting.turning.goes rfl core
  | subscribe type => exact (registerSubscription_shifting type).turning.goes rfl core
  | setRouting => exact (setRouting_turning _ _).goes rfl core
  | setKeyFilters => exact (setKeyFilters_turning _ _).goes rfl core
  | drawId => exact Turning.goes (.bind random64_shifting.turning fun _ => .pure _) rfl core
  | shutdownClient => exact shutdownClient_acting.goes rfl core
  | beginShutdown timeout => exact (beginShutdown_acting timeout).goes rfl core
  | endFollows =>
    have ends : Shifting true (modify fun core : Core => { core with loopEnded := true }) :=
      fun start => .single (.silent { Silent.refl start with }
        (fun _ => { Apart.refl start with }) rfl fun _ _ kept => kept)
    exact Turning.goes (.bind endFollows_hearing.turning fun _ => ends.turning) rfl core

end Multiplexer
