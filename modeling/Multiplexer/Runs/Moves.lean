import Multiplexer.Runs.Basic

/-! An event move by move, from its onset to its end. A move changes little, so that what
concerns neither queues nor heartbeats is proved over moves alone. -/

set_option autoImplicit false

namespace Multiplexer

open Program List Std

def Conn.beatless (conn : Conn) : Conn :=
  { conn.bearing with
    sendHeartbitTimer := none, quietSince := none, requireHeartbitTimer := none, heardAt := none
    silenceSecondWait := false }

inductive Move (event : Event) : Core → Core → Prop
  | fine {core after} (fine : Fine event .all core after) : Move event core after
  -- connects
  | add {core} (target : Target) (candidates : List SocketAddr) :
      Move event core (core.adding (core.nextConn + 1) { target, candidates })
  | resolve {core} (conn : ConnId) (target : Target) :
      Move event core { core with actions := core.actions ++ [.resolve conn target] }
  | reopen {core} (conn : ConnId) (state : Conn) (address : SocketAddr)
      (found : core.conns[conn]? = some state) :
      Move event core (core.reopening conn state address)
  | fail {core} (conn : ConnId) (state : Conn) (found : core.conns[conn]? = some state) :
      Move event core (core.failing conn state)
  | start {core} (conn : ConnId) (state : Conn) (found : core.conns[conn]? = some state) :
      Move event core (core.starting conn state)
  | giveUp {core} (conn : ConnId) (state : Conn) (timedOut : Bool) (found : core.conns[conn]? = some state) :
      Move event core (core.putting conn { state with connectDeadline := none, connectTimedOut := timedOut })
  -- targets
  | forsake {core} (number : Nat) (key : TimerKey) (target : Target)
      (listed : core.client.reconnects[number]? = some (key, target)) :
      Move event core
        { core with
          client := { core.client with reconnects := core.client.reconnects.erase number }
          timers := core.timers.cancel (some key) }
  | unwant {core} (target : Target) : Move event core
        { core with
          client :=
            { core.client with
              byTarget := core.client.byTarget.erase target
              firstConnectionOver := core.client.firstConnectionOver.erase target } }
  | reconnect {core} (number : Nat) : Move event core
        { core with
          client := { core.client with reconnects := core.client.reconnects.erase number } }
  -- heartbeats
  | beat {core} (conn : ConnId) (state next : Conn) (deadline : Instant)
      (found : core.conns[conn]? = some state) (same : next.beatless = state.beatless)
      (slot : next.sendHeartbitTimer = some (core.timers.nextKey + 1))
      (other : next.requireHeartbitTimer = state.requireHeartbitTimer) :
      Move event core
        { core with
          timers := core.timers.arm deadline (.sendHeartbit conn)
          conns := core.conns.insert conn next }
  | silence {core} (conn : ConnId) (state next : Conn) (deadline : Instant) (due : Due)
      (is : due = .requireHeartbitSoon conn ∨ due = .requireHeartbitNow conn)
      (found : core.conns[conn]? = some state) (same : next.beatless = state.beatless)
      (slot : next.requireHeartbitTimer = some (core.timers.nextKey + 1))
      (other : next.sendHeartbitTimer = state.sendHeartbitTimer) :
      Move event core
        { core with
          timers := core.timers.arm deadline due
          conns := core.conns.insert conn next }
  | unsilence {core} (conn : ConnId) (state : Conn) (found : core.conns[conn]? = some state) :
      Move event core { core with timers := core.timers.cancel state.requireHeartbitTimer }
  | pulse {core} (conn : ConnId) (state next : Conn) (found : core.conns[conn]? = some state)
      (same : next.beatless = state.beatless)
      (beats : next.sendHeartbitTimer = state.sendHeartbitTimer ∨ next.sendHeartbitTimer = none)
      (silences : next.requireHeartbitTimer = state.requireHeartbitTimer ∨ next.requireHeartbitTimer = none) :
      Move event core (core.putting conn next)
  -- queues
  | queue {core} (conn : ConnId) (state next : Conn) (actions : List Action)
      (found : core.conns[conn]? = some state) (same : next.bearing = state.bearing) :
      Move event core { core.putting conn next with actions }
  -- timers and posted work
  | fired {core} : Move event core core.fired
  | failed {core} (conn : ConnId) :
      Move event core { core with posted := core.posted ++ [.connectFailed conn] }
  | work {core} (first : Posted) (rest : List Posted) (queued : core.posted = first :: rest) :
      Move event core { core with posted := rest }

abbrev Moves (event : Event) : Core → Core → Prop := Relation.ReflTransGen (Move event)

variable {event : Event}

variable {core after : Core} {conn : ConnId}

theorem Turns.moves (turns : Turns event .all core after) : Moves event core after :=
  Relation.ReflTransGen.mono (fun _ _ => .fine) _ _ turns.fines

theorem Change.moves (change : Change event .all core after) : Moves event core after :=
  .single (.fine (.change change))

theorem Turning.moving {α : Type} {program : Client α} (turning : Turning event .all program) :
    Keeps (Moves event) program :=
  fun core => Turns.moves (turning core)

/-! ## Connects and targets -/

theorem Connects.moves {target : Target} (connects : Connects target core after) :
    Moves event core after := by
  cases connects with
  | kept => exact .refl
  | anew =>
    unfold Core.opening
    dsimp only
    split
    · rename_i ip address
      exact (Relation.ReflTransGen.single (.add target [⟨ip, target.port⟩])).tail
        (.reopen _ _ _ TreeMap.getElem?_insert_self)
    · exact (Relation.ReflTransGen.single (.add target [])).tail (.resolve _ target)

theorem forsaking_moves (target : Target) (core : Core) : Moves event core ((forsaking target).after core) := by
  have drops : ∀ (drop : Nat × TimerKey × Target → Client Unit) (_ : ∀ entry core, (drop entry).after core =
        { core with
          client := { core.client with reconnects := core.client.reconnects.erase entry.1 }
          timers := core.timers.cancel (some entry.2.1) })
      (entries : List (Nat × TimerKey × Target)) (core : Core)
      (_ : entries.Pairwise fun one two => one.1 ≠ two.1)
      (_ : ∀ entry ∈ entries, core.client.reconnects[entry.1]? = some entry.2),
      Moves event core ((forEach entries drop).after core) := by
    intro _ one entries
    induction entries with
    | nil => exact fun _ _ _ => .refl
    | cons entry _ ih =>
      intro core distinct listed
      obtain ⟨apart, distinct⟩ := pairwise_cons.mp distinct
      rw [forEach_cons, after_bind, one]
      refine .head (.forsake entry.1 entry.2.1 entry.2.2 (listed entry mem_cons_self))
        (ih _ distinct fun other member => ?_)
      change (core.client.reconnects.erase entry.1)[other.1]? = _
      rw [Lookup.erase_apply, if_neg (apart other member).symm]
      exact listed other (mem_cons_of_mem _ member)
  have distinct : core.client.reconnects.toList.Pairwise fun one two => one.1 ≠ two.1 :=
    TreeMap.distinct_keys_toList.imp fun {one two} differ same =>
      differ (LawfulEqOrd.compare_eq_iff_eq.mpr same)
  unfold forsaking
  rw [after_get_bind, after_bind]
  refine (drops _ (fun _ _ => rfl) _ core (distinct.sublist filter_sublist)
    fun entry member => ?_).tail (.unwant target)
  exact TreeMap.mem_toList_iff_getElem?_eq_some.mp (mem_of_mem_filter member)

/-! ## Heartbeats -/

section

variable (conn)

theorem processSendQueue_moves (core : Core) : Moves event core ((processSendQueue conn).after core) := by
  cases found : core.conns[conn]? with
  | none =>
    unfold processSendQueue getConn
    rw [after_gets_bind, found]
    exact .refl
  | some state =>
    rcases processSendQueue_cases found with ⟨same, -⟩ | ⟨_, -, -, -, begun⟩
    · rw [same]
    · rw [begun]
      exact .single (.queue conn state _ _ found rfl)

theorem sendHeartbitLater_moves (core : Core) : Moves event core ((sendHeartbitLater conn).after core) := by
  unfold sendHeartbitLater
  rw [after_get_bind]
  split
  · exact .refl
  · rename_i state found
    split
    · exact .refl
    · split
      · exact .single (.beat conn state _ _ found rfl rfl rfl)
      · exact .single (.pulse conn state _ found rfl (.inl rfl) (.inl rfl))

theorem sendHeartbitNow_moves (core : Core) : Moves event core ((sendHeartbitNow conn).after core) := by
  unfold sendHeartbitNow
  rw [after_get_bind]
  split
  · exact .refl
  · rename_i state found
    split
    · exact .single (.pulse conn state _ found rfl (.inr rfl) (.inl rfl))
    · split
      · exact .single (.beat conn state _ _ found rfl rfl rfl)
      · have beats : Turning event .all (schedule conn (heartbitFrame core.instanceId) true true) :=
          (WayIn.own conn _ true true rfl).turning
        refine .head (.pulse conn state { state with sendHeartbitTimer := none } found rfl
          (.inr rfl) (.inl rfl)) ?_
        exact beats.moving _

theorem requireHeartbitLater_moves (core : Core) : Moves event core ((requireHeartbitLater conn).after core) := by
  unfold requireHeartbitLater
  rw [after_get_bind]
  split
  · exact .refl
  · rename_i state found
    split
    · exact .single (.pulse conn state _ found rfl (.inl rfl) (.inl rfl))
    · exact .head (.unsilence conn state found) (.single (.silence conn state _ _ _ (.inl rfl) found rfl rfl rfl))

theorem requireHeartbitSoon_moves (core : Core) : Moves event core ((requireHeartbitSoon conn).after core) := by
  unfold requireHeartbitSoon
  rw [after_get_bind]
  split
  · exact .refl
  · rename_i state found
    split
    · exact .single (.pulse conn state _ found rfl (.inl rfl) (.inr rfl))
    · split
      · exact .single (.silence conn state _ _ _ (.inl rfl) found rfl rfl rfl)
      · exact .single (.silence conn state _ _ _ (.inr rfl) found rfl rfl rfl)

theorem greeting_moves {welcome : OutFrame} (own : welcome.own = true)
    (core : Core) : Moves event core ((greeting conn welcome).after core) := by
  have goes : Turning event .all (schedule conn welcome true true) :=
    (WayIn.own conn welcome true true own).turning
  unfold greeting
  rw [after_bind, after_bind]
  exact (goes.moving core).trans ((sendHeartbitLater_moves conn _).trans (requireHeartbitLater_moves conn _))

end

/-! ## Timers -/

theorem requireHeartbitNow_moves (shut : core.ShutDown conn) :
    Moves event core ((requireHeartbitNow conn).after core) := by
  unfold requireHeartbitNow getConn
  rw [after_gets_bind]
  split
  · exact .refl
  · rename_i state found
    have ended : (!state.shutsDown) = false := by rw [shut state found, Bool.not_true]
    rw [after_bind, ended, when_false]
    exact .single (.pulse conn state _ found rfl (.inl rfl) (.inr rfl))

theorem readToTheEndBound_moves (shut : core.ShutDown conn) :
    Moves event core ((readToTheEndBound conn).after core) := by
  unfold readToTheEndBound getConn
  rw [after_gets_bind]
  split
  · exact .refl
  · rename_i state found
    have ended : (!state.shutsDown) = false := by rw [shut state found, Bool.not_true]
    rw [after_bind, ended, when_false]
    exact .single (.pulse conn state _ found rfl (.inr rfl) (.inl rfl))

theorem connectDeadline_moves (conn : ConnId) (core : Core) :
    Moves event core ((connectDeadline conn).after core) := by
  unfold connectDeadline getConn
  rw [after_gets_bind]
  split
  · exact .refl
  · rename_i state found
    rw [after_bind]
    refine .head (.giveUp conn state (state.connecting || state.connectTimedOut) found) ?_
    cases state.connecting with
    | false => exact .refl
    | true => exact (Change.ask (.cancelConnect conn) rfl).moves

theorem falling_moves {state : Conn} (next : Conn) (found : core.conns[conn]? = some state)
    (same : next.beatless = state.beatless)
    (beats : next.sendHeartbitTimer = state.sendHeartbitTimer ∨ next.sendHeartbitTimer = none)
    (silences : next.requireHeartbitTimer = state.requireHeartbitTimer ∨
      next.requireHeartbitTimer = none)
    (falls : Falls .timer conn next (core.putting conn next) after) : Moves event core after :=
  .head (.pulse conn state next found same beats silences) (Turns.moves ((falls.elsewhere (by simp)).turns trivial))

theorem Fires.moves {fired : Timers.Fired} (fires : Fires core fired after) :
    Moves event core after := by
  refine .head .fired ?_
  cases fires with
  | nothing | query | apart => exact .refl
  | beat conn => exact sendHeartbitNow_moves conn _
  | soon conn => exact requireHeartbitSoon_moves conn _
  | silent conn state found falls =>
    exact falling_moves { state with requireHeartbitTimer := none } found rfl (.inl rfl) (.inr rfl)
      falls
  | silentOver conn shut => exact requireHeartbitNow_moves shut
  | bound conn state found falls =>
    exact falling_moves { state with sendHeartbitTimer := none } found rfl (.inr rfl) (.inl rfl)
      falls
  | boundOver conn shut => exact readToTheEndBound_moves shut
  | connectDeadline conn => exact connectDeadline_moves conn _
  | expiry => exact WayIn.expire.turning.moving _
  | noReconnect => exact .refl
  | reconnect number key target found connects =>
    refine .head (.reconnect number) ?_
    rcases connects with ⟨rfl, -⟩ | connects
    · exact .refl
    · exact connects.moves

/-! ## Every event -/

theorem written_moves {state : Conn} (front : QueueEntry) (found : core.conns[conn]? = some state) :
    Moves event core ((refilling conn state).after ((popping conn state front).after core)) := by
  have pops : Moves event core (core.putting conn state.popped) :=
    .single (.queue conn state state.popped core.actions found rfl)
  have wrote : Turning event .all (wroteEntry conn front) := (wroteEntry_shifting conn front).turning
  have refills : Turning event .all (refilling conn state) :=
    .get fun _ => .when (WayIn.outgoingQueueHasRoom conn).turning
  unfold popping
  rw [after_bind, after_bind, after_bind]
  exact pops.trans ((wrote.moving _).trans ((sendHeartbitLater_moves conn _).trans
    ((processSendQueue_moves conn _).trans (refills.moving _))))

theorem Onset.moves {first : Event} (onset : Onset first core after) : Moves event core after := by
  have read : ∀ (core : Core) (conn : ConnId) (state : Conn),
      (core.putting conn state).conns[conn]? = some state := fun _ _ _ =>
    TreeMap.getElem?_insert_self
  have rest : ∀ {event : Event} {core : Core} {conn : ConnId} {state : Conn},
      core.conns[conn]? = some state → Moves event core (core.putting conn state.rested) :=
    fun {_ core conn state} found => .single (.queue conn state state.rested core.actions found rfl)
  induction onset with
  | plain | tooLate | leaving | unresolved | unknown | unstarted | unheard | stray | nothing =>
    exact .refl
  | connect target connects | startConnect target timeout done runs connects => exact connects.moves
  | forsake target => exact forsaking_moves target _
  | cut target _ _ _ _ _ falls =>
    exact (forsaking_moves target _).trans (Turns.moves ((falls.elsewhere (by simp)).turns trivial))
  | close target _ _ _ _ departs =>
    exact (forsaking_moves target _).trans (Turns.moves ((departs.elsewhere (by simp)).turns trivial))
  | openFailed conn => exact .single (.failed conn)
  | resolved conn state candidates address found =>
    exact (Change.put conn state { state with candidates, nextCandidate := 0 } found rfl).moves.tail
      (.reopen conn _ address (read _ _ _))
  | up conn state _ found own =>
    exact .head (.start conn state found) (greeting_moves conn own _)
  | swamped conn state found => exact .single (.start conn state found)
  | failed conn state found => exact .single (.fail conn state found)
  | retried conn state address found =>
    exact .head (.fail conn state found) (.single (.reopen conn _ address (read _ _ _)))
  | started conn | heard conn => exact requireHeartbitLater_moves conn _
  | settled conn _ written failed found =>
    have winds : Turning event .all (windingUp conn written failed) :=
      .bind (settleSetAside_turning conn written failed) fun _ => forgetIfFinished_turning trivial
    exact (rest found).trans (winds.moving _)
  | unwritten _ _ _ _ found => exact rest found
  | fell _ _ _ _ found _ _ _ falls =>
    exact (rest found).trans (Turns.moves ((falls.elsewhere (by simp)).turns trivial))
  | broke _ _ _ _ found _ _ departs =>
    exact (rest found).trans (Turns.moves ((departs.elsewhere (by simp)).turns trivial))
  | written _ _ front _ _ found =>
    exact written_moves front found
  | timer fires => exact fires.moves
  | posted first rest queued => exact .single (.work first rest queued)
  | postedFailed _ rest queued _ ih =>
    exact .head (.work _ rest queued) ih

/-- Every event moves the core only by these moves. -/
theorem handle_moves (event : Event) (core : Core) : Moves event core ((handle event).after core) := by
  obtain ⟨_, onset, acts⟩ := handle_goes event core
  exact onset.moves.trans acts.turns.moves

end Multiplexer
