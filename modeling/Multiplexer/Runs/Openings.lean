import Multiplexer.Runs.Channel

/-! A connection is on its way up once at most: the driver is asked for one thing at a time, a
name or a socket, and while it has not answered the connection is as it was made, or gone. -/

set_option autoImplicit false

namespace Multiplexer

open Program List Std

structure Conn.Fresh (state : Conn) : Prop where
  dead : state.living = false
  stays : state.shutsDown = false
  untold : state.toldGone = false
  unregistered : state.registered = false
  deaf : state.reading = false
  free : state.out = .free
  empty : state.outgoing = []
  rests : state.writeInFlight = false
  limit : state.outgoingMax = 1

def Conn.bud (state : Conn) : Bool × Bool × Bool × Bool × Bool × Channel × List QueueEntry × Bool × Nat :=
  (state.living, state.shutsDown, state.toldGone, state.registered, state.reading, state.out,
    state.outgoing, state.writeInFlight, state.outgoingMax)

variable {state : Conn} {core after : Core} {event : Event} {spent : ConnId → Prop} {conn : ConnId}
  {asked : Asked}

theorem Conn.Fresh.of_bud {next : Conn} (same : next.bud = state.bud) (fresh : state.Fresh) :
    next.Fresh := by
  simp only [bud, Prod.mk.injEq] at same
  obtain ⟨living, shut, told, registered, reading, out, outgoing, flight, limit⟩ := same
  exact ⟨living.trans fresh.dead, shut.trans fresh.stays, told.trans fresh.untold,
    registered.trans fresh.unregistered, reading.trans fresh.deaf, out.trans fresh.free,
    outgoing.trans fresh.empty, flight.trans fresh.rests, limit.trans fresh.limit⟩

theorem Conn.Bides.fresh {next : Conn} (bides : state.Bides next) (fresh : state.Fresh) :
    next.Fresh := by
  have same : next.bud = state.bud :=
    show next.mien.bud = state.mien.bud from congrArg _ (bides.still fresh.dead)
  exact .of_bud same fresh

/-! ## What is under way -/

def Posted.fails (conn : ConnId) : Posted → Bool
  | .connectFailed each => each = conn
  | _ => false

def Core.openings (core : Core) (asked : Asked) (conn : ConnId) : Nat :=
  asked.opens.count conn + asked.resolves.count conn + core.posted.countP (Posted.fails conn)

structure Core.Opens (core : Core) (asked : Asked) : Prop where
  once : ∀ conn : ConnId, core.openings asked conn ≤ 1
  fresh : ∀ (conn : ConnId) (state : Conn), 0 < core.openings asked conn →
    core.conns[conn]? = some state → state.Fresh
  known : ∀ conn : ConnId, 0 < core.openings asked conn → conn ≤ core.nextConn

theorem Core.Asks.openings (asks : core.Asks after) (owed : Asked) (conn : ConnId) :
    after.openings (after.asked owed) conn = core.openings (core.asked owed) conn := by
  obtain ⟨_, asked⟩ := asks.asked
  obtain ⟨more, posted, none⟩ := asks.posted
  have nothing : more.countP (Posted.fails conn) = 0 := by
    refine countP_eq_zero.mpr fun work member fails => ?_
    cases work with
    | connectFailed each =>
      have same : each = conn := by simpa [Posted.fails] using fails
      exact none conn (same ▸ member)
    | _ => cases fails
  unfold Core.openings
  rw [asked, posted, countP_append, nothing]
  rfl

structure Core.Ripens (spent : ConnId → Prop) (core after : Core) : Prop where
  asks : core.Asks after
  fresh : ∀ (conn : ConnId) (next : Conn), ¬spent conn → after.conns[conn]? = some next →
    ∃ state : Conn, core.conns[conn]? = some state ∧ (state.Fresh → next.Fresh)

namespace Core.Ripens

variable {spent : ConnId → Prop} {core after : Core} {conn : ConnId} {state next : Conn}

theorem trans {last : Core} (one : core.Ripens spent after) (two : after.Ripens spent last) :
    core.Ripens spent last where
  asks := one.asks.trans two.asks
  fresh conn next keeps found := by
    obtain ⟨between, also, later⟩ := two.fresh conn next keeps found
    obtain ⟨state, before, sooner⟩ := one.fresh conn between keeps also
    exact ⟨state, before, later ∘ sooner⟩

theorem of_conns (asks : core.Asks after) (same : after.conns = core.conns) : core.Ripens spent after :=
  ⟨asks, fun _ next _ found => ⟨next, same ▸ found, id⟩⟩

theorem refl (core : Core) : core.Ripens spent core := of_conns (.refl core) rfl

theorem of_insert (asks : core.Asks after) (found : core.conns[conn]? = some state)
    (inserted : after.conns = core.conns.insert conn next)
    (fresh : ¬spent conn → state.Fresh → next.Fresh) : core.Ripens spent after where
  asks := asks
  fresh _ last keeps read := by
    rw [inserted] at read
    obtain ⟨rfl, rfl⟩ | ⟨-, read⟩ := Lookup.of_insert read
    · exact ⟨state, found, fresh keeps⟩
    · exact ⟨last, read, id⟩

theorem of_bud (asks : core.Asks after) (found : core.conns[conn]? = some state)
    (inserted : after.conns = core.conns.insert conn next) (same : next.bud = state.bud) :
    core.Ripens spent after :=
  of_insert asks found inserted fun _ => .of_bud same

theorem opens {owed : Asked} (ripens : core.Ripens spent after)
    (opens : core.Opens (core.asked owed))
    (none : ∀ conn, spent conn → core.openings (core.asked owed) conn = 0) :
    after.Opens (after.asked owed) where
  once conn := by
    rw [ripens.asks.openings]
    exact opens.once conn
  fresh conn next some_ found := by
    rw [ripens.asks.openings] at some_
    obtain ⟨state, before, fresh⟩ := ripens.fresh conn next
      (fun is => absurd (none conn is) (Nat.ne_of_gt some_)) found
    exact fresh (opens.fresh conn state some_ before)
  known conn some_ := by
    rw [ripens.asks.openings] at some_
    rw [ripens.asks.nextConn]
    exact opens.known conn some_

end Core.Ripens

/-! ## Acts -/

theorem Turns.ripens {leave : Leave} (turns : Turns event leave core after)
    (falls : ∀ conn next, leave.falls conn ∨ leave.joins conn → ¬spent conn →
      after.conns[conn]? = some next → ∃ state : Conn, core.conns[conn]? = some state ∧
        (state.Fresh → next.Fresh)) : core.Ripens spent after where
  asks := turns.asks
  fresh conn next keeps found := by
    by_cases may : leave.falls conn ∨ leave.joins conn
    · exact falls conn next may keeps found
    · obtain ⟨stays, apart⟩ := not_or.mp may
      obtain ⟨state, before, -⟩ := turns.lasts.ages conn next found
      obtain ⟨_, read, bides⟩ := turns.spares.bides conn state stays apart before
      cases found.symm.trans read
      exact ⟨state, before, bides.fresh⟩

theorem Turns.ripens_still (turns : Turns event .still core after) : core.Ripens spent after :=
  turns.ripens fun _ _ may => may.elim False.elim False.elim

theorem Falls.ripens (falls : Falls event conn state core after) : core.Ripens spent after := by
  have turns : Turns event (.only conn) core after := falls.turns rfl
  refine turns.ripens fun each next may _ found => ?_
  rcases may with is | is
  · have same : each = conn := is
    subst same
    refine ⟨state, falls.found, fun fresh => ?_⟩
    obtain ⟨_, known, ages⟩ := turns.lasts.ages each next found
    cases falls.found.symm.trans known
    cases (falls.buries next found).writes.symm.trans (ages.rests fresh.dead fresh.rests)
  · exact is.elim

theorem Departs.ripens {deliver : Bool} (departs : Departs event conn state deliver core after) :
    core.Ripens spent after := by
  have turns : Turns event (.only conn) core after := departs.turns rfl
  refine turns.ripens fun each next may _ found => ?_
  rcases may with is | is
  · have same : each = conn := is
    subst same
    exact ⟨state, departs.found, fun fresh =>
      nomatch departs.registered.symm.trans fresh.unregistered⟩
  · exact is.elim

theorem Act.ripens (act : Act event core after) : core.Ripens spent after := by
  cases act with
  | turn turn => exact Turns.ripens_still (.single turn)
  | fall _ _ falls => exact falls.ripens
  | depart _ _ _ departs => exact departs.ripens
  | meet _ _ _ _ found => exact .of_bud (.of_quiet rfl) found rfl rfl
  | enrol conn state enlists =>
    have turns : Turns event (.joining conn) core
        ((enrolling conn state.enlisted).after (core.enlisting conn state)) :=
      enrol_turns rfl enlists
    refine turns.ripens fun each next may _ found => ?_
    rcases may with is | is
    · exact is.elim
    · have same : each = conn := is
      subst same
      exact ⟨state, enlists.found, fun fresh => nomatch enlists.reads.symm.trans fresh.deaf⟩

theorem Acts.ripens (acts : Acts event core after) : core.Ripens spent after := by
  induction acts with
  | refl => exact .refl core
  | tail _ act ih => exact ih.trans act.ripens

/-! ## Heartbeats and timers -/

/-- A connection but for its timers and what they tell. -/
def Conn.still (conn : Conn) : Conn :=
  { conn with
    sendHeartbitTimer := none, quietSince := none, requireHeartbitTimer := none, heardAt := none
    silenceSecondWait := false, connectDeadline := none, connectTimedOut := false }

theorem Conn.still_bud {next : Conn} (same : next.still = state.still) : next.bud = state.bud :=
  show next.still.bud = state.still.bud from congrArg bud same

/-- What goes from core to core along every step that a timer takes, a connect apart. -/
structure Ticks (Goes : Core → Core → Prop) : Prop where
  refl : ∀ core, Goes core core
  trans : ∀ {first second third}, Goes first second → Goes second third → Goes first third
  pulse : ∀ {core : Core} {conn : ConnId} {state : Conn} (next : Conn) (timers : Timers),
    core.conns[conn]? = some state → next.still = state.still →
      Goes core { core with timers, conns := core.conns.insert conn next }
  way : ∀ {α : Type} {program : Client α}, WayIn program → ∀ core, Goes core (program.after core)
  falls : ∀ {core after : Core} {conn : ConnId} {state : Conn},
    Falls .timer conn state core after → Goes core after
  aside : ∀ (core : Core) (timers : Timers) (reconnects : TreeMap Nat (TimerKey × Target)),
    Goes core { core with timers, client := { core.client with reconnects } }
  cancels : ∀ (core : Core) (conn : ConnId),
    Goes core { core with actions := core.actions ++ [.cancelConnect conn] }

namespace Ticks

variable {Goes : Core → Core → Prop}

section

variable (ticks : Ticks Goes)

include ticks

section

variable (conn)

theorem sendHeartbitLater (core : Core) : Goes core ((sendHeartbitLater conn).after core) := by
  unfold Multiplexer.sendHeartbitLater
  rw [after_get_bind]
  split
  · exact ticks.refl core
  · rename_i state found
    split
    · exact ticks.refl core
    · split
      · exact ticks.pulse _ _ found rfl
      · exact ticks.pulse _ _ found rfl

theorem sendHeartbitNow (core : Core) : Goes core ((sendHeartbitNow conn).after core) := by
  unfold Multiplexer.sendHeartbitNow
  rw [after_get_bind]
  split
  · exact ticks.refl core
  · rename_i state found
    split
    · exact ticks.pulse _ _ found rfl
    · split
      · exact ticks.pulse _ _ found rfl
      · rw [after_bind]
        exact ticks.trans (ticks.pulse { state with sendHeartbitTimer := none } core.timers found rfl)
          (ticks.way (WayIn.own conn (heartbitFrame core.instanceId) true true rfl) _)

theorem requireHeartbitLater (core : Core) : Goes core ((requireHeartbitLater conn).after core) := by
  unfold Multiplexer.requireHeartbitLater
  rw [after_get_bind]
  split
  · exact ticks.refl core
  · rename_i state found
    split
    · exact ticks.pulse _ _ found rfl
    · exact ticks.pulse _ _ found rfl

theorem requireHeartbitSoon (core : Core) : Goes core ((requireHeartbitSoon conn).after core) := by
  unfold Multiplexer.requireHeartbitSoon
  rw [after_get_bind]
  split
  · exact ticks.refl core
  · rename_i state found
    split
    · exact ticks.pulse _ _ found rfl
    · split
      · exact ticks.pulse _ _ found rfl
      · exact ticks.pulse _ _ found rfl

theorem greeting {welcome : OutFrame} (own : welcome.own = true)
    (core : Core) : Goes core ((greeting conn welcome).after core) := by
  unfold Multiplexer.greeting
  rw [after_bind, after_bind]
  exact ticks.trans (ticks.way (WayIn.own conn welcome true true own) _)
    (ticks.trans (ticks.sendHeartbitLater conn _) (ticks.requireHeartbitLater conn _))

theorem connectDeadline (core : Core) : Goes core ((connectDeadline conn).after core) := by
  unfold Multiplexer.connectDeadline getConn
  rw [after_gets_bind]
  split
  · exact ticks.refl core
  · rename_i state found
    have gaveUp := ticks.pulse { state with
      connectDeadline := none, connectTimedOut := state.connecting || state.connectTimedOut }
      core.timers found rfl
    rw [after_bind]
    refine ticks.trans gaveUp ?_
    cases state.connecting with
    | false => exact ticks.refl _
    | true => exact ticks.cancels _ conn

end

theorem fires {fired : Timers.Fired} (fires : Fires core fired after) :
    Goes core after ∨ ∃ target timers reconnects, Connects target
      { core with timers, client := { core.client with reconnects } } after := by
  have begins : Goes core core.fired := ticks.aside core _ core.client.reconnects
  have puts : ∀ {conn : ConnId} {state : Conn} (next : Conn), core.conns[conn]? = some state →
      next.still = state.still → Goes core (core.fired.putting conn next) :=
    fun next found same => ticks.pulse next _ found same
  cases fires with
  | nothing | query | apart => exact .inl begins
  | beat conn => exact .inl (ticks.trans begins (ticks.sendHeartbitNow conn _))
  | soon conn => exact .inl (ticks.trans begins (ticks.requireHeartbitSoon conn _))
  | silent conn state found falls =>
    exact .inl (ticks.trans (puts { state with requireHeartbitTimer := none } found rfl)
      (ticks.falls falls))
  | silentOver conn shut =>
    refine .inl (ticks.trans begins ?_)
    unfold requireHeartbitNow getConn
    rw [after_gets_bind]
    split
    · exact ticks.refl _
    · rename_i state found
      have ended : (!state.shutsDown) = false := by rw [shut state found, Bool.not_true]
      rw [after_bind, ended, when_false]
      exact ticks.pulse _ core.fired.timers found rfl
  | bound conn state found falls =>
    exact .inl (ticks.trans (puts { state with sendHeartbitTimer := none } found rfl)
      (ticks.falls falls))
  | boundOver conn shut =>
    refine .inl (ticks.trans begins ?_)
    unfold readToTheEndBound getConn
    rw [after_gets_bind]
    split
    · exact ticks.refl _
    · rename_i state found
      have ended : (!state.shutsDown) = false := by rw [shut state found, Bool.not_true]
      rw [after_bind, ended, when_false]
      exact ticks.pulse _ core.fired.timers found rfl
  | connectDeadline conn => exact .inl (ticks.trans begins (ticks.connectDeadline conn _))
  | expiry => exact .inl (ticks.trans begins (ticks.way .expire _))
  | noReconnect => exact .inl begins
  | reconnect number key target found connects =>
    rcases connects with ⟨rfl, -⟩ | connects
    · exact .inl (ticks.aside core _ _)
    · exact .inr ⟨target, _, _, connects⟩

end

end Ticks

theorem WayIn.ripens {α : Type} {program : Client α} (way : WayIn program) (core : Core) :
    core.Ripens spent (program.after core) := by
  have turns : Turns .timer .still core (program.after core) := way.turning core
  exact turns.ripens_still

theorem Core.Ripens.ticks : Ticks (Core.Ripens spent) where
  refl := .refl
  trans := .trans
  pulse _ _ found same := .of_bud (.of_quiet rfl) found rfl (Conn.still_bud same)
  way way core := way.ripens core
  falls falls := falls.ripens
  aside _ _ _ := .of_conns (.of_quiet rfl) rfl
  cancels _ _ := .of_conns (.of_plain (fun _ => rfl) rfl rfl rfl) rfl

/-! ## Writes -/

section Writes

variable {spent : ConnId → Prop} {core : Core} {conn : ConnId} {state : Conn}

theorem processSendQueue_ripens (conn : ConnId) (core : Core) :
    core.Ripens spent ((processSendQueue conn).after core) := by
  have asks := processSendQueue_asks conn core
  cases found : core.conns[conn]? with
  | none =>
    refine .of_conns asks ?_
    unfold processSendQueue getConn
    rw [after_gets_bind, found]
    rfl
  | some =>
    rcases processSendQueue_cases found with ⟨same, -⟩ | ⟨_, -, -, first, begun⟩
    · rw [same]
      exact .refl core
    · refine .of_insert asks found (congrArg Core.conns begun) fun _ fresh => ?_
      rw [fresh.empty] at first
      cases first

theorem resting_ripens (found : core.conns[conn]? = some state) :
    core.Ripens spent (core.putting conn state.rested) :=
  .of_insert (.of_quiet rfl) found rfl fun _ fresh => { fresh with rests := rfl }

theorem written_ripens {front : QueueEntry} (found : core.conns[conn]? = some state)
    (first : state.outgoing.head? = some front) :
    core.Ripens spent ((refilling conn state).after ((popping conn state front).after core)) := by
  have pops : core.Ripens spent (core.putting conn state.popped) := by
    refine .of_insert (.of_quiet rfl) found rfl fun _ fresh => ?_
    rw [fresh.empty] at first
    cases first
  have wrote : Turning .timer .still (wroteEntry conn front) :=
    (wroteEntry_shifting conn front).turning
  have refills : Turning .timer .still (refilling conn state) :=
    .get fun _ => .when (WayIn.outgoingQueueHasRoom conn).turning
  unfold popping
  rw [after_bind, after_bind, after_bind]
  exact pops.trans ((Turns.ripens_still (wrote _)).trans ((Core.Ripens.ticks.sendHeartbitLater conn _).trans
    ((processSendQueue_ripens conn _).trans (Turns.ripens_still (refills _)))))

theorem windingUp_ripens (conn : ConnId) (written : Nat) (failed : Bool) (core : Core) :
    core.Ripens spent ((windingUp conn written failed).after core) := by
  have settles : Turning .timer .still (settleSetAside conn written failed) :=
    settleSetAside_turning conn written failed
  have forgets : ∀ core : Core, core.Ripens spent ((forgetIfFinished conn).after core) := by
    intro core
    change core.Ripens spent (if core.conns[conn]?.any Conn.finished then
      { core with conns := core.conns.erase conn } else core)
    split
    · refine ⟨.of_quiet rfl, fun each next _ found => ⟨next, ?_, id⟩⟩
      change (core.conns.erase conn)[each]? = _ at found
      rw [Lookup.erase_apply] at found
      split at found
      · cases found
      · exact found
    · exact .refl core
  unfold windingUp
  rw [after_bind]
  exact (Turns.ripens_still (settles _)).trans (forgets _)

end Writes

/-! ## Answers -/

structure Core.Answered (core : Core) (asked : Asked) (conn : ConnId) : Prop extends core.Opens asked where
  none : core.openings asked conn = 0
  mine : conn ≤ core.nextConn
  never : ∀ state : Conn, core.conns[conn]? = some state → state.Fresh

theorem Core.Opens.answer {less : Asked} (opens : core.Opens asked)
    (conns : after.conns = core.conns) (nextConn : after.nextConn = core.nextConn)
    (count : ∀ each, core.openings asked each =
      after.openings less each + if each = conn then 1 else 0) : after.Answered less conn := by
  have some_ : 0 < core.openings asked conn := by
    rw [count, if_pos rfl]
    exact Nat.succ_pos _
  have fewer : ∀ each, after.openings less each ≤ core.openings asked each := fun each => by
    rw [count]
    exact Nat.le_add_right _ _
  refine ⟨⟨fun each => (fewer each).trans (opens.once each), fun each state is found => ?_,
    fun each is => ?_⟩, ?_, ?_, fun state found => ?_⟩
  · exact opens.fresh each state (is.trans_le (fewer each)) (conns ▸ found)
  · exact nextConn ▸ opens.known each (is.trans_le (fewer each))
  · have once := opens.once conn
    rw [count, if_pos rfl] at once
    exact Nat.le_zero.mp (Nat.le_of_succ_le_succ once)
  · exact nextConn ▸ opens.known conn some_
  · exact opens.fresh conn state some_ (conns ▸ found)

theorem Core.Opens.begin {more : Asked} (opens : core.Opens asked)
    (none : core.openings asked conn = 0) (count : ∀ each, after.openings more each =
      core.openings asked each + if each = conn then 1 else 0)
    (others : ∀ each, each ≠ conn → after.conns[each]? = core.conns[each]?)
    (fresh : ∀ state : Conn, after.conns[conn]? = some state → state.Fresh)
    (nextConn : core.nextConn ≤ after.nextConn) (known : conn ≤ after.nextConn) :
    after.Opens more where
  once each := by
    rw [count]
    split
    · rename_i same
      rw [same, none]
    · exact opens.once each
  fresh each state is found := by
    by_cases same : each = conn
    · subst same
      exact fresh state found
    · rw [count, if_neg same] at is
      exact opens.fresh each state is (others each same ▸ found)
  known each is := by
    by_cases same : each = conn
    · exact same ▸ known
    · rw [count, if_neg same] at is
      exact (opens.known each is).trans nextConn

section Counts

variable {core : Core} {asked : Asked} {conn : ConnId}

theorem count_single (conn each : ConnId) : [conn].count each = if each = conn then 1 else 0 := by
  by_cases same : each = conn
  · rw [same, if_pos rfl, count_singleton_self]
  · rw [if_neg same]
    exact count_eq_zero.mpr fun member => same (mem_singleton.mp member)

theorem openings_open (core : Core) (asked : Asked) (conn : ConnId) (address : SocketAddr)
    (each : ConnId) : core.openings (asked.add (.openSocket conn address)) each =
      core.openings asked each + if each = conn then 1 else 0 := by
  unfold Core.openings Asked.add
  dsimp only
  rw [count_append, count_single]
  omega

theorem openings_resolve (core : Core) (asked : Asked) (conn : ConnId) (target : Target)
    (each : ConnId) : core.openings (asked.add (.resolve conn target)) each =
      core.openings asked each + if each = conn then 1 else 0 := by
  unfold Core.openings Asked.add
  dsimp only
  rw [count_append, count_single]
  omega

theorem fails_count (conn each : ConnId) :
    [Posted.connectFailed conn].countP (Posted.fails each) = if each = conn then 1 else 0 := by
  by_cases same : each = conn
  · have fails : Posted.fails conn (.connectFailed conn) = true := decide_eq_true rfl
    rw [same, if_pos rfl, countP_singleton, if_pos fails]
  · rw [if_neg same, countP_singleton, if_neg]
    exact fun is => same (of_decide_eq_true is).symm

theorem count_erase {listed : List ConnId} (member : conn ∈ listed) (each : ConnId) :
    listed.count each = (listed.erase conn).count each + if each = conn then 1 else 0 := by
  by_cases same : each = conn
  · subst same
    have some_ : 0 < listed.count each := count_pos_iff.mpr member
    rw [count_erase_self, if_pos rfl]
    omega
  · rw [count_erase_of_ne same, if_neg same, Nat.add_zero]

end Counts

/-! ## Onsets -/

section Onsets

variable {core after : Core} {owed : Asked} {conn : ConnId} {state : Conn}

theorem reopening_opens {address : SocketAddr} (opens : core.Opens (core.asked owed))
    (none : core.openings (core.asked owed) conn = 0) (mine : conn ≤ core.nextConn)
    (fresh : state.Fresh) :
    (core.reopening conn state address).Opens ((core.reopening conn state address).asked owed) := by
  refine opens.begin none (fun each => ?_)
    (fun each other => (Lookup.insert_apply _ _ _ _).trans (if_neg other)) (fun next found => ?_)
    le_rfl mine
  · have asked : (core.reopening conn state address).asked owed =
        (core.asked owed).add (.openSocket conn address) :=
      core.asked_append owed [.openSocket conn address]
    rw [asked]
    exact openings_open core (core.asked owed) conn address each
  · change (core.conns.insert conn _)[conn]? = _ at found
    rw [TreeMap.getElem?_insert_self] at found
    cases found
    exact { fresh with }

theorem adding_opens (added : Conn) (opens : core.Opens (core.asked owed)) :
    (core.adding (core.nextConn + 1) added).Opens ((core.adding (core.nextConn + 1) added).asked owed) where
  once := opens.once
  fresh each next is found := by
    have known := opens.known each is
    change (core.conns.insert (core.nextConn + 1) added)[each]? = _ at found
    rw [Lookup.insert_apply, if_neg (Nat.ne_of_lt (Nat.lt_succ_of_le known))] at found
    exact opens.fresh each next is found
  known each is := (opens.known each is).trans (Nat.le_succ _)

theorem Connects.opens {target : Target} (connects : Connects target core after)
    (opens : core.Opens (core.asked owed)) : after.Opens (after.asked owed) := by
  cases connects with
  | kept => exact opens
  | anew =>
    -- the number of the new connection was never given before
    have none : core.openings (core.asked owed) (core.nextConn + 1) = 0 := by
      by_contra some_
      exact absurd (opens.known _ (Nat.pos_of_ne_zero some_)) (Nat.not_succ_le_self _)
    unfold Core.opening
    dsimp only
    split
    · rename_i ip address
      exact reopening_opens (adding_opens _ opens) none le_rfl ⟨rfl, rfl, rfl, rfl, rfl, rfl, rfl, rfl, rfl⟩
    · let added := core.adding (core.nextConn + 1) { target }
      have adds : added.Opens (added.asked owed) := adding_opens _ opens
      refine adds.begin none (fun each => ?_) (fun _ _ => rfl) (fun next found => ?_) le_rfl le_rfl
      · have asked : { added with
            actions := added.actions ++ [Action.resolve (core.nextConn + 1) target] }.asked owed =
            (added.asked owed).add (.resolve (core.nextConn + 1) target) :=
          added.asked_append owed [.resolve (core.nextConn + 1) target]
        rw [asked]
        exact openings_resolve added (added.asked owed) (core.nextConn + 1) target each
      · change (core.conns.insert (core.nextConn + 1) { target })[core.nextConn + 1]? = _ at found
        rw [TreeMap.getElem?_insert_self] at found
        cases found
        exact ⟨rfl, rfl, rfl, rfl, rfl, rfl, rfl, rfl, rfl⟩

theorem failing_ripens {spent : ConnId → Prop} (found : core.conns[conn]? = some state) :
    core.Ripens spent (core.failing conn state) :=
  .of_bud (.of_quiet rfl) found rfl rfl

theorem Onset.opens_connected {up : Bool} (onset : Onset (.connected conn up) core after)
    (answered : core.Answered (core.asked owed) conn) : after.Opens (after.asked owed) := by
  have spent : ∀ each, each = conn → core.openings (core.asked owed) each = 0 :=
    fun each is => is ▸ answered.none
  have starts : ∀ {state : Conn}, core.conns[conn]? = some state →
      core.Ripens (· = conn) (core.starting conn state) := by
    intro state found
    have here : (core.putting conn { state.tried with
        routingInWelcome := core.client.routingVersion }).Ripens (· = conn)
        (core.starting conn state) :=
      .of_insert (.of_plain (fun _ => rfl) rfl rfl rfl)
        TreeMap.getElem?_insert_self rfl fun other => absurd rfl other
    have put : core.Ripens (· = conn) (core.putting conn { state.tried with
        routingInWelcome := core.client.routingVersion }) :=
      .of_bud (.of_quiet rfl) found rfl rfl
    exact put.trans here
  cases onset with
  | plain plain => cases plain
  | unknown => exact answered.toOpens
  | up conn state _ found own =>
    have greets : (core.starting conn state).Ripens (· = conn) _ :=
      Core.Ripens.ticks.greeting conn own _
    exact ((starts found).trans greets).opens answered.toOpens spent
  | swamped _ _ found => exact (starts found).opens answered.toOpens spent
  | failed _ _ found => exact (failing_ripens found).opens answered.toOpens spent
  | retried conn state _ found =>
    have failed : core.Ripens (· = conn) (core.failing conn state) := failing_ripens found
    have fresh := answered.never state found
    refine reopening_opens (failed.opens answered.toOpens spent) ?_ answered.mine { fresh with }
    rw [failed.asks.openings]
    exact answered.none

theorem Fires.opens {fired : Timers.Fired} (fires : Fires core fired after)
    (opens : core.Opens (core.asked owed)) : after.Opens (after.asked owed) := by
  have unspent : ∀ conn, False → core.openings (core.asked owed) conn = 0 := fun _ => False.elim
  rcases Core.Ripens.ticks.fires fires with ripens | ⟨_, timers, reconnects, connects⟩
  · exact ripens.opens opens unspent
  · exact connects.opens ((Core.Ripens.ticks.aside core timers reconnects).opens opens unspent)

end Onsets

theorem Asked.answered_plain (plain : event.isPlain = true) (asked : Asked) : asked.answered event = asked := by
  cases event <;> first | rfl | cases plain

theorem forsaking_ripens (target : Target) (core : Core) : core.Ripens spent ((forsaking target).after core) := by
  obtain ⟨_, _, eq⟩ := forsaking_only target core
  rw [eq]
  exact .of_conns (.of_quiet rfl) rfl

theorem working_opens {first : Posted} {rest : List Posted} (queued : core.posted = first :: rest)
    (other : ∀ conn, first ≠ .connectFailed conn) (opens : core.Opens asked) :
    { core with posted := rest }.Opens asked := by
  have same : ∀ conn, { core with posted := rest }.openings asked conn = core.openings asked conn := by
    intro conn
    have not : Posted.fails conn first = false := by
      cases first with
      | connectFailed each => exact absurd rfl (other each)
      | _ => rfl
    unfold Core.openings
    rw [queued, countP_cons_of_neg (by simp [not])]
  refine ⟨fun conn => ?_, fun conn state is found => ?_, fun conn is => ?_⟩
  · rw [same]
    exact opens.once conn
  · rw [same] at is
    exact opens.fresh conn state is found
  · rw [same] at is
    exact opens.known conn is

theorem Core.asked_idle (idle : core.actions = []) (owed : Asked) : core.asked owed = owed := by
  unfold asked
  rw [idle]
  rfl

/-- An event answers one opening at most, and may begin others. -/
theorem Onset.opens (onset : Onset event core after) (idle : core.actions = [])
    (opens : core.Opens asked) (allowed : asked.Allows event) :
    after.Opens (after.asked (asked.answered event)) := by
  have ripe : ∀ {owed : Asked} {last : Core}, core.Opens owed → core.Ripens (fun _ => False) last →
      last.Opens (last.asked owed) := fun {owed last} opens ripens =>
    ripens.opens ((Core.asked_idle idle owed).symm ▸ opens) fun _ => False.elim
  have waits : ∀ (conn : ConnId) (written : Nat) (failed : Bool),
      core.Opens (asked.answered (.writeDone conn written failed)) := fun _ _ _ =>
    ⟨opens.once, opens.fresh, opens.known⟩
  have opened : ∀ (conn : ConnId) (up : Bool), conn ∈ asked.opens →
      core.Answered (core.asked (asked.answered (.connected conn up))) conn := by
    intro conn up member
    rw [Core.asked_idle idle]
    refine opens.answer rfl rfl fun each => ?_
    change asked.opens.count each + asked.resolves.count each + _ =
      (asked.opens.erase conn).count each + asked.resolves.count each + _ + _
    rw [count_erase member]
    omega
  have resolved : ∀ (conn : ConnId) (candidates : List SocketAddr), conn ∈ asked.resolves →
      core.Answered (asked.answered (.resolved conn candidates)) conn := by
    intro conn candidates member
    refine opens.answer rfl rfl fun each => ?_
    change asked.opens.count each + asked.resolves.count each + _ =
      asked.opens.count each + (asked.resolves.erase conn).count each + _ + _
    rw [count_erase member]
    omega
  cases onset with
  | plain plain =>
    rw [Core.asked_idle idle, Asked.answered_plain plain]
    exact opens
  | connect _ connects => exact connects.opens ((Core.asked_idle idle asked).symm ▸ opens)
  | startConnect _ _ _ _ connects =>
    exact connects.opens ((Core.asked_idle idle asked).symm ▸ opens)
  | tooLate | leaving => exact ripe opens (.refl core)
  | forsake target => exact ripe opens (forsaking_ripens target core)
  | cut target _ _ _ _ _ falls =>
    exact ripe opens ((forsaking_ripens target core).trans falls.ripens)
  | close target _ _ _ _ departs =>
    exact ripe opens ((forsaking_ripens target core).trans departs.ripens)
  | openFailed conn =>
    have answered := opened conn true allowed
    rw [Core.asked_idle idle] at answered
    have asks : { core with posted := core.posted ++ [Posted.connectFailed conn] }.asked
        (asked.answered (.openFailed conn)) = asked.answered (.openFailed conn) :=
      Core.asked_idle idle _
    rw [asks]
    refine answered.toOpens.begin answered.none (fun each => ?_) (fun _ _ => rfl) answered.never le_rfl
      answered.mine
    unfold Core.openings
    rw [countP_append, fails_count]
    exact (Nat.add_assoc _ _ _).symm
  | unresolved conn candidates =>
    rw [Core.asked_idle idle]
    exact (resolved conn candidates allowed).toOpens
  | resolved conn state candidates _ found =>
    have answered := resolved conn candidates allowed
    have fresh := answered.never state found
    have put : core.Ripens (fun _ => False)
        (core.putting conn { state with candidates, nextCandidate := 0 }) :=
      .of_bud (.of_quiet rfl) found rfl rfl
    refine reopening_opens (ripe answered.toOpens put) ?_ answered.mine { fresh with }
    rw [put.asks.openings, Core.asked_idle idle]
    exact answered.none
  | unknown conn up missing => exact Onset.opens_connected (.unknown conn up missing) (opened _ _ allowed)
  | up conn state welcome found own fits =>
    exact Onset.opens_connected (.up conn state welcome found own fits) (opened _ _ allowed)
  | swamped conn state found full =>
    exact Onset.opens_connected (.swamped conn state found full) (opened _ _ allowed)
  | failed conn state found => exact Onset.opens_connected (.failed conn state found) (opened _ _ allowed)
  | retried conn state address found stays =>
    exact Onset.opens_connected (.retried conn state address found stays) (opened _ _ allowed)
  | started conn | heard conn => exact ripe opens (Core.Ripens.ticks.requireHeartbitLater conn core)
  | unstarted | unheard | nothing => exact ripe opens (.refl core)
  | stray conn written failed => exact ripe (waits conn written failed) (.refl core)
  | settled conn _ written failed found =>
    exact ripe (waits conn written failed) ((resting_ripens found).trans (windingUp_ripens conn written failed _))
  | unwritten conn _ written failed found =>
    exact ripe (waits conn written failed) (resting_ripens found)
  | fell conn _ written failed found _ _ _ falls =>
    exact ripe (waits conn written failed) ((resting_ripens found).trans falls.ripens)
  | broke conn _ written failed found _ _ departs =>
    exact ripe (waits conn written failed) ((resting_ripens found).trans departs.ripens)
  | written conn _ _ written failed found went =>
    exact ripe (waits conn written failed) (written_ripens found went.first)
  | timer fires => exact fires.opens ((Core.asked_idle idle asked).symm ▸ opens)
  | posted _ _ queued other =>
    exact (Core.asked_idle idle asked).symm ▸ working_opens queued other opens
  | postedFailed conn rest queued onset =>
    refine onset.opens_connected ?_
    have asks : { core with posted := rest }.asked asked = asked := Core.asked_idle idle _
    change { core with posted := rest }.Answered ({ core with posted := rest }.asked asked) conn
    rw [asks]
    refine opens.answer rfl rfl fun each => ?_
    unfold Core.openings
    rw [queued, countP_cons, ← countP_singleton, fails_count]
    exact (Nat.add_assoc _ _ _).symm

end Multiplexer
