import Multiplexer.Change.Welcome

/-! How each event begins: a connection made, opened or given up, an answer of the driver's
taken, a heartbeat moved, a timer or a piece of posted work taken out. What follows is acts. -/

set_option autoImplicit false

namespace Multiplexer

open Program

/-! ## Connecting -/

def Core.reopening (core : Core) (conn : ConnId) (state : Conn) (address : SocketAddr) : Core :=
  { core with
    timers := (core.timers.cancel state.connectDeadline).arm (core.now + CONNECT_ATTEMPT_SECONDS)
      (.connectDeadline conn)
    conns := core.conns.insert conn
      { state with
        nextCandidate := state.nextCandidate + 1, expectedEndpoint := some address
        socketOpen := true, connecting := true
        connectDeadline := some ((core.timers.cancel state.connectDeadline).nextKey + 1) }
    actions := core.actions ++ [.openSocket conn address] }

def Core.adding (core : Core) (conn : ConnId) (state : Conn) : Core :=
  { core with
    nextConn := conn
    conns := core.conns.insert conn state
    client := { core.client with byTarget := core.client.byTarget.insert state.target conn } }

def Core.opening (core : Core) (target : Target) : Core :=
  let conn := core.nextConn + 1
  match target.host with
  | .address ip =>
    (core.adding conn { target, candidates := [⟨ip, target.port⟩] }).reopening conn
      { target, candidates := [⟨ip, target.port⟩] } ⟨ip, target.port⟩
  | .name _ =>
    let added := core.adding conn { target }
    { added with actions := added.actions ++ [.resolve conn target] }

inductive Connects (target : Target) : Core → Core → Prop
  | kept {core} (has : core.client.shutsDown = true ∨ (core.liveConnection target).isSome = true) :
      Connects target core core
  | anew {core} (runs : core.client.shutsDown = false)
      (without : core.liveConnection target = none) : Connects target core (core.opening target)

theorem tryNextCandidate_some {core : Core} {conn : ConnId} {state : Conn} {address : SocketAddr}
    (found : core.conns[conn]? = some state)
    (candidate : state.candidates[state.nextCandidate]? = some address) :
    (tryNextCandidate conn).after core = core.reopening conn state address := by
  unfold tryNextCandidate
  rw [after_get_bind, found]
  dsimp only
  rw [candidate]
  rfl

theorem liveConnection_none {core : Core} {target : Target} {conn : ConnId}
    (without : core.liveConnection target = none)
    (entry : core.client.byTarget[target]? = some conn) : core.ShutDown conn := by
  intro state found
  simp only [Core.liveConnection, entry, Option.filter, found, Option.any_some] at without
  cases shut : state.shutsDown with
  | true => rfl
  | false => simp [shut] at without

theorem opening_address (core : Core) (ip port : Nat) : (tryNextCandidate (core.nextConn + 1)).after
      (core.adding (core.nextConn + 1) { target := ⟨.address ip, port⟩, candidates := [⟨ip, port⟩] }) =
      core.opening ⟨.address ip, port⟩ :=
  tryNextCandidate_some Std.TreeMap.getElem?_insert_self rfl

/-- A connect opens a connection only where none lives. -/
theorem asyncConnect_connects (target : Target) (core : Core) :
    Connects target core ((asyncConnect target).after core) := by
  unfold asyncConnect
  rw [after_get_bind]
  split
  · rename_i down
    exact .kept (.inl down)
  · rename_i runs
    split
    · rename_i live found
      exact .kept (.inr (by rw [found]; rfl))
    · rename_i without
      have nothing : (ifSome core.client.byTarget[target]? shutdownConnection).after core = core := by
        cases entry : core.client.byTarget[target]? with
        | none => rfl
        | some => exact shutdownConnection_none (liveConnection_none without entry)
      have opened : Connects target core (core.opening target) :=
        .anew (Bool.eq_false_of_not_eq_true runs) without
      rw [after_bind, nothing, after_get_bind]
      obtain ⟨host, _⟩ := target
      cases host with
      | address =>
        rw [← opening_address] at opened
        exact opened
      | name => exact opened

/-! ## Onsets -/

def forsaking (target : Target) : Client Unit := do
  let core ← get
  forEach (core.client.reconnects.toList.filter (·.2.2 = target)) fun (number, key, _) => do
    modifyClient fun client => { client with reconnects := client.reconnects.erase number }
    cancelTimer (some key)
  modifyClient fun client =>
    { client with
      byTarget := client.byTarget.erase target
      firstConnectionOver := client.firstConnectionOver.erase target }

def Conn.tried (state : Conn) : Conn :=
  { state with connecting := false, connectTimedOut := false, connectDeadline := none }

def Core.failing (core : Core) (conn : ConnId) (state : Conn) : Core :=
  { core with
    timers := core.timers.cancel state.connectDeadline
    conns := core.conns.insert conn state.tried }

def Core.starting (core : Core) (conn : ConnId) (state : Conn) : Core :=
  let welcoming : Conn := { state.tried with routingInWelcome := core.client.routingVersion }
  { core with
    timers := core.timers.cancel state.connectDeadline
    conns := (core.conns.insert conn welcoming).insert conn
      { welcoming with living := true, reading := true }
    actions := core.actions ++ [.startReading conn] }

def greeting (conn : ConnId) (welcome : OutFrame) : Client Unit := do
  let _ ← schedule conn welcome true true
  sendHeartbitLater conn
  requireHeartbitLater conn

def Core.fired (core : Core) : Core :=
  { core with timers := (core.timers.takeDue core.now).2 }

structure WentOut (state : Conn) (front : QueueEntry) (written : Nat) (failed : Bool) : Prop where
  open_ : state.out ≠ .broken
  first : state.outgoing.head? = some front
  right : failed = false
  some_ : written ≠ 0
  whole : front.frame.wireLength = written

def Conn.rested (state : Conn) : Conn := { state with writeInFlight := false }

def Conn.popped (state : Conn) : Conn :=
  { state with writeInFlight := false, out := .free, outgoing := state.outgoing.tail }

def popping (conn : ConnId) (state : Conn) (front : QueueEntry) : Client Unit := do
  putConn conn state.popped
  wroteEntry conn front
  sendHeartbitLater conn
  processSendQueue conn

def windingUp (conn : ConnId) (written : Nat) (failed : Bool) : Client Unit := do
  settleSetAside conn written failed
  forgetIfFinished conn

def refilling (conn : ConnId) (state : Conn) : Client Unit := do
  let core ← get
  when (state.outgoingQueueFull && core.conns[conn]?.any (!·.outgoingQueueFull))
    (outgoingQueueHasRoom conn)

def Due.isApart : Due → Bool
  | .connectWait _ | .flushWait _ | .sendsExpire | .drain | .batches | .confirmations => true
  | _ => false

def Event.isPlain : Event → Bool
  | .resolved .. | .connected .. | .openFailed _ | .frameStarted _ | .frame .. | .writeDone ..
  | .timer | .posted | .connect _ | .startConnect .. | .disconnect _ => false
  | _ => true

inductive Fires (core : Core) : Timers.Fired → Core → Prop
  | nothing : Fires core .nothing core.fired
  | query (query : QueryId) (generation : Nat) : Fires core (.query query generation) core.fired
  | apart (due : Due) (apart : due.isApart = true) : Fires core (.other due) core.fired
  | beat (conn : ConnId) : Fires core (.other (.sendHeartbit conn)) ((sendHeartbitNow conn).after core.fired)
  | soon (conn : ConnId) :
      Fires core (.other (.requireHeartbitSoon conn)) ((requireHeartbitSoon conn).after core.fired)
  | silent {after : Core} (conn : ConnId) (state : Conn) (found : core.conns[conn]? = some state)
      (falls : Falls .timer conn { state with requireHeartbitTimer := none }
        (core.fired.putting conn { state with requireHeartbitTimer := none }) after) :
      Fires core (.other (.requireHeartbitNow conn)) after
  | silentOver (conn : ConnId) (shut : core.ShutDown conn) :
      Fires core (.other (.requireHeartbitNow conn)) ((requireHeartbitNow conn).after core.fired)
  | bound {after : Core} (conn : ConnId) (state : Conn) (found : core.conns[conn]? = some state)
      (falls : Falls .timer conn { state with sendHeartbitTimer := none }
        (core.fired.putting conn { state with sendHeartbitTimer := none }) after) :
      Fires core (.other (.readToTheEnd conn)) after
  | boundOver (conn : ConnId) (shut : core.ShutDown conn) :
      Fires core (.other (.readToTheEnd conn)) ((readToTheEndBound conn).after core.fired)
  | connectDeadline (conn : ConnId) :
      Fires core (.other (.connectDeadline conn)) ((connectDeadline conn).after core.fired)
  | expiry : Fires core (.other .outboxExpiry) (expire.after core.fired)
  | noReconnect (number : Nat) (missing : core.client.reconnects[number]? = none) :
      Fires core (.other (.reconnect number)) core.fired
  | reconnect {after : Core} (number : Nat) (key : TimerKey) (target : Target)
      (found : core.client.reconnects[number]? = some (key, target))
      (connects : after =
          { core.fired with
            client := { core.client with reconnects := core.client.reconnects.erase number } } ∧
          (core.client.shutsDown = true ∨ core.client.byTarget.contains target = true) ∨
        Connects target
          { core.fired with
            client := { core.client with reconnects := core.client.reconnects.erase number } }
          after) : Fires core (.other (.reconnect number)) after

inductive Onset : Event → Core → Core → Prop
  | plain {event core} (plain : event.isPlain = true) : Onset event core core
  -- the program's connections
  | connect {core after} (target : Target) (connects : Connects target core after) :
      Onset (.connect target) core after
  | startConnect {core after} (target : Target) (timeout : Option Duration) (done : CallbackId)
      (runs : core.threaded.shutDown = false) (connects : Connects target core after) :
      Onset (.startConnect target timeout done) core after
  | tooLate {core} (target : Target) (timeout : Option Duration) (done : CallbackId)
      (down : core.threaded.shutDown = true) :
      Onset (.startConnect target timeout done) core core
  | leaving {core} (target : Target) (down : core.client.shutsDown = true) :
      Onset (.disconnect target) core core
  | forsake {core} (target : Target) (runs : core.client.shutsDown = false)
      (without : ∀ conn state, core.client.byTarget[target]? = some conn →
        core.conns[conn]? = some state → state.shutsDown = true ∨ state.toldGone = true) :
      Onset (.disconnect target) core ((forsaking target).after core)
  | cut {core after} (target : Target) (conn : ConnId) (state : Conn)
      (runs : core.client.shutsDown = false) (entry : core.client.byTarget[target]? = some conn)
      (untold : state.toldGone = false)
      (falls : Falls (.disconnect target) conn state ((forsaking target).after core) after) :
      Onset (.disconnect target) core after
  | close {core after} (target : Target) (conn : ConnId) (state : Conn)
      (runs : core.client.shutsDown = false) (entry : core.client.byTarget[target]? = some conn)
      (departs : Departs (.disconnect target) conn state false ((forsaking target).after core) after) :
      Onset (.disconnect target) core after
  -- the driver's words
  | openFailed {core} (conn : ConnId) :
      Onset (.openFailed conn) core { core with posted := core.posted ++ [.connectFailed conn] }
  | unresolved {core} (conn : ConnId) (candidates : List SocketAddr) :
      Onset (.resolved conn candidates) core core
  | resolved {core} (conn : ConnId) (state : Conn) (candidates : List SocketAddr)
      (address : SocketAddr) (found : core.conns[conn]? = some state)
      (stays : state.shutsDown = false) :
      Onset (.resolved conn candidates) core
        ((core.putting conn { state with candidates, nextCandidate := 0 }).reopening
          conn { state with candidates, nextCandidate := 0 } address)
  | unknown {core} (conn : ConnId) (up : Bool) (missing : core.conns[conn]? = none) :
      Onset (.connected conn up) core core
  | up {core} (conn : ConnId) (state : Conn) (welcome : OutFrame)
      (found : core.conns[conn]? = some state) (own : welcome.own = true)
      (fits : state.outgoing.length < state.outgoingMax + FORCED_FRAMES_PAST_FULL_QUEUE) :
      Onset (.connected conn true) core ((greeting conn welcome).after (core.starting conn state))
  | swamped {core} (conn : ConnId) (state : Conn) (found : core.conns[conn]? = some state)
      (full : state.outgoingMax + FORCED_FRAMES_PAST_FULL_QUEUE ≤ state.outgoing.length) :
      Onset (.connected conn true) core (core.starting conn state)
  | failed {core} (conn : ConnId) (state : Conn) (found : core.conns[conn]? = some state) :
      Onset (.connected conn false) core (core.failing conn state)
  | retried {core} (conn : ConnId) (state : Conn) (address : SocketAddr)
      (found : core.conns[conn]? = some state) (stays : state.shutsDown = false) :
      Onset (.connected conn false) core ((core.failing conn state).reopening conn state.tried address)
  | started {core} (conn : ConnId) (state : Conn) (found : core.conns[conn]? = some state)
      (reads : state.reading = true) (stays : state.shutsDown = false) :
      Onset (.frameStarted conn) core ((requireHeartbitLater conn).after core)
  | unstarted {core} (conn : ConnId) (deaf : ∀ state, core.conns[conn]? = some state →
        state.reading = false ∨ state.shutsDown = true) : Onset (.frameStarted conn) core core
  | heard {core} (conn : ConnId) (body : Option Message) (state : Conn)
      (found : core.conns[conn]? = some state) (reads : state.reading = true)
      (stays : state.shutsDown = false) :
      Onset (.frame conn body) core ((requireHeartbitLater conn).after core)
  | unheard {core} (conn : ConnId) (body : Option Message) (deaf : ∀ state, core.conns[conn]? = some state →
        state.reading = false ∨ state.shutsDown = true) : Onset (.frame conn body) core core
  -- the end of a write
  | stray {core} (conn : ConnId) (written : Nat) (failed : Bool)
      (missing : core.conns[conn]? = none) : Onset (.writeDone conn written failed) core core
  | settled {core} (conn : ConnId) (state : Conn) (written : Nat) (failed : Bool)
      (found : core.conns[conn]? = some state) (broken : state.out = .broken) :
      Onset (.writeDone conn written failed) core
        ((windingUp conn written failed).after (core.putting conn state.rested))
  | unwritten {core} (conn : ConnId) (state : Conn) (written : Nat) (failed : Bool)
      (found : core.conns[conn]? = some state) (opened : state.out ≠ .broken)
      (not : ∀ front, ¬WentOut state front written failed)
      (ended : state.shutsDown = true ∨ state.toldGone = true) :
      Onset (.writeDone conn written failed) core (core.putting conn state.rested)
  | fell {core after} (conn : ConnId) (state : Conn) (written : Nat) (failed : Bool)
      (found : core.conns[conn]? = some state) (opened : state.out ≠ .broken)
      (not : ∀ front, ¬WentOut state front written failed) (untold : state.toldGone = false)
      (falls : Falls (.writeDone conn written failed) conn state.rested
        (core.putting conn state.rested) after) :
      Onset (.writeDone conn written failed) core after
  | broke {core after} (conn : ConnId) (state : Conn) (written : Nat) (failed : Bool)
      (found : core.conns[conn]? = some state) (opened : state.out ≠ .broken)
      (not : ∀ front, ¬WentOut state front written failed)
      (departs : Departs (.writeDone conn written failed) conn state.rested true
        (core.putting conn state.rested) after) :
      Onset (.writeDone conn written failed) core after
  | written {core} (conn : ConnId) (state : Conn) (front : QueueEntry) (written : Nat)
      (failed : Bool) (found : core.conns[conn]? = some state)
      (went : WentOut state front written failed) :
      Onset (.writeDone conn written failed) core
        ((refilling conn state).after ((popping conn state front).after core))
  -- timers and posted work
  | timer {core after} (fires : Fires core (core.timers.takeDue core.now).1 after) : Onset .timer core after
  | nothing {core} (none_ : core.posted = []) : Onset .posted core core
  | posted {core} (first : Posted) (rest : List Posted) (queued : core.posted = first :: rest)
      (other : ∀ conn, first ≠ .connectFailed conn) :
      Onset .posted core { core with posted := rest }
  | postedFailed {core after} (conn : ConnId) (rest : List Posted)
      (queued : core.posted = .connectFailed conn :: rest)
      (onset : Onset (.connected conn false) { core with posted := rest } after) :
      Onset .posted core after

end Multiplexer
