import Multiplexer.Change.Queries

/-! The changes an event is made of, once it began: what the outbox does by itself, and every change
of a connection, the targets, the routing and what was read, but new connections and heartbeats. -/

set_option autoImplicit false

namespace Multiplexer

open Program

def Conn.stance (conn : Conn) : Conn :=
  { conn with
    expectedEndpoint := none, candidates := [], nextCandidate := 0, connectTimedOut := false
    peerType := 0, droppedWhileClosing := 0, notifyWhenIdle := false
    notifyWhenReadDrained := false, setAside := [] }

def Core.ShutDown (core : Core) (conn : ConnId) : Prop :=
  ∀ state : Conn, core.conns[conn]? = some state → state.shutsDown = true

theorem exists_stays {core : Core} {conn : ConnId} (unshut : ¬core.ShutDown conn) :
    ∃ state : Conn, core.conns[conn]? = some state ∧ state.shutsDown = false := by
  simp only [Core.ShutDown, not_forall] at unshut
  obtain ⟨state, found, stays⟩ := unshut
  exact ⟨state, found, Bool.eq_false_of_not_eq_true stays⟩

abbrev Core.putting (core : Core) (conn : ConnId) (state : Conn) : Core :=
  { core with conns := core.conns.insert conn state }

/-! ## The parts of an end that go together -/

def leaving (conn : ConnId) (state : Conn) : Client Bool := do
  putConn conn { state with toldGone := true }
  when state.registered (unregisterConnection conn)
  let core ← get
  when (!state.shutsDown) do
    modifyClient fun client => { client with closing := client.closing ++ [conn] }
  displace conn
  when (core.client.byTarget[state.target]? = some conn) do
    modifyClient fun client =>
      { client with
        byTarget := client.byTarget.erase state.target
        firstConnectionOver := client.firstConnectionOver.insert state.target }
    when (!core.client.shutsDown) (armReconnect state.target)
  pure (!core.client.shutsDown)

def leavingOnce (conn : ConnId) (state : Conn) : Client Unit :=
  if state.toldGone then pure () else do
    let _ ← leaving conn state
    pure ()

def Conn.dead (state : Conn) : Conn :=
  { state with shutsDown := true, living := false, notifyWhenReadDrained := false }

def dying (conn : ConnId) (state : Conn) : Client Unit := do
  putConn conn state.dead
  when state.notifyWhenReadDrained do
    modifyClient fun client => { client with readDrainsWanted := client.readDrainsWanted - 1 }
  leavingOnce conn state.dead

def Conn.readsOn (state : Conn) (deliver : Bool) : Conn :=
  { state with living := false, out := .broken, delivering := deliver }

def readingOn (conn : ConnId) (state : Conn) (deliver : Bool) : Client Unit := do
  putConn conn (state.readsOn deliver)
  let _ ← leaving conn (state.readsOn deliver)
  pure ()

def Conn.stopped (state : Conn) : Conn :=
  { state with
    registered := false, outgoingMax := 0, reading := false, out := .broken
    sendHeartbitTimer := none, requireHeartbitTimer := none, connectDeadline := none }

def Core.stopping (core : Core) (conn : ConnId) (state : Conn) : Core :=
  { core with
    timers := ((core.timers.cancel state.sendHeartbitTimer).cancel
      state.requireHeartbitTimer).cancel state.connectDeadline
    conns := core.conns.insert conn state.stopped }

def Core.boundTimers (core : Core) (state : Conn) : Timers :=
  (core.timers.cancel state.requireHeartbitTimer).cancel state.sendHeartbitTimer

def Core.bounding (core : Core) (conn : ConnId) (state : Conn) (bound : Duration) : Core :=
  { core with
    actions := core.actions ++ [.shutdownWrite conn]
    timers := (core.boundTimers state).arm (core.now + bound) (.readToTheEnd conn)
    conns := core.conns.insert conn
      { state with
        requireHeartbitTimer := none
        sendHeartbitTimer := some ((core.boundTimers state).nextKey + 1) } }

def quitting : Client Unit := do
  modifyClient fun client => { client with shutsDown := true }
  emit .cancelResolves
  let core ← get
  modifyClient fun client => { client with reconnects := ∅ }
  forEach core.client.reconnects.values fun (key, _) => cancelTimer (some key)

/-! ## A connection registers -/

def Conn.widened (state : Conn) : Conn := { state with outgoingMax := DEFAULT_OUT_QUEUE_SIZE }

/-- The core once `conn`, in `state`, is recorded under the id it told, and registered. -/
def Core.enlisting (core : Core) (conn : ConnId) (state : Conn) : Core :=
  { core with
    byPeerId := core.byPeerId.insert state.peerId conn
    roundRobin := conn :: core.roundRobin
    conns := (core.conns.insert conn state.widened).insert conn
      { state.widened with registered := true } }

/-- A connection that may register now: it reads, nobody shut it down, and whoever is recorded
under the id it told is shut down. -/
structure Core.Enlists (core : Core) (conn : ConnId) (state : Conn) : Prop where
  found : core.conns[conn]? = some state
  stays : state.shutsDown = false
  unregistered : state.registered = false
  reads : state.reading = true
  vacant : ∀ previous, core.byPeerId[state.peerId]? = some previous → previous = conn ∨ core.ShutDown previous

/-! ## Changes -/

def Action.isPlain : Action → Bool
  | .resolve .. | .openSocket .. | .write .. | .close _ => false
  | _ => true

/-- A PEER_STATUS that answers the last PEER_CONTROL on a connection and tells what the client
wants. -/
structure Answers (core : Core) (state : Conn) (message : Message) (status : PeerStatus) : Prop where
  content : message.message.map Payload.content = some (.peerStatus status)
  type : message.type = types.PEER_STATUS
  right : status.error = none
  references : message.references.getD 0 = state.routingRequestId
  routing : sameRouting (status.routing.getD {}) core.client.routing = true
  filters : status.keyFilter = core.client.keyFiltersMessage

structure Leave where
  falls : ConnId → Prop
  joins : ConnId → Prop

namespace Leave

def still : Leave := ⟨fun _ => False, fun _ => False⟩

def only (conn : ConnId) : Leave := ⟨(· = conn), fun _ => False⟩

def joining (conn : ConnId) : Leave := ⟨fun _ => False, (· = conn)⟩

def all : Leave := ⟨fun _ => True, fun _ => True⟩

end Leave

/-- One change of the confirmed messages, or of their notes, apart from the ways in. -/
inductive Told : Core → Core → Prop
  | dropped {core} (batch : Nat) (reason : DropReason) :
      Told core ((confirmedFrameDropped batch reason).after core)
  | written {core} (batch written : Nat) : Told core ((confirmingWritten batch written).after core)
  | ends {core} : Told core { core with confirmer := { core.confirmer with ends := [] } }
  | notTaken {core} (envelope : Nat) : Told core ((confirmedBatchNotTaken envelope).after core)
  | giveUp {core} (reason : DropReason) : Told core ((giveUpConfirmations reason).after core)
  | handed {core} (message : Message) :
      Told core { core with confirmNotes := .handed message :: core.confirmNotes }

theorem Told.shifts {core after : Core} (told : Told core after) : Shifts false core after := by
  cases told with
  | dropped batch reason => exact confirmedFrameDropped_shifting batch reason core
  | written batch written => exact confirmingWritten_shifting batch written core
  | ends => exact Hear.ends.loose
  | notTaken envelope => exact confirmedBatchNotTaken_shifting envelope core
  | giveUp reason => exact giveUpConfirmations_shifting reason core
  | handed message =>
    have noted : Shifting false (noteConfirm (.handed message)) := noteConfirm_shifting rfl
    exact noted core

/-- A message that may be handed out: of a confirmed batch, its id just taken, or an error just
made. -/
def Core.Came (core : Core) (message : Message) : Prop :=
  message.confirmation ≠ none ∨ core.arrivals.head? = some (.took (message.id.getD 0)) ∨
    core.arrivals.head? = some (.made (message.id.getD 0))

/-- One change of what is remembered: of the callbacks that ran, of where a producer's messages
came from, of the ids that came and what was handed out. -/
inductive Mark : Core → Core → Prop
  | ring {core} : Mark core
        { core with
          outbox := { core.outbox with callbacksPosted := false, dropEvents := [] }
          confirmer := { core.confirmer with ends := [] } }
  | heardFrom {core} (conn : ConnId) (producer : Nat) : Mark core
        { core with
          confirmer :=
            { core.confirmer with
              owed := core.confirmer.owed.insert producer
                { core.confirmer.owed.getD producer {} with connection := some conn } } }
  | took {core} (id : Nat) (lastSeen : SpanSet) (fresh : core.client.lastSeen.insert id = some lastSeen) :
      Mark core
        { core with
          client := { core.client with lastSeen }
          arrivals := .took id :: core.arrivals }
  | letGo {core} (id count : Nat) (last : core.arrivals.head? = some (.took id)) : Mark core
        { core with
          client :=
            { core.client with
              lastSeen := core.client.lastSeen.forgetLast
              incomingDropped := core.client.incomingDropped + count }
          arrivals := .letGo :: core.arrivals }
  | made {core} : Mark core
        { core with
          drawn := core.drawn + 1
          arrivals := .made (core.ids.nth core.drawn) :: core.arrivals }
  | passed {core} (message : Message) (came : core.Came message) :
      Mark core { core with arrivals := .passed message :: core.arrivals }

inductive Change (event : Event) (leave : Leave) : Core → Core → Prop
  | shift {core after} (shift : Shift true core after) : Change event leave core after
  | told {core after} (told : Told core after) : Change event leave core after
  | mark {core after} (mark : Mark core after) : Change event leave core after
  | enter {core} {α : Type} {program : Client α} (way : WayIn program) :
      Change event leave core (program.after core)
  | put {core} (conn : ConnId) (state next : Conn) (found : core.conns[conn]? = some state)
      (same : next.stance = state.stance) :
      Change event leave core { core with conns := core.conns.insert conn next }
  | ask {core} (action : Action) (plain : action.isPlain = true) :
      Change event leave core { core with actions := core.actions ++ [action] }
  -- a connection ends
  | die {core} (conn : ConnId) (state : Conn) (may : leave.falls conn)
      (found : core.conns[conn]? = some state) (stays : state.shutsDown = false) :
      Change event leave core ((dying conn state).after core)
  | stop {core} (conn : ConnId) (state : Conn) (may : leave.falls conn)
      (found : core.conns[conn]? = some state) (shut : state.shutsDown = true) :
      Change event leave core (core.stopping conn state)
  | orphan {core} (conn : ConnId) (state : Conn) (may : leave.falls conn)
      (found : core.conns[conn]? = some state) (dead : state.living = false)
      (broken : state.out = .broken) :
      Change event leave core ((orphanOutgoingMessages conn).after core)
  | close {core} (conn : ConnId) (state : Conn) (may : leave.falls conn)
      (found : core.conns[conn]? = some state) (shut : state.shutsDown = true)
      (opened : state.socketOpen = true) :
      Change event leave core
        { core with
          conns := core.conns.insert conn { state with socketOpen := false }
          actions := core.actions ++ [.close conn] }
  | forget {core} (conn : ConnId) (state : Conn) (may : leave.falls conn)
      (found : core.conns[conn]? = some state) (finished : state.finished = true) :
      Change event leave core { core with conns := core.conns.erase conn }
  | readOn {core} (conn : ConnId) (state : Conn) (deliver : Bool) (may : leave.falls conn)
      (found : core.conns[conn]? = some state) (stays : state.shutsDown = false)
      (untold : state.toldGone = false) (registered : state.registered = true) :
      Change event leave core ((readingOn conn state deliver).after core)
  | bound {core} (conn : ConnId) (state : Conn) (bound : Duration) (may : leave.falls conn)
      (found : core.conns[conn]? = some state) (dead : state.living = false)
      (stays : state.shutsDown = false) : Change event leave core (core.bounding conn state bound)
  -- a connection registers
  | meet {core} (conn : ConnId) (state : Conn) (id type : Nat) (may : leave.joins conn)
      (found : core.conns[conn]? = some state) (unregistered : state.registered = false) :
      Change event leave core
        { core with conns := core.conns.insert conn { state with peerId := id, peerType := type } }
  | enlist {core} (conn : ConnId) (state : Conn) (may : leave.joins conn)
      (enlists : core.Enlists conn state) : Change event leave core (core.enlisting conn state)
  | welcomed {core} (conn : ConnId) (state : Conn) (may : leave.joins conn)
      (found : core.conns[conn]? = some state) :
      Change event leave core
        { core with
          conns := core.conns.insert conn
            { state with routingAcknowledged := state.routingInWelcome } }
  -- the client shuts down
  | quit {core} : Change event leave core (quitting.after core)
  | drop {core} (down : core.client.shutsDown = true) : Change event leave core (dropOutbox.after core)
  -- the routing
  | version {core} (routing : Routing) (filters : List KeyFilter) (callbacks : List CallbackId) :
      Change event leave core
        { core with
          client :=
            { core.client with
              routing, keyFiltersMessage := filters, acknowledgedCallbacks := callbacks
              routingVersion := core.client.routingVersion + 1, confirmed := false } }
  | request {core} (conn : ConnId) (state : Conn) (found : core.conns[conn]? = some state) :
      Change event leave core
        { core with
          drawn := core.drawn + 1
          conns := core.conns.insert conn
            { state with routingRequestId := core.ids.nth core.drawn } }
  | acknowledge {core} (conn : ConnId) (state : Conn) (message : Message) (status : PeerStatus)
      (heard : event = .frame conn (some message)) (found : core.conns[conn]? = some state)
      (answers : Answers core state message status) :
      Change event leave core
        { core with
          conns := core.conns.insert conn
            { state with routingAcknowledged := core.client.routingVersion } }
  | confirm {core} (all : core.allConfirmed = true) : Change event leave core
        { core with
          client :=
            { core.client with confirmed := true, confirmedEnqueued := core.client.enqueued } }
  | unconfirm {core} (left : core.allConfirmed = false) :
      Change event leave core { core with client := { core.client with confirmed := false } }
  -- what was read
  | push {core} (incoming : Incoming) (read : ∃ conn body, event = .frame conn body) : Change event leave core
        { core with
          client :=
            { core.client with
              incoming := core.client.incoming ++ [incoming], enqueued := core.client.enqueued + 1 } }
  | take {core} (next : Incoming) (rest : List Incoming) (first : core.client.incoming = next :: rest) :
      Change event leave core
        { core with
          client :=
            { core.client with incoming := rest, dequeued := core.client.dequeued + 1 } }
  -- the confirmations posted
  | owe {core} (free : core.confirmer.posted = false) : Change event leave core
        { core with
          confirmer := { core.confirmer with posted := true }
          posted := core.posted ++ [.sendConfirmations] }
  | paid {core} : Change event leave core { core with confirmer := { core.confirmer with posted := false } }

variable {event : Event} {leave : Leave}

theorem Change.mono {other : Event} {less more : Leave} {core after : Core}
    (falls : ∀ conn, less.falls conn → more.falls conn)
    (joins : ∀ conn, less.joins conn → more.joins conn)
    (reads : ∀ conn body, event = .frame conn body → other = .frame conn body)
    (change : Change event less core after) : Change other more core after := by
  cases change with
  | shift shift => exact .shift shift
  | told told => exact .told told
  | mark mark => exact .mark mark
  | enter way => exact .enter way
  | put conn state next found same => exact .put conn state next found same
  | ask action plain => exact .ask action plain
  | die conn state may found stays => exact .die conn state (falls conn may) found stays
  | stop conn state may found shut => exact .stop conn state (falls conn may) found shut
  | orphan conn state may found dead broken =>
    exact .orphan conn state (falls conn may) found dead broken
  | close conn state may found shut opened =>
    exact .close conn state (falls conn may) found shut opened
  | forget conn state may found finished => exact .forget conn state (falls conn may) found finished
  | readOn conn state deliver may found stays untold registered =>
    exact .readOn conn state deliver (falls conn may) found stays untold registered
  | bound conn state bound may found dead stays =>
    exact .bound conn state bound (falls conn may) found dead stays
  | meet conn state id type may found unregistered =>
    exact .meet conn state id type (joins conn may) found unregistered
  | enlist conn state may enlists => exact .enlist conn state (joins conn may) enlists
  | welcomed conn state may found => exact .welcomed conn state (joins conn may) found
  | quit => exact .quit
  | drop down => exact .drop down
  | version routing filters callbacks => exact .version routing filters callbacks
  | request conn state found => exact .request conn state found
  | acknowledge conn state message status heard found answers =>
    exact .acknowledge conn state message status (reads _ _ heard) found answers
  | confirm all => exact .confirm all
  | unconfirm left => exact .unconfirm left
  | push incoming read =>
    obtain ⟨conn, body, is⟩ := read
    exact .push incoming ⟨conn, body, reads conn body is⟩
  | take next rest first => exact .take next rest first
  | owe free => exact .owe free
  | paid => exact .paid

/-! ## Turns -/

inductive Turn (event : Event) (leave : Leave) : Core → Core → Prop
  | change {core after} (change : Change event leave core after) : Turn event leave core after
  | query {core} {α : Type} {program : Client α} (way : QueryWay program) :
      Turn event leave core (program.after core)

abbrev Turns (event : Event) (leave : Leave) : Core → Core → Prop :=
  Relation.ReflTransGen (Turn event leave)

instance (event : Event) (leave : Leave) : Std.Refl (Turns event leave) := ⟨fun _ => .refl⟩

instance (event : Event) (leave : Leave) : IsTrans Core (Turns event leave) :=
  ⟨fun _ _ _ => .trans⟩

abbrev Turning {α : Type} (event : Event) (leave : Leave) (program : Client α) : Prop :=
  Keeps (Turns event leave) program

section Turning

variable {event : Event} {leave : Leave} {α : Type} {program : Client α}

theorem Change.turns {core after : Core} (change : Change event leave core after) :
    Turns event leave core after :=
  .single (.change change)

theorem Shifts.turns {core after : Core} (shifts : Shifts true core after) :
    Turns event leave core after :=
  shifts.within fun shift => (Change.shift shift).turns

theorem Shifting.turning (shifting : Shifting true program) : Turning event leave program :=
  fun core => Shifts.turns (shifting core)

theorem Hearing.turning (hearing : Hearing program) : Turning event leave program := by
  refine .steps (fun hear => ?_) hearing
  cases hear with
  | shift shift => exact (Change.shift shift).turns
  | written batch written => exact (Change.told (.written batch written)).turns
  | ends => exact (Change.told .ends).turns

theorem Told.turns {core after : Core} (told : Told core after) : Turns event leave core after :=
  (Change.told told).turns

theorem Mark.turns {core after : Core} (mark : Mark core after) : Turns event leave core after :=
  (Change.mark mark).turns

theorem WayIn.turning (way : WayIn program) : Turning event leave program :=
  fun _ => (Change.enter way).turns

theorem QueryWay.turning (way : QueryWay program) : Turning event leave program :=
  fun _ => .single (.query way)

theorem Turns.mono {less more : Leave} {core after : Core}
    (falls : ∀ conn, less.falls conn → more.falls conn)
    (joins : ∀ conn, less.joins conn → more.joins conn) (turns : Turns event less core after) :
    Turns event more core after := by
  refine Relation.ReflTransGen.mono (fun _ _ turn => ?_) _ _ turns
  cases turn with
  | change change => exact .change (change.mono falls joins fun _ _ is => is)
  | query way => exact .query way

end Turning

/-! ## Turn by turn, change by change -/

inductive Fine (event : Event) (leave : Leave) : Core → Core → Prop
  | change {core after} (change : Change event leave core after) : Fine event leave core after
  | queries {core} (queries : Queries) : Fine event leave core { core with queries }
  | note {core} (made : QueryNote) : Fine event leave core { core with queryNotes := made :: core.queryNotes }
  | arm {core} (deadline : Instant) (query : QueryId) (generation : Nat) :
      Fine event leave core { core with timers := core.timers.armQuery deadline query generation }
  | cancel {core} (slot : Option TimerKey) :
      Fine event leave core { core with timers := core.timers.cancelQuery slot }

abbrev Fines (event : Event) (leave : Leave) : Core → Core → Prop :=
  Relation.ReflTransGen (Fine event leave)

theorem Ask.fine {core after : Core} (ask : Ask True core after) : Fine event leave core after := by
  cases ask with
  | shift shift => exact .change (.shift shift)
  | enter way => exact .change (.enter way)
  | queries queries => exact .queries queries
  | note made => exact .note made
  | arm deadline query generation => exact .arm deadline query generation
  | cancel slot => exact .cancel slot

/-- Turns, with what moves a query on taken apart. -/
theorem Turns.fines {core after : Core} (turns : Turns event leave core after) :
    Fines event leave core after := by
  induction turns with
  | refl => exact .refl
  | tail _ turn ih =>
    cases turn with
    | change change => exact ih.tail (.change change)
    | query way =>
      exact ih.trans (Relation.ReflTransGen.mono (fun _ _ => Ask.fine) _ _ (way.asking _))

/-- What each fine change keeps, a row of them keeps. -/
theorem Fines.keep {Holds : Core → Prop} {core after : Core}
    (keeps : ∀ {core after : Core}, Fine event leave core after → Holds core → Holds after)
    (fines : Fines event leave core after) (holds : Holds core) : Holds after := by
  induction fines with
  | refl => exact holds
  | tail _ fine ih => exact keeps fine ih

end Multiplexer
