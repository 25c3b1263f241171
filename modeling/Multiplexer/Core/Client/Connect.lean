import Multiplexer.Core.Connection.Life

/-! A client's connections coming: connecting to every address a name resolves to,
reconnecting, the registration at the multiplexer's welcome, and dropping a target. -/

set_option autoImplicit false

namespace Multiplexer

open Program

/-! ## The handshake -/

/-- The welcome every new connection sends, carrying the routing and the key
filters. -/
def Core.welcomeFrame (core : Core) : OutFrame :=
  let welcome : WelcomeMessage :=
    { type := core.peerType, id := core.instanceId, routing := some core.client.routing
      keyFilter := core.client.keyFiltersMessage }
  let message : Message :=
    { id := some 0, sender := some core.instanceId, type := types.CONNECTION_WELCOME
      message := some welcome.payload }
  ownFrame message (encodeOrEmpty message) false

def startConnection (conn : ConnId) : Client Unit := do
  let core ← get
  match core.conns[conn]? with
  | none => pure ()
  | some state => do
    putConn conn { state with living := true, reading := true }
    emit (.startReading conn)
    let scheduled ← schedule conn core.welcomeFrame true true
    if scheduled then do
      sendHeartbitLater conn
      requireHeartbitLater conn
    else shutdownConnection conn

/-- Whether a newcomer that claims the id of `previous`, still known, is refused. -/
def refusesNewcomer (newcomer previous : Conn) : Bool :=
  match newcomer.expectedEndpoint, previous.expectedEndpoint with
  | none, _ => true
  | some new, some old => new.ip ≠ old.ip && previous.living
  | some _, none => false

/-- The connection recorded under the multiplexer's id, its queue opened. -/
def recordConnection (conn : ConnId) (peerId : Nat) : Client Unit := do
  modify fun core =>
    { core with
      byPeerId := core.byPeerId.insert peerId conn, roundRobin := conn :: core.roundRobin }
  match ← getConn conn with
  | none => pure ()
  | some state => putConn conn { state with outgoingMax := DEFAULT_OUT_QUEUE_SIZE }

def registerConnection (conn : ConnId) (welcome : WelcomeMessage) : Client Unit := do
  let core ← get
  match core.conns[conn]? with
  | none => pure ()
  | some state =>
    if welcome.type ≠ peers.MULTIPLEXER ∨ welcome.id = core.instanceId then shutdownConnection conn
    else
      match (core.byPeerId[welcome.id]?.filter (· ≠ conn)).bind fun previous =>
          core.conns[previous]?.map fun state => (previous, state) with
      | none => recordConnection conn welcome.id
      | some (previous, old) =>
        if refusesNewcomer state old then shutdownConnection conn
        else do
          -- the same host reconnecting replaces its stale connection
          shutdownConnection previous
          recordConnection conn welcome.id

def afterConnectionRegistration (conn : ConnId) : Client Unit := do
  let core ← get
  match core.conns[conn]? with
  | none => pure ()
  | some state => do
    putConn conn { state with routingAcknowledged := state.routingInWelcome }
    when (state.routingInWelcome ≠ core.client.routingVersion) (sendRouting conn)
    updateConfirmation
    modifyClient fun client =>
      { client with firstConnectionOver := client.firstConnectionOver.insert state.target }
    outgoingQueueHasRoom conn
    placeHeld
    closeIdleBatches (some conn)
    onConnection ⟨some conn, state.target⟩ true

/-- The welcome, which registers the multiplexer, exactly once and first. -/
def receiveWelcome (conn : ConnId) (message : Message) : Client Unit := do
  match ← getConn conn with
  | none => pure ()
  | some state =>
    if state.registered then shutdownConnection conn
    else match message.message.map Payload.content with
      | some (.welcome welcome) => do
        putConn conn { state with peerId := welcome.id, peerType := welcome.type }
        registerConnection conn welcome
        match ← getConn conn with
        | none => pure () -- refused
        | some state =>
          if state.shutsDown then pure () -- refused
          else do
            putConn conn { state with registered := true }
            note (.registered conn)
            afterConnectionRegistration conn
      | _ => shutdownConnection conn

/-! ## Connecting -/

/-- Connects to the next address of the connection's target, or ends the attempt when
every one failed. -/
def tryNextCandidate (conn : ConnId) : Client Unit := do
  let core ← get
  match core.conns[conn]? with
  | none => pure ()
  | some state =>
    match state.candidates[state.nextCandidate]? with
    | none => shutdownConnection conn
    | some address => do
      let key ← rearmTimer state.connectDeadline (core.now + CONNECT_ATTEMPT_SECONDS)
        (.connectDeadline conn)
      putConn conn { state with
        nextCandidate := state.nextCandidate + 1, expectedEndpoint := some address
        socketOpen := true, connecting := true, connectDeadline := some key }
      emit (.openSocket conn address)

def onResolved (conn : ConnId) (candidates : List SocketAddr) : Client Unit := do
  match ← getConn conn with
  | none => pure ()
  | some state =>
    if state.shutsDown then pure ()
    else if candidates.isEmpty then shutdownConnection conn
    else do
      putConn conn { state with candidates, nextCandidate := 0 }
      tryNextCandidate conn

def connectDeadline (conn : ConnId) : Client Unit := do
  match ← getConn conn with
  | none => pure ()
  | some state => do
    putConn conn { state with
      connectDeadline := none, connectTimedOut := state.connecting || state.connectTimedOut }
    when state.connecting (emit (.cancelConnect conn))

def connected (conn : ConnId) (up : Bool) : Client Unit := do
  let core ← get
  match core.conns[conn]? with
  | none => pure ()
  | some state => do
    cancelTimer state.connectDeadline
    let ended := { state with connecting := false, connectTimedOut := false, connectDeadline := none }
    if up then do
      putConn conn { ended with routingInWelcome := core.client.routingVersion }
      startConnection conn
    else do
      putConn conn ended
      when (!state.shutsDown) (tryNextCandidate conn)

/-- A connect that could not even open its socket: reported as a failed connect,
posted. -/
def openFailed (conn : ConnId) : Client Unit := post (.connectFailed conn)

/-! ## Targets -/

/-- The connection `target` has, live or on its way, that nobody shut down. -/
def Core.liveConnection (core : Core) (target : Target) : Option ConnId :=
  core.client.byTarget[target]?.filter fun conn => core.conns[conn]?.any (!·.shutsDown)

/-- Starts connecting to `target`, an address or a name, which is resolved first. -/
def asyncConnect (target : Target) : Client (Option ConnId) := do
  let core ← get
  if core.client.shutsDown then pure none
  else match core.liveConnection target with
    | some live => pure (some live)
    | none => do
      ifSome core.client.byTarget[target]? shutdownConnection
      let core ← get
      let conn := core.nextConn + 1
      let state : Conn := match target.host with
        | .address ip => { target, candidates := [⟨ip, target.port⟩] }
        | .name _ => { target }
      modify fun core => { core with nextConn := conn, conns := core.conns.insert conn state }
      modifyClient fun client => { client with byTarget := client.byTarget.insert target conn }
      match target.host with
      | .address _ => tryNextCandidate conn
      | .name _ => emit (.resolve conn target)
      pure (some conn)

def reconnectAfterTimeout (number : Nat) : Client Unit := do
  let core ← get
  match core.client.reconnects[number]? with
  | none => pure ()
  | some (_, target) => do
    modifyClient fun client => { client with reconnects := client.reconnects.erase number }
    when (!core.client.shutsDown && !core.client.byTarget.contains target) do
      let _ ← asyncConnect target
      pure ()

/-- Drops `target`: its reconnect stops, a connection to it on its way is abandoned and
a live one closed the polite way. -/
def disconnect (target : Target) : Client Unit := do
  let core ← get
  if core.client.shutsDown then pure ()
  else do
    forEach (core.client.reconnects.toList.filter (·.2.2 = target)) fun (number, key, _) => do
      modifyClient fun client => { client with reconnects := client.reconnects.erase number }
      cancelTimer (some key)
    modifyClient fun client =>
      { client with
        byTarget := client.byTarget.erase target
        firstConnectionOver := client.firstConnectionOver.erase target }
    ifSome core.client.byTarget[target]? fun conn => closeGracefully conn CLOSE_READ_SECONDS

/-! ## The shutdown -/

def shutdownClient : Client Unit := do
  let core ← get
  if core.client.shutsDown then pure ()
  else do
    stopBatching -- what waits in a batch goes first, as anything sent before
    sendConfirmations -- and what this client owes its producers
    modifyClient fun client => { client with shutsDown := true }
    emit .cancelResolves
    let core ← get
    modifyClient fun client => { client with reconnects := ∅ }
    -- a reconnect armed before would open a connection nobody closes
    forEach core.client.reconnects.values fun (key, _) => cancelTimer (some key)
    forEach core.client.byTarget.values fun conn => closeGracefully conn CLOSE_READ_SECONDS
    dropOutbox
    giveUpConfirmations .shutDown -- nothing will hear a confirmation now
    modifyClient fun client => { client with acknowledgedCallbacks := [] }

end Multiplexer
