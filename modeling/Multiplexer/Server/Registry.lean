import Multiplexer.Server.State

/-! How connections come into the server's indexes and leave them. On several loops each
function that changes an index runs under the routing lock; a connection's own steps
between them are its loop's. -/

set_option autoImplicit false

namespace Multiplexer.Server

variable {Regex : Type} (env : Surroundings Regex)

/-! ## Leaving -/

def untap (conn : Pointer) (server : Server Regex) : Server Regex :=
  { server with taps := server.taps.eraseP fun tap => tap.conn = conn }

def releaseOwner (conn : Pointer) (owner : Owner) (server : Server Regex) : Server Regex :=
  { server with
    keyPatterns := server.keyPatterns.removeOwner owner
    owned := server.owned ++ [OwnerTurn.released conn owner] }

def leaveRouting (conn : Pointer) (server : Server Regex) : Server Regex :=
  match server.connections conn with
  | none => server
  | some connection =>
    let server := (server.untap conn).releaseOwner conn connection.keyOwner
    { server with turns := server.turns ++ [Turn.left conn] }.modify conn fun connection =>
      { connection with keyFilters := [], keyOwner := NO_OWNER }

def unlist (conn : Pointer) (server : Server Regex) : Server Regex :=
  match server.connections conn with
  | none => server
  | some connection =>
    if connection.inTypeList then
      { server with
        connectionsByType := server.connectionsByType.insert connection.peerType
          ((server.ofType connection.peerType).erase conn) }.modify conn
        fun connection => { connection with inTypeList := false }
    else server

def unregisterIndexed (conn : Pointer) (server : Server Regex) : Server Regex :=
  match server.connections conn with
  | none => server
  | some connection =>
    match server.connectionById[connection.peerId]? with
    | none => server
    | some _ =>
      let server := { server with departed := insert conn server.departed }.leaveRouting conn
      { server with connectionById := server.connectionById.erase connection.peerId }.unlist conn

def unregisterConnection (conn : Pointer) (server : Server Regex) : Server Regex :=
  if conn ∈ server.replaced then server.leaveRouting conn else server.unregisterIndexed conn

def recordDeparture (conn : Pointer) (server : Server Regex) : Server Regex :=
  match server.connections conn with
  | none => server
  | some connection =>
    if conn ∈ server.departed then
      { server with departed := server.departed.erase conn }.emitPeer env .disconnected
        connection.peerId connection.peerType
    else server

def connectionClosed (conn : Pointer) (server : Server Regex) : Server Regex :=
  { server with replaced := server.replaced.erase conn }.recordDeparture env conn

/-! ## A connection's end, in its own loop's steps -/

/-- The first step of `shutdown`: dead before the manager hears of it. -/
def beginShutdown (conn : Pointer) (server : Server Regex) : Server Regex :=
  server.modify conn fun connection =>
    { connection with shutsDown := true, living := false, leaving := !connection.toldGone }

def beginReadingOn (conn : Pointer) (deliver : Bool) (server : Server Regex) : Server Regex :=
  server.modify conn fun connection =>
    { connection with living := false, delivering := deliver, leaving := true }

def tellManagerGone (conn : Pointer) (server : Server Regex) : Server Regex :=
  match server.connections conn with
  | none => server
  | some connection =>
    if connection.toldGone then server
    else
      let server := server.modify conn fun connection =>
        { connection with toldGone := true, leaving := false }
      if connection.registered then server.unregisterConnection conn else server

def orphanOutgoingMessages (conn : Pointer) (server : Server Regex) : Server Regex :=
  server.modify conn fun connection => { connection with outgoing := [], ended := true }

def endShutdown (conn : Pointer) (server : Server Regex) : Server Regex :=
  let server := server.modify conn fun connection =>
    { connection with registered := false, outgoingMax := 0 }
  let server := (server.orphanOutgoingMessages conn).connectionClosed env conn
  server.modify conn fun connection => { connection with closed := true }

def shutdown (conn : Pointer) (server : Server Regex) : Server Regex :=
  match server.connections conn with
  | none => server
  | some connection =>
    if connection.shutsDown then server
    else ((server.beginShutdown conn).tellManagerGone conn).endShutdown env conn

def readToTheEnd (conn : Pointer) (deliver : Bool) (server : Server Regex) : Server Regex :=
  ((server.beginReadingOn conn deliver).tellManagerGone conn).orphanOutgoingMessages conn

/-! ## Registration -/

/-- The remote address of a socket, none when the socket is gone. -/
abbrev Address := Option Bytes

/-- Why a newcomer with the id of a live connection is refused, if it is. -/
def newcomerRefusal (previous newcomer : Address) : Option Bytes :=
  match newcomer with
  | none => some (text ": its socket is gone")
  | some newcomer =>
    match previous with
    | none => none
    | some previous =>
      if previous = newcomer then none else some (text " from a different address")

def acceptPeerType (type : UInt32) (server : Server Regex) : Bool :=
  if type = peers.RULES_CONTROLLER then true
  else if type = peers.RECORDING_CONTROLLER then server.remoteRecording || server.allowTap
  else
    type > peers.MAX_MULTIPLEXER_SPECIAL_PEER_TYPE &&
      (!server.config.initialized || (server.config.peerDescription type).isSome)

def DEFAULT_OUT_QUEUE_SIZE : Nat := 1024

def outgoingQueueMaxSize (type : UInt32) (server : Server Regex) : Nat :=
  if server.config.initialized then
    ((server.config.peerDescription type).map PeerDescription.queueSize).getD
      DEFAULT_OUT_QUEUE_SIZE
  else DEFAULT_OUT_QUEUE_SIZE

/-- `previous`, the live connection a newcomer with its id replaces, ends. -/
def replaceConnection (previous : Pointer) (server : Server Regex) : Server Regex :=
  if server.loops then
    match server.connections previous with
    | none => server
    | some connection =>
      let server := server.unlist previous
      { server with replaced := insert previous server.replaced }.emitPeer env .disconnected
        connection.peerId connection.peerType
  else server.shutdown env previous

def index (conn : Pointer) (welcome : WelcomeMessage) (server : Server Regex) : Server Regex :=
  { server with
    connectionById := server.connectionById.insert welcome.id conn
    connectionsByType :=
      server.connectionsByType.insert welcome.type (conn :: server.ofType welcome.type)
    turns := server.turns ++ [Turn.registered welcome.id welcome.type conn] }.modify conn
    fun connection =>
      { connection with
        inTypeList := true, outgoingMax := server.outgoingQueueMaxSize welcome.type }

def declareRouting (conn : Pointer) (welcome : WelcomeMessage) (server : Server Regex) :
    Server Regex :=
  match welcome.routing? with
  | some routing => server.modify conn fun connection => { connection with routing }
  | none => server

/-- A connection takes its id's place in the index, or is refused it. -/
def takePlace (conn : Pointer) (welcome : WelcomeMessage) (addresses : Address × Address)
    (server : Server Regex) : Server Regex :=
  match server.connectionById[welcome.id]? with
  | none => server.index conn welcome
  | some previous =>
    match server.connections previous with
    | none => server.index conn welcome
    | some _ =>
      if (newcomerRefusal addresses.1 addresses.2).isSome then server.shutdown env conn
      else (server.replaceConnection env previous).index conn welcome

def registerIndexed (conn : Pointer) (welcome : WelcomeMessage) (addresses : Address × Address)
    (server : Server Regex) : Server Regex :=
  if !server.acceptPeerType welcome.type then server.shutdown env conn
  else if welcome.id = server.instanceId then server.shutdown env conn
  else (server.declareRouting conn welcome).takePlace env conn welcome addresses

def welcomeFrame (server : Server Regex) : Frame :=
  let welcome := { type := peers.MULTIPLEXER, id := server.instanceId }
  .made
    { id? := some 0
      sender? := some server.instanceId
      type := types.CONNECTION_WELCOME
      message? := some ⟨welcome.encodedLen, .welcome welcome⟩ }

def shutsDown (conn : Pointer) (server : Server Regex) : Bool :=
  (server.connections conn).any Connection.shutsDown

/-- Sends the welcome, or shuts down when it cannot be queued. -/
def startRest (conn : Pointer) (server : Server Regex) : Server Regex :=
  if server.shutsDown conn then server
  else
    match server.scheduleOwn conn server.welcomeFrame with
    | (true, server) => server
    | (false, server) => server.shutdown env conn

def afterRegistration (conn : Pointer) (server : Server Regex) : Server Regex :=
  let server := server.startRest env conn
  match server.connections conn with
  | none => server
  | some connection =>
    let server := server.emitPeer env .connected connection.peerId connection.peerType
    if connection.routing.restricted then server.emitPeerRouting env connection else server

/-- The rest of `register_connection`, the base class's done. -/
def keepOwner (conn : Pointer) (welcome : WelcomeMessage) (owner : Owner)
    (server : Server Regex) : Server Regex :=
  if server.shutsDown conn then server.releaseOwner conn owner
  else
    let server := server.modify conn fun connection =>
      { connection with keyFilters := welcome.keyFilter, keyOwner := owner }
    if server.loops then
      let server := server.afterRegistration env conn
      if server.shutsDown conn then
        (server.unregisterIndexed conn).recordDeparture env conn
      else server
    else server

def registerConnection (conn : Pointer) (welcome : WelcomeMessage)
    (addresses : Address × Address) (server : Server Regex) : Server Regex :=
  if server.stopping then server.shutdown env conn
  else
    let (owner, keyPatterns) := server.keyPatterns.addOwner
    let server := { server with keyPatterns, owned := server.owned ++ [OwnerTurn.taken conn owner] }
    match server.keyPatterns.setFilters env.re2 owner
      (welcome.keyFilter.map FilterMessage.filter) with
    | (.error _, _) => (server.releaseOwner conn owner).shutdown env conn
    | (.ok (), keyPatterns) =>
      ({ server with keyPatterns }.registerIndexed env conn welcome addresses).keepOwner env
        conn welcome owner

/-- The connection's own part once its manager registered it. -/
def takeWelcome (conn : Pointer) (server : Server Regex) : Server Regex :=
  if server.shutsDown conn then server
  else
    let server := server.modify conn fun connection => { connection with registered := true }
    if server.loops then server else server.afterRegistration env conn

/-- A connection that is not registered received its peer's welcome. -/
def receiveWelcome (conn : Pointer) (welcome : WelcomeMessage) (addresses : Address × Address)
    (server : Server Regex) : Server Regex :=
  let server := server.modify conn fun connection =>
    { connection with peerId := welcome.id, peerType := welcome.type }
  (server.registerConnection env conn welcome addresses).takeWelcome env conn

/-! ## The rules -/

/-- A living connection with the room the rules give its peer's type. -/
def Connection.followRules (config : Config) (connection : Connection) : Connection :=
  match config.peerDescription connection.peerType with
  | some peer =>
    if connection.living then { connection with outgoingMax := peer.queueSize } else connection
  | none => connection

/-- New rules in use, their queue sizes applied to the connected peers. -/
def applyRules (config : Config) (server : Server Regex) : Server Regex :=
  let followed := server.connectionById.toList.foldl
    (fun server entry => server.modify entry.2 (Connection.followRules config))
    { server with config }
  if followed.recording then followed.emit env .rules else followed

end Multiplexer.Server
