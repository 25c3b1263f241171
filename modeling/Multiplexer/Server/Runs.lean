import Multiplexer.Server.Routing

/-! Runs of the server. At one loop each action is one handler of the loop. On several, an action
is one turn under the routing lock, or one step a connection's own loop takes between two. -/

set_option autoImplicit false

namespace Multiplexer.Server

variable {Regex : Type}

inductive Action where
  | accept
  | welcome (conn : Pointer) (welcome : WelcomeMessage) (addresses : Address × Address)
  | message (conn : Pointer) (msg : Message) (bytes : Bytes) (outside : Outside)
  | heartbeat (conn : Pointer)
  | written (conn : Pointer)
  -- the connection shuts down; on several loops the first step of that
  | dies (conn : Pointer)
  -- a write failed, or the connection closes gracefully; on several loops the first step
  | stopsWriting (conn : Pointer) (deliver : Bool)
  -- the steps that follow on several loops
  | tells (conn : Pointer)
  | closes (conn : Pointer)
  -- on several loops: all is written of a connection to be closed once flushed
  | flushed (conn : Pointer)
  | destroy (conn : Pointer)
  | startRecording (path : Bytes) (opened : Except Bytes (Option Nat))
  | stopRecording
  | loadRules (config : Config)
  | stop

/-- A connection whose own loop is at it, not in the middle of its end. -/
def ready (conn : Pointer) (server : Server Regex) : Option Connection :=
  (server.connections conn).filter fun connection =>
    !connection.shutsDown && !connection.leaving

def heartbitFrame (server : Server Regex) : Frame :=
  .made { id? := some 0, sender? := some server.instanceId, type := types.HEARTBIT }

variable (env : Surroundings Regex)

/-- Messages the routing of one goes through: itself and the report about it. -/
def ROUTED_AT_ONCE : Nat := 2

def act (action : Action) (server : Server Regex) : Option (Server Regex) :=
  match action with
  | .accept =>
    if server.stopping then none
    else
      some
        { server with
          connections := Function.update server.connections server.accepted (some {})
          accepted := server.accepted + 1 }
  | .welcome conn welcome addresses =>
    match server.ready conn with
    | none => none
    | some connection =>
      if connection.registered then none
      else some (server.receiveWelcome env conn welcome addresses)
  | .message conn msg bytes outside =>
    match server.ready conn with
    | none => none
    | some connection =>
      if connection.registered && connection.delivering && msg.type != types.CONNECTION_WELCOME &&
          msg.type != types.HEARTBIT then
        server.receiveMessage env outside ROUTED_AT_ONCE conn msg (.received bytes)
      else none
  | .heartbeat conn =>
    (server.ready conn).bind fun connection =>
      if connection.registered then some (server.scheduleOwn conn server.heartbitFrame).2
      else none
  | .written conn =>
    match server.connections conn with
    | none => none
    | some connection =>
      if connection.outgoing.isEmpty then none
      else
        some (server.modify conn fun connection =>
          { connection with outgoing := connection.outgoing.tail })
  | .dies conn =>
    (server.ready conn).map fun _ =>
      if server.loops then server.beginShutdown conn else server.shutdown env conn
  | .stopsWriting conn deliver =>
    match server.ready conn with
    | none => none
    | some connection =>
      if connection.registered && !connection.toldGone then
        some (if server.loops then server.beginReadingOn conn deliver
          else server.readToTheEnd conn deliver)
      else none
  | .tells conn =>
    match server.connections conn with
    | none => none
    | some connection =>
      if server.loops && connection.leaving then
        let server := server.tellManagerGone conn
        some (if connection.shutsDown then server else server.orphanOutgoingMessages conn)
      else none
  | .closes conn =>
    match server.connections conn with
    | none => none
    | some connection =>
      if server.loops && connection.shutsDown && !connection.leaving && !connection.closed then
        some (server.endShutdown env conn)
      else none
  | .flushed conn =>
    (server.ready conn).bind fun connection =>
      if server.loops && server.stopping && connection.registered && connection.living then
        some (server.modify conn fun connection =>
          { connection with living := false, ended := true })
      else none
  | .destroy conn =>
    match server.connections conn with
    | none => none
    | some connection =>
      if connection.closed then
        some { server with connections := Function.update server.connections conn none }
      else none
  | .startRecording path opened => some (server.startRecording path opened).2
  | .stopRecording => some server.stopRecording
  | .loadRules config => some (server.applyRules env config)
  | .stop => some { server with stopping := true }

def run : List Action → Server Regex → Option (Server Regex)
  | [], server => some server
  | action :: actions, server => (server.act env action).bind (run actions)

def start (instanceId : UInt64) (loops : Bool) (config : Config)
    (remoteRecording allowTap : Bool) : Server Regex :=
  { instanceId, loops, config, remoteRecording, allowTap }

/-- Surroundings whose RE2 knows literals and never builds a set. -/
def plainSurroundings : Surroundings (Option Bytes) where
  re2 := KeyPatterns.plainRe2
  setCompiles _ _ := false
  setHits _ _ _ := none
  random number := number.toUInt64
  recordLength _ _ := 0
  statusLength _ := 0
  literal := KeyPatterns.plainRe2_literal
  exact _ _ _ := rfl

end Multiplexer.Server
