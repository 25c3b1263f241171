import Multiplexer.Core.Client.Routing

/-! How a connection ends: told to the client, its queue handed over, the frame a
write still holds set aside for that write's end to settle. -/

set_option autoImplicit false

namespace Multiplexer

open Program

/-! ## The client hears of it -/

def endConnect (id : Nat) (_up : Bool) : Client Unit := do
  let core ← get
  match core.threaded.connects.find? (·.id = id) with
  | none => pure ()
  | some waiter => do
    modifyThreaded fun threaded =>
      { threaded with connects := threaded.connects.eraseP (·.id = id) }
    cancelTimer waiter.timer
    call (.callback waiter.done)

def onConnection (connection : Wrapper) (up : Bool) : Client Unit := do
  let core ← get
  forEach ((core.threaded.connects.filter (·.connection.isSameConnection connection)).map
    ConnectWaiter.id) fun id => endConnect id up
  queriesOnConnection connection up

/-- Takes a registered connection out of the indexes, at its shutdown. -/
def unregisterConnection (conn : ConnId) : Client Unit := do
  let core ← get
  match core.conns[conn]? with
  | none => pure ()
  | some state =>
    when (core.byPeerId[state.peerId]? = some conn) do
      modify fun core =>
        { core with
          byPeerId := core.byPeerId.erase state.peerId
          roundRobin := core.roundRobin.filter (· ≠ conn) }

def armReconnect (target : Target) : Client Unit := do
  let core ← get
  let number := core.client.nextReconnect + 1
  let key ← armTimer (core.now + AUTO_RECONNECT_TIME) (.reconnect number)
  modifyClient fun client =>
    { client with
      nextReconnect := number, reconnects := client.reconnects.insert number (key, target) }

def connectionDestroyed (conn : ConnId) : Client Unit := do
  let core ← get
  match core.conns[conn]? with
  | none => pure ()
  | some state => do
    when (!state.shutsDown) do
      modifyClient fun client => { client with closing := client.closing ++ [conn] }
    displace conn
    let stillWanted := core.client.byTarget[state.target]? = some conn
    when stillWanted do
      modifyClient fun client =>
        { client with
          byTarget := client.byTarget.erase state.target
          firstConnectionOver := client.firstConnectionOver.insert state.target }
      when (!core.client.shutsDown) (armReconnect state.target)
    onConnection ⟨none, state.target⟩ false
    when (!core.client.shutsDown) updateConfirmation

def tellClientGone (conn : ConnId) : Client Unit := do
  match ← getConn conn with
  | none => pure ()
  | some state =>
    if state.toldGone then pure ()
    else do
      putConn conn { state with toldGone := true }
      when state.registered (unregisterConnection conn)
      connectionDestroyed conn

/-! ## What it had not written -/

/-- A frame that was not written, and that the client left, is lost. -/
def loseEntry (entry : QueueEntry) : Client Unit := do
  let core ← get
  setTracker entry.tracker .lost
  when (core.strongCount entry.tracker > 0) (trackedMessageDone entry.tracker false)

/-- Offers `entries` to the client, which takes what it hands to another connection, and reports
what it left as lost. -/
def giveUp (conn : ConnId) (entries : List QueueEntry) : Client Unit := do
  let left ← handleOrphanedOutgoingMessages conn (entries.filter fun entry => !entry.frame.own)
  forEach left loseEntry

/-- Hands the unsent queue to the client, the frame a write still holds set aside. -/
def orphanOutgoingMessages (conn : ConnId) : Client Unit := do
  match ← getConn conn with
  | none => pure ()
  | some state => do
    let held := if state.writeInFlight then state.outgoing.take 1 else []
    putConn conn { state with outgoing := [], setAside := state.setAside ++ held }
    giveUp conn (if state.writeInFlight then state.outgoing.drop 1 else state.outgoing)

/-- A frame was written whole on `conn`: whoever holds its tracker is told. -/
def wroteEntry (conn : ConnId) (entry : QueueEntry) : Client Unit := do
  note (.wrote conn entry)
  let core ← get
  setTracker entry.tracker .sent
  when (core.strongCount entry.tracker > 0) (trackedMessageDone entry.tracker true)

/-- The write of the frame set aside ended, the connection closed meanwhile. -/
def settleSetAside (conn : ConnId) (written : Nat) (failed : Bool) : Client Unit := do
  match ← getConn conn with
  | none => pure ()
  | some state =>
    match state.setAside with
    | [] => pure ()
    | entry :: rest => do
      putConn conn { state with setAside := rest }
      if !failed && written = entry.frame.wireLength then wroteEntry conn entry
      else giveUp conn [entry]

/-! ## The ends -/

def forgetIfFinished (conn : ConnId) : Client Unit :=
  modify fun core =>
    if core.conns[conn]?.any Conn.finished then { core with conns := core.conns.erase conn } else core

def closeSocket (conn : ConnId) : Client Unit := do
  match ← getConn conn with
  | none => pure ()
  | some state => when state.socketOpen do
      putConn conn { state with socketOpen := false }
      emit (.close conn)

def connectionClosed (conn : ConnId) : Client Unit := do
  closeSocket conn
  confirmationsOnClosed conn
  let core ← get
  ifSome core.conns[conn]? fun state => modifyClient fun client =>
    { client with droppedWhileClosing := client.droppedWhileClosing + state.droppedWhileClosing }

/-- Stops all I/O, tells the client, and hands back or drops the outgoing queue. -/
def shutdownConnection (conn : ConnId) : Client Unit := do
  match ← getConn conn with
  | none => pure ()
  | some state =>
    if state.shutsDown then pure ()
    else do
      -- dead before the client hears of it, so that what it sends goes elsewhere
      putConn conn { state with shutsDown := true, living := false, notifyWhenReadDrained := false }
      when state.notifyWhenReadDrained do
        modifyClient fun client => { client with readDrainsWanted := client.readDrainsWanted - 1 }
      tellClientGone conn
      match ← getConn conn with
      | none => pure ()
      | some state => do
        putConn conn { state with
          registered := false, outgoingMax := 0, reading := false, out := .broken
          sendHeartbitTimer := none, requireHeartbitTimer := none, connectDeadline := none }
        cancelTimer state.sendHeartbitTimer
        cancelTimer state.requireHeartbitTimer
        cancelTimer state.connectDeadline
        when state.socketOpen (emit (.shutdown conn))
        orphanOutgoingMessages conn
        connectionClosed conn
        forgetIfFinished conn

/-- Stops writing and reads on until the multiplexer's end, `bound` at most, then shuts down. -/
def readToTheEnd (conn : ConnId) (bound : Duration) (deliver : Bool) : Client Unit := do
  match ← getConn conn with
  | none => pure ()
  | some state => do
    putConn conn { state with living := false, out := .broken, delivering := deliver }
    tellClientGone conn
    orphanOutgoingMessages conn
    let core ← get
    match core.conns[conn]? with
    | none => pure ()
    | some state => do
      emit (.shutdownWrite conn)
      cancelTimer state.requireHeartbitTimer
      let key ← rearmTimer state.sendHeartbitTimer (core.now + bound) (.readToTheEnd conn)
      putConn conn { state with requireHeartbitTimer := none, sendHeartbitTimer := some key }

def readToTheEndBound (conn : ConnId) : Client Unit := do
  match ← getConn conn with
  | none => pure ()
  | some state => do
    putConn conn { state with sendHeartbitTimer := none }
    when (!state.shutsDown) (shutdownConnection conn)

def requireHeartbitNow (conn : ConnId) : Client Unit := do
  match ← getConn conn with
  | none => pure ()
  | some state => do
    putConn conn { state with requireHeartbitTimer := none }
    when (!state.shutsDown) (shutdownConnection conn)

/-- A write failed: the connection reads on to its end, delivering what was sent before. -/
def writeFailed (conn : ConnId) : Client Unit := do
  match ← getConn conn with
  | none => pure ()
  | some state =>
    if state.shutsDown || state.toldGone then pure ()
    else if !state.registered then shutdownConnection conn
    else readToTheEnd conn HEARTBIT_INTERVAL true

/-- Ends the connection the polite way, for a client that is leaving. -/
def closeGracefully (conn : ConnId) (bound : Duration) : Client Unit := do
  match ← getConn conn with
  | none => pure ()
  | some state =>
    if state.shutsDown || state.toldGone then pure ()
    else if !state.registered then shutdownConnection conn
    else readToTheEnd conn bound false

/-! ## Writes -/

/-- Nothing left to write is news for a client that asked, once. -/
def notifyIdle (conn : ConnId) : Client Unit := do
  match ← getConn conn with
  | none => pure ()
  | some state => when (state.notifyWhenIdle && state.outgoing.isEmpty) do
      putConn conn { state with notifyWhenIdle := false }
      outgoingQueueIdle conn

/-- The queue's front was written whole: the next write starts, and what waits for
room moves in. -/
def frontWritten (conn : ConnId) (state : Conn) (front : QueueEntry) : Client Unit := do
  putConn conn { state with
    writeInFlight := false, out := .free, outgoing := state.outgoing.tail }
  wroteEntry conn front
  sendHeartbitLater conn
  processSendQueue conn
  let core ← get
  when (state.outgoingQueueFull && core.conns[conn]?.any (!·.outgoingQueueFull))
    (outgoingQueueHasRoom conn)
  notifyIdle conn

def onWriteDone (conn : ConnId) (written : Nat) (failed : Bool) : Client Unit := do
  match ← getConn conn with
  | none => pure ()
  | some state =>
    if state.out = .broken then do
      putConn conn { state with writeInFlight := false }
      settleSetAside conn written failed
      forgetIfFinished conn
    else match state.outgoing.head? with
      | some front =>
        if failed || written = 0 || front.frame.wireLength ≠ written then do
          putConn conn { state with writeInFlight := false }
          writeFailed conn
        else frontWritten conn state front
      | none => do
        putConn conn { state with writeInFlight := false }
        writeFailed conn

end Multiplexer
