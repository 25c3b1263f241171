import Multiplexer.Core.Basic

/-! A connection's outgoing queue with one write in flight, and the timers of its
silences. -/

set_option autoImplicit false

namespace Multiplexer

open Program

/-- A frame of the connection's own: told to nobody when it goes. -/
def ownFrame (message : Message) (bytes : FrameBytes) (pinned : Bool) : OutFrame :=
  { bytes, id := message.id.getD 0, type := message.type, pinned, forAll := false, own := true,
    number := 0, deadline := none, batch := none, confirmed := false }

/-- `frame::encode(..).unwrap_or_default()`: no bytes for what cannot be encoded. -/
def encodeOrEmpty (message : Message) : FrameBytes :=
  (encode message).getD ⟨0, message⟩

/-- The heartbeat of a client with `instanceId`: id 0, which marks no real message. -/
def heartbitFrame (instanceId : Nat) : OutFrame :=
  let message : Message := { id := some 0, type := types.HEARTBIT, sender := some instanceId }
  ownFrame message (encodeOrEmpty message) false

/-- Starts writing the queue's front when nothing is being written. -/
def processSendQueue (conn : ConnId) : Client Unit := do
  match ← getConn conn with
  | none => pure ()
  | some state =>
    if state.out ≠ .free ∨ state.shutsDown then pure ()
    else match state.outgoing.head? with
      | none => pure ()
      | some front => do
        putConn conn { state with out := .busy, writeInFlight := true }
        emit (.write conn front.frame.bytes)

/-- The queue with `entry` put right behind the frame being written, or in front. -/
def Conn.insertAsap (state : Conn) (entry : QueueEntry) : List QueueEntry :=
  if state.out = .busy then state.outgoing.insertIdx 1 entry else entry :: state.outgoing

/-- Queues a protocol frame and starts the write if none is in flight. -/
def schedule (conn : ConnId) (frame : OutFrame) (force asap : Bool) : Client Bool := do
  match ← getConn conn with
  | none => pure false
  | some state =>
    if !state.living then pure false
    else if state.outgoingQueueFull && (!force ||
        state.outgoing.length ≥ state.outgoingMax + FORCED_FRAMES_PAST_FULL_QUEUE) then pure false
    else do
      let tracker ← newTracker .queued
      let entry : QueueEntry := ⟨tracker, frame⟩
      putConn conn { state with
        outgoing := if asap then state.insertAsap entry else state.outgoing ++ [entry] }
      processSendQueue conn
      pure true

/-- Queues an entry the client built itself. -/
def takeOver (conn : ConnId) (entry : QueueEntry) : Client Bool := do
  match ← getConn conn with
  | none => pure false
  | some state =>
    if !state.living || state.outgoingQueueFull then pure false
    else do
      putConn conn { state with outgoing := state.outgoing ++ [entry] }
      note (.queued conn entry)
      processSendQueue conn
      pure true

/-! ## Heartbeats -/

/-- Arms the heartbeat when nothing is queued. -/
def sendHeartbitLater (conn : ConnId) : Client Unit := do
  let core ← get
  match core.conns[conn]? with
  | none => pure ()
  | some state =>
    if !state.living || !state.outgoing.isEmpty then pure ()
    else if state.sendHeartbitTimer.isNone then do
      let key ← armTimer (core.now + HEARTBIT_INTERVAL) (.sendHeartbit conn)
      putConn conn { state with quietSince := some core.now, sendHeartbitTimer := some key }
    else putConn conn { state with quietSince := some core.now }

def sendHeartbitNow (conn : ConnId) : Client Unit := do
  let core ← get
  match core.conns[conn]? with
  | none => pure ()
  | some state =>
    if state.shutsDown || !state.living then putConn conn { state with sendHeartbitTimer := none }
    else
      match (state.quietSince.map (· + HEARTBIT_INTERVAL)).filter (· > core.now) with
      | some deadline => do
        let key ← armTimer deadline (.sendHeartbit conn)
        putConn conn { state with sendHeartbitTimer := some key }
      | none => do
        putConn conn { state with sendHeartbitTimer := none }
        let _ ← schedule conn (heartbitFrame core.instanceId) true true
        pure ()

/-- Arms the drop of a silent connection. -/
def requireHeartbitLater (conn : ConnId) : Client Unit := do
  let core ← get
  match core.conns[conn]? with
  | none => pure ()
  | some state =>
    if state.requireHeartbitTimer.isSome && !state.silenceSecondWait then
      putConn conn { state with heardAt := some core.now }
    else do
      let key ← rearmTimer state.requireHeartbitTimer
        (core.now + NO_HEARTBIT_SO_PREPARE_DROP_INTERVAL) (.requireHeartbitSoon conn)
      putConn conn { state with
        heardAt := some core.now, silenceSecondWait := false, requireHeartbitTimer := some key }

def requireHeartbitSoon (conn : ConnId) : Client Unit := do
  let core ← get
  match core.conns[conn]? with
  | none => pure ()
  | some state =>
    if state.shutsDown then putConn conn { state with requireHeartbitTimer := none }
    else
      match (state.heardAt.map (· + NO_HEARTBIT_SO_PREPARE_DROP_INTERVAL)).filter
          (· > core.now) with
      | some deadline => do
        let key ← armTimer deadline (.requireHeartbitSoon conn)
        putConn conn { state with requireHeartbitTimer := some key }
      | none => do
        let key ← rearmTimer none (core.now + NO_HEARTBIT_SO_REALLY_DROP_INTERVAL)
          (.requireHeartbitNow conn)
        putConn conn { state with silenceSecondWait := true, requireHeartbitTimer := some key }

end Multiplexer
