import Multiplexer.Core.Client.Messages

/-! The threaded client's own: the connect() and flush_all() calls that wait, the sends
it follows for their callers, and its shutdown. -/

set_option autoImplicit false

namespace Multiplexer

open Program

/-! ## Calls that wait -/

/-- A connect() on the io thread: the connection started and its wait armed. -/
def startConnect (target : Target) (timeout : Option Duration) (done : CallbackId) :
    Client Unit := do
  let core ← get
  if core.threaded.shutDown then call (.callback done)
  else do
    match ← asyncConnect target with
    | none => call (.callback done)
    | some conn => do
      let core ← get
      match core.conns[conn]? with
      | none => call (.callback done) -- failed at once
      | some state =>
        -- failed at once, or connected already
        if state.shutsDown || state.registered then call (.callback done)
        else do
          let id := core.threaded.nextWait + 1
          let timer ← match deadlineAfter core.now timeout with
            | some deadline => do
              let key ← armTimer deadline (.connectWait id)
              pure (some key)
            | none => pure none
          modifyThreaded fun threaded =>
            { threaded with
              nextWait := id
              connects := threaded.connects ++ [⟨id, core.wrap conn, done, timer⟩] }

def connectWaitExpired (id : Nat) : Client Unit := do
  modifyThreaded fun threaded =>
    { threaded with
      connects := threaded.connects.map fun waiter =>
        if waiter.id = id then { waiter with timer := none } else waiter }
  endConnect id false

/-- A flush_all() on the io thread: the outbox's flush with a timer of its own. -/
def beginFlushAll (timeout : Option Duration) (done : CallbackId) : Client Unit := do
  let core ← get
  if core.threaded.tornDown then call (.callback done)
  else do
    let id := core.threaded.nextWait + 1
    modifyThreaded fun threaded =>
      { threaded with
        nextWait := id, flushWaits := threaded.flushWaits ++ [⟨id, none, done, none⟩] }
    let flush ← beginFlush (some (.wait id))
    let core ← get
    if core.threaded.flushWaits.any (·.id = id) then do
      let timer ← match deadlineAfter core.now timeout with
        | some deadline => do
          let key ← armTimer deadline (.flushWait id)
          pure (some key)
        | none => pure none
      modifyThreaded fun threaded =>
        { threaded with
          flushWaits := threaded.flushWaits.map fun wait =>
            if wait.id = id then { wait with flush := some flush, timer } else wait }
    else endFlush flush -- nothing to wait for: ended already

def flushWaitExpired (id : Nat) : Client Unit := do
  modifyThreaded fun threaded =>
    { threaded with
      flushWaits := threaded.flushWaits.map fun wait =>
        if wait.id = id then { wait with timer := none } else wait }
  endFlushWait id false

/-! ## Sends -/

/-- The timer set to the earliest deadline of a flushing send not settled, or stopped
when none is left. -/
def armSendExpiry : Client Unit := do
  modifyThreaded fun threaded =>
    { threaded with
      expiring := threaded.expiring.dropWhile fun (_, id) => !threaded.sends[id]?.any (·.wait) }
  let core ← get
  match core.threaded.expiring.head? with
  | none => do
    cancelTimer core.threaded.expiryTimer
    modifyThreaded fun threaded => { threaded with expiryTimer := none, expiryArmed := none }
  | some (next, _) =>
    if core.threaded.expiryArmed = some next then pure ()
    else do
      let key ← rearmTimer core.threaded.expiryTimer next .sendsExpire
      modifyThreaded fun threaded =>
        { threaded with expiryTimer := some key, expiryArmed := some next }

/-- The heap of the flushing sends' deadlines once it has doubled: the entries of sends
that ended cleared out. -/
def Threaded.compactExpiring (threaded : Threaded) : Threaded :=
  if threaded.expiring.length ≥ max threaded.expiringCompactAt 64 then
    let left := threaded.expiring.filter fun entry => threaded.sends.contains entry.2
    { threaded with expiring := left, expiringCompactAt := max (2 * left.length) 64 }
  else threaded

/-- A flushing send's deadline into the heap, the timer moved to it when it is the
earliest. -/
def expireSendAt (id : Nat) (deadline : Option Instant) : Client Unit :=
  ifSome deadline fun deadline => do
    let core ← get
    modifyThreaded fun threaded =>
      let threaded := threaded.compactExpiring
      { threaded with expiring := threaded.expiring.orderedInsert dueBefore (deadline, id) }
    when (core.threaded.expiryArmed.all (deadline < ·)) armSendExpiry

def followSend (settled : CallbackId) (wait : Bool) (deadline : Option Instant) : Client Nat := do
  let core ← get
  let id := core.threaded.nextSend + 1
  modifyThreaded fun threaded =>
    { threaded with nextSend := id, sends := threaded.sends.insert id ⟨wait, settled⟩ }
  when wait (expireSendAt id deadline)
  pure id

def placeSend (frame : Frame) (all : Bool) (lane : Option LaneId) (deadline : Option Instant)
    (wait : Bool) (settled : Option CallbackId) : Client Unit := do
  let number ← nextNumber
  let core ← get
  let report := { reportFrame frame.id frame.type number with forAll := all }
  if core.threaded.tornDown then do
    reportDrop none report .shutDown
    ifSome settled fun settled => call (.callback settled)
  else do
    let id ← match settled with
      | some settled => do
        let id ← followSend settled wait deadline
        pure (some id)
      | none => pure none
    let left := deadline.map (· - core.now)
    let timeout := if wait then left.map (· + ROOM_GRACE_SECONDS) else left
    -- a send nobody waits for goes by its type's delivery
    let sent ← send frame all lane timeout number false (id.map ProgramDone.settle) (!wait)
    when (!sent.accepted) do
      reportDrop none report .connectionLost
      ifSome id fun id => settleSend id 0 true

def sendsExpireLoop : Nat → Client Unit
  | 0 => pure ()
  | steps + 1 => do
    let core ← get
    match core.threaded.expiring with
    | [] => pure ()
    | (deadline, id) :: rest =>
      if deadline > core.now then pure ()
      else do
        modifyThreaded fun threaded => { threaded with expiring := rest }
        settleSend id 0 (!core.byPeerId.values.any core.connLiving) -- out of time
        sendsExpireLoop steps

/-- The deadline timer: a flushing send that wrote nothing by then ends with 0. -/
def sendsExpire : Client Unit := do
  modifyThreaded fun threaded => { threaded with expiryTimer := none, expiryArmed := none }
  let core ← get
  sendsExpireLoop core.threaded.expiring.length
  armSendExpiry

/-! ## The shutdown -/

def teardown : Client Unit := do
  let core ← get
  if core.threaded.tornDown then pure ()
  else do
    cancelTimer core.threaded.drainTimer
    ifSome core.threaded.drain endFlush
    cancelTimer core.threaded.expiryTimer
    modifyThreaded fun threaded =>
      { threaded with
        tornDown := true, drainTimer := none, drain := none, expiring := []
        expiryTimer := none, expiryArmed := none }
    forEach (core.threaded.flushWaits.map FlushWait.id) fun id => endFlushWait id false
    shutdownClient
    modifyThreaded fun threaded => { threaded with subscriptions := [] }

def writeOut : Client Unit := do
  let core ← get
  ifSome core.threaded.drain endFlush
  modifyThreaded fun threaded =>
    { threaded with writeOutSent := core.outbox.lastNumber, drain := none }
  let drain ← beginFlush (some .drain)
  modifyThreaded fun threaded => { threaded with drain := some drain }

/-- A write-out's flush ended: again while anything newer was sent, else the
teardown. -/
def writeOutStep : Client Unit := do
  let core ← get
  if core.threaded.tornDown then pure ()
  else if core.outbox.lastNumber ≠ core.threaded.writeOutSent then writeOut
  else teardown

def drainExpired : Client Unit := do
  modifyThreaded fun threaded => { threaded with drainTimer := none }
  teardown

def beginShutdown (timeout : Option Duration) : Client Unit := do
  modifyThreaded fun threaded => { threaded with shutDown := true }
  finishEveryQuery
  let core ← get
  forEach (core.threaded.connects.map ConnectWaiter.id) fun id => endConnect id false
  if timeout = some 0 then teardown
  else do
    writeOut
    let core ← get
    ifSome (deadlineAfter core.now timeout) fun deadline => do
      let key ← rearmTimer core.threaded.drainTimer deadline .drain
      modifyThreaded fun threaded => { threaded with drainTimer := some key }

def registerInbox : Client Unit := do
  let core ← get
  when (!core.threaded.tornDown) do
    modifyThreaded fun threaded => { threaded with inbox := true }

def registerSubscription (type : Nat) : Client Unit := do
  let core ← get
  when (!core.threaded.tornDown) do
    modifyThreaded fun threaded =>
      { threaded with subscriptions := threaded.subscriptions ++ [some type] }

end Multiplexer
