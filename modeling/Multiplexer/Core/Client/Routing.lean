import Multiplexer.Core.Query.Answers

/-! A client's routing and key filters: told to every connection, confirmed by each,
and acknowledged once every connection confirmed and what was read before has been
handed out. -/

set_option autoImplicit false

namespace Multiplexer

open Program

/-- Whether two Routings say the same, an absent flag read as the protocol's
default. -/
def sameRouting (first second : Routing) : Bool :=
  first.any.getD true == second.any.getD true && first.all.getD true == second.all.getD true &&
    first.lastResort.getD false == second.lastResort.getD false

namespace Core

/-- Whether every living connection is registered and has confirmed the current
routing. -/
def allConfirmed (core : Core) : Bool :=
  core.client.byTarget.values.all fun conn => core.conns[conn]?.all fun state =>
    !state.living || state.registered && state.routingAcknowledged == core.client.routingVersion

/-- Whether every connection has the current routing in effect, and everything read
before the last confirmation has been handed out. -/
def routingAcknowledged (core : Core) : Bool :=
  core.client.confirmed && core.client.confirmedEnqueued ≤ core.client.dequeued &&
    core.allConfirmed

end Core

/-- The acknowledged changes' callbacks, run now when the routing is acknowledged. -/
def runAcknowledgedCallbacks : Client Unit := do
  let core ← get
  if core.client.acknowledgedCallbacks.isEmpty || core.client.shutsDown ||
      !core.routingAcknowledged then pure ()
  else do
    modifyClient fun client => { client with acknowledgedCallbacks := [] }
    forEach core.client.acknowledgedCallbacks fun callback => call (.callback callback)

/-- A change acknowledged: the serve loop's wake, and the callbacks at once for a
client that hands out what arrives. -/
def changeAcknowledged : Client Unit := do
  modifyClient fun client =>
    { client with acknowledgedVersion := client.routingVersion, acknowledgedWake := true }
  let core ← get
  when (core.client.mode = .dispatch) runAcknowledgedCallbacks

def updateConfirmation : Client Unit := do
  let core ← get
  if !core.allConfirmed then modifyClient fun client => { client with confirmed := false }
  else do
    when (!core.client.confirmed) do
      modifyClient fun client =>
        { client with confirmed := true, confirmedEnqueued := client.enqueued }
    let core ← get
    when (core.routingAcknowledged &&
      (core.client.acknowledgedVersion ≠ core.client.routingVersion ||
        !core.client.acknowledgedCallbacks.isEmpty)) changeAcknowledged

/-- A change that became acknowledged when a receive took the last message read
before every connection confirmed it. -/
def acknowledgedByReceive : Client Unit := do
  let core ← get
  when (core.client.acknowledgedVersion ≠ core.client.routingVersion && core.routingAcknowledged)
    changeAcknowledged

/-- PEER_CONTROL with the current routing and key filters on `conn`. -/
def sendRouting (conn : ConnId) : Client Unit := do
  let core ← get
  let id ← random64
  let message : Message :=
    { id := some id, sender := some core.instanceId, type := types.PEER_CONTROL
      message := some (PeerControl.payload ⟨core.client.routing, core.client.keyFiltersMessage⟩) }
  match encode message with
  | none => pure ()
  | some bytes => do
    match ← getConn conn with
    | none => pure ()
    | some state => do
      putConn conn { state with routingRequestId := id }
      let _ ← schedule conn (ownFrame message bytes true) true false
      pure ()

/-- The routing or the key filters changed: a new version, and PEER_CONTROL on every
live connection. -/
def routingChanged : Client Unit := do
  modifyClient fun client =>
    { client with routingVersion := client.routingVersion + 1, confirmed := false }
  let core ← get
  forEach (core.byPeerId.values.filter core.connLiving) sendRouting
  updateConfirmation

def setRouting (routing : Routing) (acknowledged : Option CallbackId) : Client Unit := do
  modifyClient fun client =>
    { client with
      routing, acknowledgedCallbacks := client.acknowledgedCallbacks ++ acknowledged.toList }
  routingChanged

def checkKeyFilters (filters : List KeyFilter) : Bool :=
  filters.all fun filter => filter.type > types.MAX_MULTIPLEXER_META_PACKET &&
    filter.pattern.all fun pattern => pattern.utf8ByteSize ≤ MAX_KEY_PATTERN_SIZE

def setKeyFilters (filters : List KeyFilter) (acknowledged : Option CallbackId) : Client Unit :=
  when (checkKeyFilters filters) do
    modifyClient fun client =>
      { client with
        keyFiltersMessage := filters
        acknowledgedCallbacks := client.acknowledgedCallbacks ++ acknowledged.toList }
    routingChanged

/-- The answer to the last PEER_CONTROL sent on a connection confirms the current routing and key
filters. -/
def onPeerStatus (conn : ConnId) (message : Message) : Client Unit := do
  match message.message.map Payload.content with
  | some (.peerStatus status) =>
    if status.error.isSome then pure ()
    else do
      let core ← get
      match core.conns[conn]? with
      | none => pure ()
      | some state =>
        when (message.references.getD 0 = state.routingRequestId &&
            sameRouting (status.routing.getD {}) core.client.routing &&
            status.keyFilter = core.client.keyFiltersMessage) do
          putConn conn { state with routingAcknowledged := core.client.routingVersion }
          updateConfirmation
  | _ => pure ()

end Multiplexer
