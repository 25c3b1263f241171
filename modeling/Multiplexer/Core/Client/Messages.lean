import Multiplexer.Core.Client.Connect

/-! What the connections read: the protocol's own messages, confirmations, batches and
delivery errors split, and the rest handed out. -/

set_option autoImplicit false

namespace Multiplexer

open Program

/-! ## The ids seen -/

/-- The set once `value` is added, the oldest gone when it is full. -/
def SpanSet.insert (set : SpanSet) (value : Nat) : Option SpanSet :=
  if value ∈ set.order then none
  else some { set with
    order := (if set.order.length = set.span then set.order.tail else set.order) ++ [value] }

def SpanSet.forgetLast (set : SpanSet) : SpanSet := { set with order := set.order.dropLast }

def seeFirst (id : Nat) : Client Bool := do
  let core ← get
  match core.client.lastSeen.insert id with
  | none => pure false
  | some lastSeen => do
    modifyClient fun client => { client with lastSeen }
    noteArrival (.took id)
    pure true

/-! ## Handing out -/

def pongOf (id instanceId : Nat) (message : Message) : Message :=
  let payload := message.message.getD ⟨0, .uninterpreted⟩
  let pong : Message :=
    { id := some id, sender := some instanceId, toId := message.sender, references := message.id
      type := types.PING, message := some payload }
  if pong.encodedLen > MAX_MESSAGE_SIZE then
    let what := if message.type = types.PING then "PING" else "search"
    let length := payload.length
    let text := s!"the echo of a {what} of {length} bytes would be over MAX_MESSAGE_SIZE"
    { pong with type := types.BACKEND_ERROR, message := some ⟨text.utf8ByteSize, .uninterpreted⟩ }
  else pong

/-- The echo of a PING, or the answer to a search, through the connection it came
on. -/
def answerPing (incoming : Incoming) : Client Unit := do
  let core ← get
  let id ← random64
  let pong := pongOf id core.instanceId incoming.message
  match encode pong with
  | none => pure ()
  | some bytes => do
    let frame : Frame := ⟨bytes, id, pong.type, .none⟩
    match ← scheduleOn frame false incoming.connection (some DEFAULT_TIMEOUT) 0 none none with
    | some _ => pure ()
    | none => do
      let _ ← scheduleOne frame false (some DEFAULT_TIMEOUT) 0 none
      pure ()

def callOnMessage (handler : Nat → HandlerReply) (sender number : Nat) : Client Unit := do
  let core ← get
  modifyThreaded fun threaded => { threaded with calls := threaded.calls + 1 }
  let reply := handler core.threaded.calls
  if number = 0 then pure ()
  else do
    confirmHanded reply.confirmed
    let confirmed := reply.confirmed.any fun each => each.sender = sender && each.number = number
    when (!core.threaded.confirmsItself && !confirmed)
      (confirm sender number (if reply.returned then .processed else .failed))

def askSearchPolicy : Client Bool := do
  let core ← get
  match core.threaded.searchPolicy with
  | none => pure false
  | some policy => do
    modifyThreaded fun threaded => { threaded with calls := threaded.calls + 1 }
    pure (policy core.threaded.calls)

def onUnmatched (incoming : Incoming) : Client Unit := do
  let core ← get
  let message := incoming.message
  let sender := message.sender.getD 0
  let number := message.confirmation.getD 0
  if message.type = types.REQUEST_RECEIVED then pure ()
  else if message.type = types.PING ∨ message.type = types.BACKEND_FOR_PACKET_SEARCH then
    if message.references.getD 0 ≠ 0 then pure ()
    else do
      let answer ← if message.type = types.PING then pure true else askSearchPolicy
      when answer (answerPing incoming)
  else
    let delivered := core.threaded.inbox ||
      core.threaded.subscriptions.any fun wanted => wanted.all (· = message.type)
    match core.threaded.onMessage with
    | some handler => do
      noteConfirm (.handed message)
      callOnMessage handler sender number
    | none =>
      if delivered then noteConfirm (.handed message) -- a stream's: its reader confirms it
      -- nothing will ever process it
      else when (!core.threaded.confirmsItself) (confirm sender number .failed)

/-- Refuses `incoming` for a server that is leaving. -/
def refuse (incoming : Incoming) : Client Unit := do
  let message := incoming.message
  match message.confirmation with
  | some number => confirm (message.sender.getD 0) number .refused
  | none =>
    if message.references.getD 0 ≠ 0 ∨ message.reportDeliveryError = some false ∨
        message.type ≤ types.MAX_MULTIPLEXER_META_PACKET then pure ()
    else do
      let core ← get
      let error : DeliveryError :=
        { packetId := message.id.getD 0, failedType := [core.peerType] }
      let id ← random64
      let refusal : Message :=
        { id := some id, sender := some core.instanceId, type := types.DELIVERY_ERROR
          toId := message.sender, references := some (message.id.getD 0)
          workflow := message.workflow, message := some error.payload }
      match encode refusal with
      | none => pure ()
      | some bytes => do
        let lane ← seededLane incoming.connection false
        let _ ← send ⟨bytes, id, types.DELIVERY_ERROR, .none⟩ false (some lane)
          (some DEFAULT_TIMEOUT) 0 false none false
        pure ()

def pushIncoming (incoming : Incoming) : Client Unit := do
  noteConfirm (.handed incoming.message)
  modifyClient fun client =>
    { client with incoming := client.incoming ++ [incoming], enqueued := client.enqueued + 1 }

def Core.incomingFull (core : Core) : Bool :=
  core.client.incomingMax ≤ core.client.incoming.length

/-- A full incoming queue drops what came, `count` messages: its id is not seen after all. -/
def dropWhole (count : Nat) : Client Unit := do
  modifyClient fun client =>
    { client with
      lastSeen := client.lastSeen.forgetLast, incomingDropped := client.incomingDropped + count }
  noteArrival .letGo

def handOut (incoming : Incoming) (limited : Bool) : Client Unit := do
  match ← queryTakes incoming with
  | none => noteArrival (.passed incoming.message) -- a query's, or a late reply to one
  | some incoming => do
    let core ← get
    match core.client.mode with
    | .dispatch => do
      noteArrival (.passed incoming.message)
      onUnmatched incoming
    | .queue =>
      if core.client.refusing then do
        noteArrival (.passed incoming.message)
        refuse incoming
      else if limited && core.incomingFull then
        dropWhole 1 -- not seen after all: its copy through another multiplexer is taken
      else do
        noteArrival (.passed incoming.message)
        pushIncoming incoming

/-! ## Batches -/

/-- An enum's value the protocol does not name is its field's default. -/
def enumOr (value : Option Nat) (named : List Nat) (default : Nat) : Nat :=
  (value.filter (· ∈ named)).getD default

/-- Whether `message` may go by a delivery, in a batch. -/
def plainEvent (message : Message) : Bool :=
  message.toId.getD 0 = 0 && message.references.getD 0 = 0 &&
    !message.reportDeliveryError.getD false &&
    !message.includeOriginalPacketInReport.getD false && message.overrideRrules.isEmpty &&
    enumOr message.loggingMethod [1, 2, 3] 3 = 3 && enumOr message.compression [0, 1] 0 = 0 &&
    message.batch.isNone

/-- The number of the next message by an envelope's `confirm`, read in step. -/
def nextConfirm : List Nat → Nat → Nat × List Nat × Nat
  | first :: count :: rest, past =>
    if past ≥ count then nextConfirm rest 0
    else ((first + past) % NUMBERS, first :: count :: rest, past + 1)
  | numbers, past => (0, numbers, past)

def belongs (envelope : Message) (body : Body Message) : Option Message :=
  body.message.filter fun message =>
    message.id.getD 0 ≠ 0 && plainEvent message && message.type = envelope.type &&
      message.key = envelope.key

def splitEach (connection : Wrapper) (envelope : Message) :
    List (Body Message) → List Nat → Nat → Client Unit
  | [], _, _ => pure ()
  | body :: rest, numbers, past => do
    let (number, numbers, past) := nextConfirm numbers past
    match belongs envelope body with
    | none => confirm (envelope.sender.getD 0) number .failed
    | some message => do
      let message := { message with confirmation := if number ≠ 0 then some number else none }
      let fresh ← if number ≠ 0 then pure true else seeFirst (message.id.getD 0)
      when fresh (handOut ⟨message, connection⟩ false)
    splitEach connection envelope rest numbers past

/-- The bodies of a batch, when there are at most as many as a batch may hold. -/
def Message.bodies (envelope : Message) : Option (List (Body Message)) :=
  (envelope.batch.bind BatchBytes.message).filter fun bodies => bodies.length ≤ MAX_BATCH_RECORDS

def Core.dropsWhole (core : Core) : Bool :=
  core.client.mode = .queue && !core.client.refusing && core.incomingFull

def splitBatch (conn : ConnId) (envelope : Message) : Client Unit := do
  match envelope.bodies.filter fun _ => envelope.type > types.MAX_MULTIPLEXER_META_PACKET with
  | none => pure ()
  | some bodies => do
    let core ← get
    if core.dropsWhole then dropWhole bodies.length
    else do
      modifyClient fun client =>
        { client with framesHandled := client.framesHandled + (bodies.length - 1) }
      let confirmed := envelope.confirm.length ≥ 2
      when confirmed (confirmedBatchFrom conn (envelope.sender.getD 0))
      splitEach (core.wrap conn) envelope bodies (if confirmed then envelope.confirm else []) 0
      let core ← get
      when (confirmed && (core.client.mode = .dispatch || core.client.refusing)) do
        -- what the handlers confirmed goes once the read is handed over
        ifSome core.conns[conn]? fun state => when (!state.notifyWhenReadDrained) do
          putConn conn { state with notifyWhenReadDrained := true }
          modifyClient fun client => { client with readDrainsWanted := client.readDrainsWanted + 1 }

/-! ## Delivery errors -/

/-- The DELIVERY_ERROR the multiplexer would have sent for one message of a batch. -/
def errorFor (error : Message) (report : DeliveryError) (id : Nat) (message : Message) : Message :=
  { id := some id, sender := error.sender, toId := error.toId, reportDeliveryError := some false
    type := types.DELIVERY_ERROR, references := some (message.id.getD 0)
    workflow := message.workflow
    message := some (DeliveryErrorOf.payload
      { report with packetId := message.id.getD 0, originalMessage := some message }) }

def tellEach (connection : Wrapper) (error : Message) (report : DeliveryError) :
    List (Body Message) → Client Unit
  | [] => pure ()
  | body :: rest => do
    match body.message.filter fun message => message.id.getD 0 ≠ 0 with
    | none => pure () -- nothing to tell it by
    | some message => do
      let id ← random64
      noteArrival (.made id)
      handOut ⟨errorFor error report id message, connection⟩ false
    tellEach connection error report rest

/-- A DELIVERY_ERROR for a batch this client sent: one for each message inside. -/
def splitDeliveryError (conn : ConnId) (error : Message) : Client Bool := do
  match error.message.map Payload.content with
  | some (.deliveryError report) =>
    match report.originalMessage.bind Message.bodies with
    | none => pure false
    | some bodies => do
      let core ← get
      if core.dropsWhole then do
        dropWhole bodies.length
        pure true
      else do
        modifyClient fun client =>
          { client with framesHandled := client.framesHandled + (bodies.length - 1) }
        tellEach (core.wrap conn) error { report with originalMessage := none } bodies
        pure true
  | _ => pure false

/-! ## Every message -/

/-- Whether a DELIVERY_ERROR was for a confirmed batch, which goes again, or for another
batch, which is split. -/
def takeDeliveryError (conn : ConnId) (message : Message) : Client Bool := do
  let references := message.references.getD 0
  let notTaken ← if references ≠ 0 then confirmedBatchNotTaken references else pure false
  if notTaken then pure true else splitDeliveryError conn message

def handleMessage (conn : ConnId) (message : Message) : Client Unit := do
  modifyClient fun client => { client with framesHandled := client.framesHandled + 1 }
  if message.type = types.PEER_STATUS then onPeerStatus conn message
  else if message.id.getD 0 = 0 then pure ()
  else if message.type = types.CONFIRMATION then onConfirmation message
  else do
    let fresh ← seeFirst (message.id.getD 0)
    if !fresh then pure ()
    else if message.batch.isSome then splitBatch conn message
    else do
      let taken ← if message.type = types.DELIVERY_ERROR then takeDeliveryError conn message
        else pure false
      if taken then pure ()
      else do
        let core ← get
        handOut ⟨{ message with confirmation := none }, core.wrap conn⟩ true

/-! ## Frames -/

/-- Whether `message` is one of the protocol's own answers to what this client sent:
no loss when it arrives while it closes. -/
def answersThisPeer (message : Message) : Bool :=
  message.type ∈ [types.DELIVERY_ERROR, types.REQUEST_RECEIVED, types.BACKEND_ERROR,
    types.RECORDING_STATUS, types.RULES_STATUS, types.PEER_STATUS] ||
    message.type = types.PING && message.references.getD 0 ≠ 0

/-- A frame read and verified, with the message its body decodes to. -/
def onFrame (conn : ConnId) (body : Option Message) : Client Unit := do
  match ← getConn conn with
  | none => pure ()
  | some state =>
    if !state.reading || state.shutsDown then pure ()
    else do
      requireHeartbitLater conn
      if !state.delivering then
        -- leaving: what was a message, and no answer to this client, is counted
        ifSome body fun message =>
          when (message.type ≠ types.HEARTBIT && !answersThisPeer message) do
            match ← getConn conn with
            | none => pure ()
            | some state =>
              putConn conn { state with droppedWhileClosing := state.droppedWhileClosing + 1 }
      else match body with
        | none => shutdownConnection conn
        | some message =>
          if message.type = types.CONNECTION_WELCOME then receiveWelcome conn message
          else if message.type = types.HEARTBIT then
            when (!state.registered) (shutdownConnection conn)
          else if !state.registered then shutdownConnection conn
          else handleMessage conn message

/-- A frame's header arrived ahead of a body that takes a while: the silence ends
here. -/
def onFrameStarted (conn : ConnId) : Client Unit := do
  match ← getConn conn with
  | none => pure ()
  | some state => when (state.reading && !state.shutsDown) (requireHeartbitLater conn)

/-- What a client whose handlers run as messages arrive owes goes, gathered over what
one read brought. -/
def readDrained : Client Unit := do
  let core ← get
  when ((core.client.mode = .dispatch || core.client.refusing) && !core.client.shutsDown)
    sendConfirmations

/-- The connection handed over every whole frame its last read brought. -/
def onReadDrained (conn : ConnId) : Client Unit := do
  let core ← get
  if core.client.readDrainsWanted = 0 then pure ()
  else match core.conns[conn]? with
    | none => pure ()
    | some state =>
      if !state.reading || state.shutsDown || !state.notifyWhenReadDrained then pure ()
      else do
        putConn conn { state with notifyWhenReadDrained := false }
        modifyClient fun client => { client with readDrainsWanted := client.readDrainsWanted - 1 }
        readDrained

def onReadEnd (conn : ConnId) : Client Unit := do
  match ← getConn conn with
  | none => pure ()
  | some state => when (state.reading && !state.shutsDown) (shutdownConnection conn)

/-! ## Receiving -/

def nextIncomingMessage : Client (Option Incoming) := do
  let core ← get
  match core.client.incoming with
  | [] => pure none
  | next :: rest => do
    modifyClient fun client => { client with incoming := rest, dequeued := client.dequeued + 1 }
    pure (some next)

def refuseArrivals : Client Unit := modifyClient fun client => { client with refusing := true }

def refuseUnreadLoop : Nat → Client Unit
  | 0 => pure ()
  | steps + 1 => do
    match ← nextIncomingMessage with
    | none => pure ()
    | some incoming => do
      refuse incoming
      refuseUnreadLoop steps

/-- The messages read and not received yet, refused or dropped by the same rule. -/
def refuseUnread : Client Unit := do
  let core ← get
  refuseUnreadLoop core.client.incoming.length

end Multiplexer
