import Multiplexer.Server.Registry

/-! Routing: a message goes to the connection its `to` names, or by the rules it carries or
its type has, each to one or to all connections of a peer type; what could not be delivered
is reported to its sender. -/

set_option autoImplicit false

namespace Multiplexer.Server

variable {Regex : Type} (env : Surroundings Regex)

structure MessageMetaHandler where
  msg : Message
  conn : Pointer
  raw : Frame
  deliveryError : Option DeliveryError := none
  search : Bool := false
  keyed : Bool := false
  keyType : UInt32 := 0
  keyEvaluation : Nat := 0

namespace MessageMetaHandler

/-- The report so far, or a new one. -/
def created (includeOriginal : Bool) (handler : MessageMetaHandler) : DeliveryError :=
  handler.deliveryError.getD
    { packetId := handler.msg.id
      originalMessage? :=
        if includeOriginal || handler.msg.batch?.isSome then some handler.msg else none }

def failedRule (rule : RoutingRule) (type : UInt32) (handler : MessageMetaHandler) : MessageMetaHandler :=
  let error := handler.created rule.includeOriginalPacketInReport
  { handler with deliveryError := some { error with failedType := error.failedType ++ [type] } }

def failedTo (toId : UInt64) (handler : MessageMetaHandler) : MessageMetaHandler :=
  let error := handler.created handler.msg.includeOriginalPacketInReport
  { handler with deliveryError := some { error with failedTo? := some toId } }

/-- The message's type is, or is not, known: it has no rule, or no entry at all. -/
def failedType (known : Bool) (handler : MessageMetaHandler) : MessageMetaHandler :=
  let error := handler.created handler.msg.includeOriginalPacketInReport
  { handler with deliveryError := some { error with isKnownType? := some known } }

def unknown (handler : MessageMetaHandler) : MessageMetaHandler := handler.failedType false
def unroutable (handler : MessageMetaHandler) : MessageMetaHandler := handler.failedType true

end MessageMetaHandler

/-! ## Keys -/

/-- How RE2's set of a type's patterns does in the next match. -/
def setRun (type : Nat) (key : Bytes) (patterns : KeyPatterns Regex) : KeyPatterns.SetRun :=
  let compiles := env.setCompiles (patterns.evaluations + 1)
  let texts := (patterns.types.lookup type).bind fun type =>
    (KeyPatterns.fetch env.re2 ⟨compiles, none⟩ type).set
  ⟨compiles, texts.bind fun texts => env.setHits (patterns.evaluations + 1) texts key⟩

def matchKey (type : UInt32) (handler : MessageMetaHandler) (server : Server Regex) :
    MessageMetaHandler × Server Regex :=
  let key := handler.msg.key?.getD []
  let (evaluation, keyPatterns) := server.keyPatterns.matchKey env.re2 type.toNat key
    (setRun env type.toNat key server.keyPatterns)
  ({ handler with
      keyed := evaluation.isSome
      keyEvaluation := evaluation.getD handler.keyEvaluation
      keyType := type },
    { server with keyPatterns })

/-- Whether a peer takes a keyed message, as the last match found. -/
def takesKey (handler : MessageMetaHandler) (conn : Connection) (server : Server Regex) : Bool :=
  server.keyPatterns.takes conn.keyOwner handler.keyType.toNat handler.keyEvaluation

def declaresKey (re2 : Re2 Regex) (handler : MessageMetaHandler) (conn : Connection) : Bool :=
  match handler.msg.key? with
  | none => true
  | some key =>
    let own := conn.keyFilters.map FilterMessage.filter
    (own.all fun filter => filter.type != handler.keyType.toNat) ||
      own.any fun filter =>
        filter.type == handler.keyType.toNat &&
          filter.pattern.any fun pattern => re2.matches pattern key

/-! ## Records of what became of a message -/

def record (handler : MessageMetaHandler) (recipient : UInt64) (recipientType : UInt32)
    (disposition : Disposition) (errorReported : Bool) (server : Server Regex) : Server Regex :=
  if server.recording then
    let fromPeerType :=
      if handler.msg.sender = server.instanceId then peers.MULTIPLEXER
      else ((server.connections handler.conn).map Connection.peerType).getD 0
    server.emit env
      (.routed handler.msg fromPeerType recipient recipientType disposition errorReported)
  else server

def recordFor (handler : MessageMetaHandler) (conn : Connection) (disposition : Disposition)
    (server : Server Regex) : Server Regex :=
  server.record env handler conn.peerId conn.peerType disposition false

/-! ## To one connection of a type, and to all -/

/-- A type's list as a walk over it left it. -/
def relist (type : UInt32) (connections : List Pointer) (server : Server Regex) : Server Regex :=
  { server with connectionsByType := server.connectionsByType.modify type fun _ => connections }

/-- Whether `choose_free_connections` stops at a connection, in the pass over the peers that
take messages for any one of the type or in that over the last resorts. -/
def Connection.free (lastResort : Bool) (conn : Connection) : Bool :=
  !conn.outgoingQueueFull && conn.living &&
    if lastResort then !conn.acceptsAny && conn.lastResort else conn.acceptsAny

def sendPass (handler : MessageMetaHandler) (lastResort : Bool) :
    List Pointer → List Pointer → Server Regex → Option Pointer × List Pointer × Server Regex
  | passed, [], server => (none, passed, server)
  | passed, current :: rest, server =>
    match server.connections current with
    | none => sendPass handler lastResort passed rest server
    | some connection =>
      if !connection.free lastResort then
        sendPass handler lastResort (passed ++ [current]) rest server
      else if handler.keyed && !server.takesKey handler connection then
        sendPass handler lastResort (passed ++ [current]) rest server
      else
        match server.queue current handler.raw false with
        | (.queued, server) =>
          (some current, passed ++ rest ++ [current],
            server.recordFor env handler connection .delivered)
        | (.full, server) =>
          sendPass handler lastResort (passed ++ [current]) rest
            (server.recordFor env handler connection .queueFull)
        | (.gone, server) => sendPass handler lastResort (passed ++ [current]) rest server

def eligible (handler : MessageMetaHandler) (type : UInt32) (server : Server Regex) : List Pointer :=
  (server.ofType type).filter fun conn =>
    (server.connections conn).any fun connection =>
      connection.living && !connection.outgoingQueueFull && connection.acceptsAny &&
        declaresKey env.re2 handler connection

/-- Both passes: who was picked, if anyone, the list and the server after them. -/
def pickOne (handler : MessageMetaHandler) (connections : List Pointer) (server : Server Regex) :
    Option Pointer × List Pointer × Server Regex :=
  match sendPass env handler false [] connections server with
  | (some chosen, connections, server) => (some chosen, connections, server)
  | (none, connections, server) => sendPass env handler true [] connections server

def sendToOne (handler : MessageMetaHandler) (type : UInt32) (server : Server Regex) : Nat × Server Regex :=
  let eligible := server.eligible env handler type
  let (chosen, connections, server) := server.pickOne env handler (server.ofType type)
  let server := server.relist type connections
  (if chosen.isSome then 1 else 0,
    { server with turns := server.turns ++ [Turn.any type eligible chosen] })

/-- Whether a connection takes the path of a message to all of a type: for a search that of
messages to any one of them. -/
def Connection.takesPath (handler : MessageMetaHandler) (conn : Connection) : Bool :=
  if handler.search then conn.acceptsAny else conn.acceptsAll

def somebodyTakes (handler : MessageMetaHandler) (connections : List Pointer)
    (server : Server Regex) : Bool :=
  connections.any fun conn =>
    (server.connections conn).any fun connection =>
      connection.living && (!handler.keyed || server.takesKey handler connection) &&
        connection.takesPath handler

/-- What `send_to_all` does about one connection: the frame queued on it or not. -/
def sendCopy (handler : MessageMetaHandler) (somebody : Bool) (conn : Pointer)
    (connection : Connection) (server : Server Regex) : Nat × Server Regex :=
  if !connection.living then (0, server)
  else if handler.keyed && !server.takesKey handler connection then
    (0, server.recordFor env handler connection .keyNotTaken)
  else if !connection.takesPath handler && (somebody || !connection.lastResort) then
    (0, server.recordFor env handler connection .notAccepted)
  else
    match server.queue conn handler.raw false with
    | (.queued, server) => (1, server.recordFor env handler connection .delivered)
    | (.full, server) => (0, server.recordFor env handler connection .queueFull)
    | (.gone, server) => (0, server)

def sendCopies (handler : MessageMetaHandler) (somebody : Bool) :
    List Pointer → Server Regex → Nat × List Pointer × Server Regex
  | [], server => (0, [], server)
  | current :: rest, server =>
    match server.connections current with
    | none => sendCopies handler somebody rest server
    | some connection =>
      let (copy, server) := server.sendCopy env handler somebody current connection
      let (copies, connections, server) := sendCopies handler somebody rest server
      (copy + copies, current :: connections, server)

def sendToAll (handler : MessageMetaHandler) (type : UInt32) (server : Server Regex) : Nat × Server Regex :=
  let somebody := server.somebodyTakes handler (server.ofType type)
  let (copies, connections, server) :=
    sendCopies env handler somebody (server.ofType type) server
  (copies, server.relist type connections)

/-! ## Applying rules -/

def routable (type : UInt32) : Bool := type > peers.MAX_MULTIPLEXER_SPECIAL_PEER_TYPE

def routableTypes (server : Server Regex) : List UInt32 :=
  server.connectionsByType.keys.filter routable

inductive Unrouted where
  | nonePresent
  | routingOff
  | allFull
  | keyNotTaken
deriving DecidableEq, Repr

def unrouted (handler : MessageMetaHandler) (rule : RoutingRule) (byAny : Bool)
    (server : Server Regex) : Unrouted :=
  let connections :=
    (if rule.peerType = peers.ALL_TYPES then server.routableTypes.flatMap server.ofType
      else server.ofType rule.peerType).filterMap server.connections
  let present := connections.filter Connection.living
  let takers := present.filter fun conn => !handler.keyed || server.takesKey handler conn
  if present.isEmpty then .nonePresent
  else if takers.isEmpty then .keyNotTaken
  else if takers.any fun conn =>
      (if byAny then conn.acceptsAny else conn.acceptsAll) || conn.lastResort then .allFull
  else .routingOff

def unroutedDisposition : Unrouted → Disposition
  | .nonePresent => .noRecipient
  | .routingOff => .notAccepted
  | .keyNotTaken => .keyNotTaken
  | .allFull => .queueFull

def sendBy (whom : Whom) (handler : MessageMetaHandler) (peerType : UInt32)
    (server : Server Regex) : Nat × Server Regex :=
  match whom with
  | .all => server.sendToAll env handler peerType
  | .any => server.sendToOne env handler peerType

def scheduleType (rule : RoutingRule) (peerType : UInt32) (handler : MessageMetaHandler)
    (server : Server Regex) : Nat × MessageMetaHandler × Server Regex :=
  let (scheduled, server) := server.sendBy env rule.whom handler peerType
  if scheduled = 0 ∧ rule.peerType ≠ peers.ALL_TYPES then
    let handler := if rule.reportDeliveryError then handler.failedRule rule peerType else handler
    let byAny := handler.search || rule.whom == .any
    let why := server.unrouted handler rule byAny
    (0, handler, server.record env handler 0 peerType (unroutedDisposition why)
      rule.reportDeliveryError)
  else (scheduled, handler, server)

def scheduleEach (rule : RoutingRule) :
    List UInt32 → MessageMetaHandler → Server Regex → Nat × MessageMetaHandler × Server Regex
  | [], handler, server => (0, handler, server)
  | type :: rest, handler, server =>
    let (first, handler, server) := server.scheduleType env rule type handler
    let (others, handler, server) := scheduleEach rule rest handler server
    (first + others, handler, server)

/-- A rule over the connections it names: those of its type, or of every type. -/
def scheduleNamed (rule : RoutingRule) (handler : MessageMetaHandler) (server : Server Regex) :
    Nat × MessageMetaHandler × Server Regex :=
  if rule.peerType = peers.ALL_TYPES then
    scheduleEach env rule server.routableTypes handler server
  else server.scheduleType env rule rule.peerType handler

def scheduleRule (rule : RoutingRule) (handler : MessageMetaHandler) (server : Server Regex) :
    Nat × MessageMetaHandler × Server Regex :=
  let (scheduled, handler, server) := server.scheduleNamed env rule handler
  let why := server.unrouted handler rule (rule.whom == .any)
  if scheduled = 0 ∧ rule.peerType = peers.ALL_TYPES ∧ why ≠ .nonePresent then
    (scheduled, handler,
      server.record env handler 0 peers.ALL_TYPES (unroutedDisposition why) false)
  else (scheduled, handler, server)

def scheduleRules :
    List RoutingRule → MessageMetaHandler → Server Regex → MessageMetaHandler × Server Regex
  | [], handler, server => (handler, server)
  | rule :: rules, handler, server =>
    let (_, handler, server) := server.scheduleRule env rule handler
    scheduleRules rules handler server

/-! ## Answers -/

def answer (handler : MessageMetaHandler) (type : UInt32) (payload : Payload Message) (id : UInt64)
    (server : Server Regex) : Message :=
  { id? := some id
    sender? := some server.instanceId
    toId? := some handler.msg.sender
    type
    references? := some handler.msg.id
    workflow? := some handler.msg.workflow
    message? := some payload }

/-- The answer as it goes out: without a workflow that takes it over the limit. -/
def trimmed (mxmsg : Message) : Message :=
  if mxmsg.encodedLen > MAX_MESSAGE_SIZE then { mxmsg with workflow? := none } else mxmsg

/-- Answers a control message, past a full queue. -/
def reply (handler : MessageMetaHandler) (type : UInt32) (payload : Payload Message)
    (server : Server Regex) : Server Regex :=
  let (id, server) := server.draw env
  match Frame.fromMessage (trimmed (server.answer handler type payload id)) with
  | none => server
  | some raw => (server.queue handler.conn raw true).2

/-! ## A peer's own routing -/

def answerFits (handler : MessageMetaHandler) (control : PeerControl) (server : Server Regex) : Bool :=
  let status : PeerStatus :=
    { multiplexerId? := some server.instanceId
      routing? := some control.routing
      keyFilter := control.keyFilter }
  (server.answer handler types.PEER_STATUS status.payload 0xffffffffffffffff).encodedLen ≤
    MAX_MESSAGE_SIZE

def garbledControl : Bytes := text "garbled PeerControl"

def answerTooBig : Bytes :=
  text "the answer, which repeats the key filters, would be over MAX_MESSAGE_SIZE (" ++
    decimal MAX_MESSAGE_SIZE ++ text " bytes)"

def changeFilters (handler : MessageMetaHandler) (connection : Connection) (control : PeerControl)
    (server : Server Regex) : Option Bytes × Server Regex :=
  if !server.answerFits handler control then (some answerTooBig, server)
  else if sameKeyFilters connection.keyFilters control.keyFilter then (none, server)
  else
    match server.keyPatterns.setFilters env.re2 connection.keyOwner
      (control.keyFilter.map FilterMessage.filter) with
    | (.ok (), keyPatterns) =>
      (none, { server with keyPatterns }.modify handler.conn fun connection =>
        { connection with keyFilters := control.keyFilter })
    | (.error error, _) => (some error, server)

/-- New routing in place of the old, when it says anything else. -/
def changeRouting (handler : MessageMetaHandler) (connection : Connection) (control : PeerControl)
    (server : Server Regex) : Server Regex :=
  if connection.routing.same control.routing then server
  else
    let server := server.modify handler.conn fun connection =>
      { connection with routing := control.routing }
    server.emitPeerRouting env { connection with routing := control.routing }

/-- What a PEER_CONTROL changes, and the error its answer tells. -/
def applyPeerControl (handler : MessageMetaHandler) (server : Server Regex) :
    Option Bytes × Server Regex :=
  match server.connections handler.conn with
  | none => (none, server)
  | some connection =>
    match handler.msg.content with
    | .peerControl control =>
      if connection.living then
        match server.changeFilters env handler connection control with
        | (none, server) => (none, server.changeRouting env handler connection control)
        | (some error, server) => (some error, server)
      else (none, server)
    | _ => (some garbledControl, server)

def peerStatus (handler : MessageMetaHandler) (error : Option Bytes) (server : Server Regex) : PeerStatus :=
  { multiplexerId? := some server.instanceId
    routing? := (server.connections handler.conn).map Connection.routing
    error? := error
    keyFilter := ((server.connections handler.conn).map Connection.keyFilters).getD [] }

def handlePeerControl (handler : MessageMetaHandler) (server : Server Regex) : Server Regex :=
  let (error, server) := server.applyPeerControl env handler
  server.reply env handler types.PEER_STATUS (server.peerStatus handler error).payload

/-! ## The recording and the rules over the protocol -/

inductive RulesLoad where
  | loaded (config : Config)
  | unchanged
  | failed (error : Bytes)

structure Outside where
  path : Bytes := []
  opened : Except Bytes (Option Nat) := .ok none
  load : RulesLoad := .unchanged

def labelCharacter (character : UInt8) : Bool :=
  (97 ≤ character && character ≤ 122) || (65 ≤ character && character ≤ 90) ||
    (48 ≤ character && character ≤ 57) || character == 45 || character == 95

def validLabel (label : Bytes) : Bool :=
  !label.isEmpty && label.length ≤ 64 && label.all labelCharacter

def recordingOff : Bytes :=
  text "remote recording is off; start the multiplexer with --recording-dir"

def labelRefused : Bytes := text "label must be 1 to 64 letters, digits, '-' or '_'"

def tapsOff : Bytes := text "taps are off; start the multiplexer with --allow-tap"

/-- Carries out a RECORDING_CONTROL: the error and the count of lost records to tell. -/
def applyRecordingControl (outside : Outside) (handler : MessageMetaHandler)
    (server : Server Regex) : (Option Bytes × Option Nat) × Server Regex :=
  match handler.msg.content with
  | .recordingControl control =>
    match control.action with
    | .start label =>
      if !server.remoteRecording then ((some recordingOff, none), server)
      else if !validLabel label then ((some labelRefused, none), server)
      else
        match server.startRecording outside.path outside.opened with
        | (.ok (), server) => ((none, none), server)
        | (.error error, server) => ((some error, none), server)
    | .stop => ((none, none), server.stopRecording)
    | .status => ((none, none), server)
    | .tap =>
      if !server.allowTap then ((some tapsOff, none), server)
      else if server.taps.any fun tap => tap.conn = handler.conn then ((none, none), server)
      else
        let peerId := ((server.connections handler.conn).map Connection.peerId).getD 0
        ((none, none),
          { server with
            taps := server.taps ++
              [{ conn := handler.conn, peerId, payloadLimit := control.payloadLimit }] })
    | .untap =>
      let tap := server.taps.find? fun tap => tap.conn = handler.conn
      ((none, tap.map Tap.dropped), server.untap handler.conn)
  | _ => ((some (text "garbled RecordingControl"), none), server)

def handleRecordingControl (outside : Outside) (handler : MessageMetaHandler)
    (server : Server Regex) : Server Regex :=
  let ((error?, dropped?), server) := server.applyRecordingControl outside handler
  let tap := server.taps.find? fun tap => tap.conn = handler.conn
  let status : RecordingStatus :=
    { error?
      recording := server.recorder.isSome
      taps := server.taps.length
      tapping? := tap.map fun _ => true
      dropped? := (tap.map Tap.dropped).or dropped? }
  let content := .recordingStatus status
  server.reply env handler types.RECORDING_STATUS ⟨env.statusLength content, content⟩

def applyRulesControl (outside : Outside) (handler : MessageMetaHandler) (server : Server Regex) :
    RulesStatus × Server Regex :=
  match handler.msg.content with
  | .rulesControl .reload =>
    match outside.load with
    | .loaded config => ({ reloaded? := some true }, server.applyRules env config)
    | .unchanged => ({ reloaded? := some false }, server)
    | .failed error => ({ error? := some error }, server)
  | .rulesControl .status => ({}, server)
  | _ => ({ error? := some (text "garbled RulesControl") }, server)

def handleRulesControl (outside : Outside) (handler : MessageMetaHandler) (server : Server Regex) :
    Server Regex :=
  let (status, server) := server.applyRulesControl env outside handler
  let content := .rulesStatus status
  server.reply env handler types.RULES_STATUS ⟨env.statusLength content, content⟩

/-! ## The routing path -/

def notConnected (handler : MessageMetaHandler) (server : Server Regex) : MessageMetaHandler × Server Regex :=
  let told := if handler.msg.reportDeliveryError then handler.failedTo handler.msg.toId else handler
  (told, server.record env told handler.msg.toId 0 .noRecipient handler.msg.reportDeliveryError)

def sendTo (handler : MessageMetaHandler) (server : Server Regex) :
    MessageMetaHandler × Server Regex :=
  match (server.connectionById[handler.msg.toId]?).bind fun conn =>
    (server.connections conn).map (conn, ·) with
  | none => server.notConnected env handler
  | some (conn, connection) =>
    match server.queue conn handler.raw false with
    | (.queued, server) => (handler, server.recordFor env handler connection .delivered)
    | (.full, server) =>
      let reported := handler.msg.reportDeliveryError
      let handler := if reported then handler.failedTo handler.msg.toId else handler
      (handler, server.record env handler connection.peerId connection.peerType .queueFull reported)
    | (.gone, server) => server.notConnected env handler

def searchRule (rule : RoutingRule) : RoutingRule :=
  { rule with
    whom? := some .all
    reportDeliveryError? := some true
    includeOriginalPacketInReport? := some false }

def handleSearch (handler : MessageMetaHandler) (server : Server Regex) :
    MessageMetaHandler × Server Regex :=
  match handler.msg.content with
  | .search packetType =>
    match (server.config.messageDescription packetType).bind fun found => found.rules.head? with
    | none => (handler.unknown, server)
    | some rule =>
      let handler := { handler with search := true, keyed := false }
      let (handler, server) :=
        if handler.msg.key?.isSome then server.matchKey env packetType handler else (handler, server)
      let (_, handler, server) := server.scheduleNamed env (searchRule rule) handler
      (handler, server)
  | _ => (handler.unknown, server)

def onlyAddressed (type : UInt32) : Bool :=
  type == types.PING || type == types.RECORDING_STATUS || type == types.RECORDING_RECORD ||
    type == types.RULES_STATUS || type == types.PEER_STATUS || type == types.CONFIRMATION

def handleMetaMessage (outside : Outside) (handler : MessageMetaHandler) (server : Server Regex) :
    MessageMetaHandler × Server Regex :=
  let type := handler.msg.type
  if type = types.CONNECTION_WELCOME then (handler, server.shutdown env handler.conn)
  else if type = types.DELIVERY_ERROR then (handler, server)
  else if onlyAddressed type then
    let handler := handler.unroutable
    (handler, server.record env handler 0 0 .noRule true)
  else if type = types.PEER_CONTROL then (handler, server.handlePeerControl env handler)
  else if type = types.RECORDING_CONTROL then
    (handler, server.handleRecordingControl env outside handler)
  else if type = types.RULES_CONTROL then (handler, server.handleRulesControl env outside handler)
  else if type = types.BACKEND_FOR_PACKET_SEARCH then server.handleSearch env handler
  else
    let handler := handler.unknown
    (handler, server.record env handler 0 0 .unknownType true)

def handleByType (handler : MessageMetaHandler) (server : Server Regex) :
    MessageMetaHandler × Server Regex :=
  match server.config.messageDescription handler.msg.type with
  | none =>
    let handler := handler.unknown
    (handler, server.record env handler 0 0 .unknownType true)
  | some description =>
    if description.rules.isEmpty then
      let handler := handler.unroutable
      (handler, server.record env handler 0 0 .noRule true)
    else scheduleRules env description.rules handler server

/-- A message by its `to`, by the rules it carries, as one of the protocol's or by its type's
rules. -/
def route (outside : Outside) (handler : MessageMetaHandler) (server : Server Regex) :
    MessageMetaHandler × Server Regex :=
  if handler.msg.toId ≠ 0 then server.sendTo env handler
  else if !handler.msg.overrideRrules.isEmpty then
    scheduleRules env handler.msg.overrideRrules handler server
  else if handler.msg.type ≤ types.MAX_MULTIPLEXER_META_PACKET then
    server.handleMetaMessage env outside handler
  else server.handleByType env handler

def keyTooLong (msg : Message) : Bool :=
  msg.toId == 0 && msg.key?.any fun key => key.length > MAX_KEY_SIZE

/-- The routing of a message, the report about it not yet sent. -/
def routeMessage (outside : Outside) (handler : MessageMetaHandler) (server : Server Regex) :
    MessageMetaHandler × Server Regex :=
  if keyTooLong handler.msg then
    let handler := handler.unroutable
    (handler, server.record env handler 0 0 .keyNotTaken true)
  else if handler.msg.key?.isSome ∧ handler.msg.toId = 0 then
    let (handler, server) := server.matchKey env handler.msg.type handler
    server.route env outside handler
  else server.route env outside handler

/-- The report with its original, without it when that is too big, and then without the
workflow. -/
def deliveryErrorMessage (id : UInt64) (msg : Message) (error : DeliveryError)
    (server : Server Regex) : Message :=
  let mxmsg : Message :=
    { id? := some id
      sender? := some server.instanceId
      toId? := some msg.sender
      reportDeliveryError? := some false
      type := types.DELIVERY_ERROR
      message? := some error.payload
      references? := some msg.id
      workflow? := some msg.workflow }
  let omitted : DeliveryError :=
    { error with originalMessage? := none, originalMessageOmitted? := some true }
  trimmed
    (if mxmsg.encodedLen > MAX_MESSAGE_SIZE ∧ error.originalMessage?.isSome then
      { mxmsg with message? := some omitted.payload }
    else mxmsg)

def makeReport (msg : Message) (error : DeliveryError) (server : Server Regex) : Message × Server Regex :=
  let (id, server) := server.draw env
  let mxmsg := server.deliveryErrorMessage id msg error
  (mxmsg, { server with reports := server.reports ++ [mxmsg] })

/-- `_handle_message`, with `_handle_delivery_errors` at its end, which routes the report
like any other message: none when `fuel` messages were not enough. -/
def handleMessage (outside : Outside) :
    Nat → Pointer → Message → Frame → Server Regex → Option (Server Regex)
  | 0, _, _, _, _ => none
  | fuel + 1, conn, msg, raw, server =>
    let (handler, server) := server.routeMessage env outside { msg, conn, raw }
    match handler.deliveryError with
    | none => some server
    | some error =>
      if msg.sender = 0 ∨ msg.sender = server.instanceId then some server
      else
        let (mxmsg, server) := server.makeReport env msg error
        match Frame.fromMessage mxmsg with
        | none => some server
        | some raw => handleMessage outside fuel conn mxmsg raw server

def receiveMessage (outside : Outside) (fuel : Nat) (conn : Pointer) (msg : Message)
    (raw : Frame) (server : Server Regex) : Option (Server Regex) :=
  if msg.sender = server.instanceId then some server
  else if conn ∈ server.replaced then some server
  else handleMessage env outside fuel conn msg raw server

end Multiplexer.Server
