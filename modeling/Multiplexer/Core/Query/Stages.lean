import Multiplexer.Core.Outbox.Schedule

/-! Queries: a request, a search for a backend, the request again to the one found,
and the waits between them. -/

set_option autoImplicit false

namespace Multiplexer

open Program

def FINISHED_IDS_KEPT : Nat := 2 ^ 17

namespace InFlight

def addressed (query : InFlight) : Bool := query.prototype.toId.getD 0 ≠ 0

end InFlight

namespace Core

def queryPinned (core : Core) (query : InFlight) : Bool :=
  query.lane.any fun lane => (core.lanes lane).pinned

def stageTimeout (core : Core) (query : InFlight) : Option Duration :=
  if !query.addressed then query.timeout else query.deadline.map (· - core.now)

end Core

def getQuery (query : QueryId) : Client (Option InFlight) :=
  gets fun core => core.queries.inFlight[query]?

def modifyQuery (query : QueryId) (change : InFlight → InFlight) : Client Unit :=
  modifyQueries fun queries => { queries with inFlight := queries.inFlight.modify query change }

/-! ## The end -/

/-- The finished ids whose time is up go first, and the oldest whatever their time
when there are too many. -/
def forgetOld (now : Instant) : List (Nat × Instant) → List (Nat × Instant)
  | [] => []
  | (oldest, kept) :: rest =>
    if kept > now ∧ rest.length + 1 < FINISHED_IDS_KEPT then (oldest, kept) :: rest
    else forgetOld now rest

/-- A finished query's `id`, kept until a late reply to it can no longer be
expected. -/
def rememberFinished (id : Nat) (limit : Instant) : Client Unit := do
  let core ← get
  modifyQueries fun queries =>
    let order := forgetOld core.now queries.finishedOrder
    { queries with
      finishedOrder :=
        if id = 0 || order.any (·.1 = id) then order else order ++ [(id, limit)] }

/-- The waiting queries that ended are cleared out once they are as many as those
still waiting and 64 more, or none waits any more. -/
def clearOutWaiting : Client Unit :=
  modifyQueries fun queries =>
    let live := queries.waiting.length - queries.waitingEnded
    if live ≠ 0 ∧ queries.waitingEnded < live + 64 then queries
    else
      { queries with
        waiting := queries.waiting.filter queries.inFlight.contains, waitingEnded := 0 }

def InFlight.sentIds (query : InFlight) : List Nat :=
  query.requestId :: (if query.directId ≠ 0 then [query.directId] else []) ++ query.searchIds

/-- The connection a reply came through, which its query's lane adopts. -/
def Outcome.connection : Outcome → Option Wrapper
  | .replied reply => some reply.connection
  | _ => none

/-- The query ends: its ids kept a while for the late replies, its lane adopting the connection a
reply came through, its callback told, once. -/
def finish (query : QueryId) (outcome : Outcome) (unencoded : Bool) : Client Unit := do
  let core ← get
  match core.queries.inFlight[query]? with
  | none => pure ()
  | some inFlight => do
    modifyQueries fun queries => { queries with inFlight := queries.inFlight.erase query }
    cancelQueryTimer inFlight.timer
    let kept := match inFlight.timeout with
      | some timeout =>
        if timeout > DEFAULT_TIMEOUT ∧ timeout ≤ MAX_TIMEOUT then 2 * timeout
        else 2 * DEFAULT_TIMEOUT
      | none => 2 * DEFAULT_TIMEOUT
    forEach inFlight.sentIds fun id => do
      modifyQueries fun queries => { queries with byId := queries.byId.erase id }
      when (core.client.mode = .dispatch) (rememberFinished id (core.now + kept))
    ifSome outcome.connection fun connection =>
      ifSome inFlight.lane fun lane => adopt lane connection
    ifSome inFlight.callback fun callback => do
      noteQuery (.ended query callback outcome unencoded)
      call (.callback callback)
    when inFlight.listed do
      modifyQueries fun queries => { queries with waitingEnded := queries.waitingEnded + 1 }
      clearOutWaiting

/-! ## Stages -/

def armQuery (query : QueryId) (timeout : Option Duration) : Client Unit := do
  let core ← get
  match core.queries.inFlight[query]? with
  | none => pure ()
  | some inFlight =>
    let generation := inFlight.generation + 1
    match deadlineAfter core.now timeout with
    | some deadline => do
      let key ← rearmQueryTimer inFlight.timer deadline query generation
      modifyQuery query fun inFlight => { inFlight with generation, timer := some key }
    | none => do
      cancelQueryTimer inFlight.timer
      modifyQuery query fun inFlight => { inFlight with generation, timer := none }

/-- The stage `resume`'s message found no connection live. -/
def waitForConnection (query : QueryId) (resume : Stage) : Client Unit := do
  match ← getQuery query with
  | none => pure ()
  | some inFlight => do
    modifyQuery query fun inFlight => { inFlight with stage := .waiting, resume, listed := true }
    when (!inFlight.listed) do
      modifyQueries fun queries => { queries with waiting := queries.waiting ++ [query] }

/-- What became of a frame handed to the outbox through a query's lane. -/
inductive Through where
  | refused
  | nowhere
  | placed (tracker : TrackerId) (used : Wrapper)

/-- Hands `frame` to the outbox through the query's lane. -/
def scheduleThrough (frame : Frame) (lane : Option LaneId) (timeout : Option Duration) :
    Client Through := do
  let core ← get
  let pinned := lane.any fun lane => (core.lanes lane).pinned
  let held := lane.bind fun lane => (core.lanes lane).connection
  let own ← match held with
    | some held => do
      let tracker ← scheduleOn frame pinned held timeout 0 lane lane
      pure (tracker.map fun tracker => Through.placed tracker held)
    | none => pure none
  match own with
  | some placed => pure placed
  | none =>
    if held.isSome && pinned then pure .refused
    else do
      match ← scheduleOne frame pinned timeout 0 lane with
      | none => pure .nowhere
      | some (tracker, used) => do
        ifSome lane fun lane => adopt lane used
        pure (.placed tracker used)

/-! ## Requests -/

inductive TooLarge where
  | message (size limit : Nat)
  | key (size limit : Nat)

def checkMessageSize (size : Nat) : Except TooLarge Unit :=
  if size > MAX_MESSAGE_SIZE then .error (.message size MAX_MESSAGE_SIZE) else .ok ()

def checkKeySize (key : Option String) : Except TooLarge Unit :=
  let size := (key.map String.utf8ByteSize).getD 0
  if size > MAX_KEY_SIZE then .error (.key size MAX_KEY_SIZE) else .ok ()

def U64_MAX : Nat := 2 ^ 64 - 1

/-- Measures `request` as a query frames it at its largest, its sender, its id and, for a typed
query, its request sent again with the `to` of the backend found and a delivery error asked for. -/
def checkSizeSentAgain (request : Message) (sender : Nat) : Message × Except TooLarge Unit :=
  let request := if request.sender.getD 0 = 0 then { request with sender := some sender } else request
  let largest := { request with
    id := some U64_MAX
    toId := if request.toId.getD 0 = 0 then some U64_MAX else request.toId
    reportDeliveryError := some true }
  let size := largest.encodedLen
  (request, do
    checkKeySize request.key
    checkMessageSize size)

def attemptFrame (prototype : Message) (id : Nat) : Option Frame :=
  (encode { prototype with id := some id }).map fun bytes => ⟨bytes, id, prototype.type, .none⟩

/-- The request's stage: the request goes out, or waits for a connection within the deadline. -/
def startRequest (query : QueryId) (keepDeadline : Bool) : Client Unit := do
  let core ← get
  match core.queries.inFlight[query]? with
  | none => pure ()
  | some inFlight =>
    if core.client.shutsDown || core.threaded.shutDown then finish query .shutDown false
    else do
      -- kept by a request that waits for a connection
      let requestId ← if inFlight.requestId = 0 then random64 else pure inFlight.requestId
      modifyQuery query fun inFlight => { inFlight with requestId }
      match attemptFrame inFlight.prototype requestId with
      | none => finish query .failed true
      | some frame => do
        match ← scheduleThrough frame inFlight.lane (core.stageTimeout inFlight) with
        | .refused => finish query .notConnected false -- the pinned lane's connection is gone
        | .nowhere => do
          waitForConnection query .request
          when (!keepDeadline) (armQuery query inFlight.timeout)
        | .placed tracker used => do
          noteQuery (.attempted query .request frame.bytes [tracker])
          modifyQuery query fun inFlight =>
            { inFlight with
              sentVia := some used, sentState := some tracker, requestState := some tracker
              stage := .request }
          modifyQueries fun queries => { queries with byId := queries.byId.insert requestId query }
          when (!keepDeadline) (armQuery query inFlight.timeout)

/-- Starts a query: `prototype` is the request, its sender filled in, each attempt
getting an id of its own. -/
def startQuery (prototype : Message) (timeout : Option Duration) (lane : Option LaneId)
    (done : CallbackId) (received : Option CallbackId) : Client QueryId := do
  let core ← get
  let query := core.queries.nextQuery + 1
  let prototype := if prototype.sender.getD 0 = 0 then
    { prototype with sender := some core.instanceId } else prototype
  -- "not behind this multiplexer" must come back
  let prototype := if prototype.toId.getD 0 ≠ 0 then
    { prototype with reportDeliveryError := some true } else prototype
  let inFlight : InFlight :=
    { stage := .request, resume := .request, directTo := 0, sentVia := none, sentState := none
      requestState := none, directState := none, prototype, timeout
      deadline := deadlineAfter core.now timeout, lane, requestId := 0, searchId := 0, directId := 0
      taken := false, pending := [], searched := [], searchIds := [], generation := 0
      listed := false, callback := some done, received, timer := none }
  modifyQueries fun queries =>
    { queries with nextQuery := query, inFlight := queries.inFlight.insert query inFlight }
  noteQuery (.began query prototype)
  startRequest query false
  pure query

def searchMessage (prototype : Message) (addressed : Bool) (id instanceId : Nat) : Message :=
  if addressed then
    { id := some id, sender := some instanceId, message := some ⟨0, .uninterpreted⟩
      type := types.PING, toId := prototype.toId, reportDeliveryError := some true }
  else
    { id := some id, sender := some instanceId, type := types.BACKEND_FOR_PACKET_SEARCH
      message := some (searchPayload prototype.type), key := prototype.key }

/-- The search's copies and the connections they went out on. -/
def scheduleSearch (frame : Frame) (lane : Option LaneId) (pinned : Bool)
    (wait : Option Duration) : Client (Option (List (TrackerId × Wrapper))) := do
  if pinned then do
    match ← scheduleThrough frame lane wait with
    | .refused => pure none
    | .nowhere => pure (some [])
    | .placed tracker used => pure (some [(tracker, used)])
  else do
    let copies ← scheduleAll frame wait 0
    pure (some copies)

/-- The middle stage: a search on every connection, through a pinned lane on its
one. -/
def search (query : QueryId) (keepDeadline : Bool) : Client Unit := do
  let core ← get
  match core.queries.inFlight[query]? with
  | none => pure ()
  | some inFlight =>
    let left := core.stageTimeout inFlight
    if inFlight.addressed && left = some 0 then finish query .timedOut false
    else do
      when (!keepDeadline) (armQuery query left)
      let id ← random64
      let message := searchMessage inFlight.prototype inFlight.addressed id core.instanceId
      match encode message with
      | none => finish query .failed true
      | some bytes => do
        let wait := if left.any (· ≠ 0) then left else inFlight.timeout
        match ← scheduleSearch ⟨bytes, id, message.type, .none⟩ inFlight.lane
            (core.queryPinned inFlight) wait with
        | none => finish query .notConnected false
        | some [] => waitForConnection query .search
        | some sent => do
          noteQuery (.attempted query .search bytes (sent.map Prod.fst))
          modifyQuery query fun inFlight =>
            { inFlight with
              searchId := id, searchIds := inFlight.searchIds ++ [id], searched := sent.map Prod.snd
              stage := .search }
          modifyQueries fun queries => { queries with byId := queries.byId.insert id query }

def InFlight.directMessage (query : InFlight) : Message :=
  { query.prototype with
    id := some query.directId, toId := some query.directTo, reportDeliveryError := some true }

/-- The direct request's frame handed to the outbox: on `preferred` while it lives,
else through the lane. -/
def scheduleDirect (frame : Frame) (pinned : Bool) (lane : Option LaneId)
    (preferred : Option Wrapper) (left : Option Duration) : Client Through := do
  let direct ← match preferred with
    | some preferred => do
      let tracker ← scheduleOn frame pinned preferred left 0 none lane
      match tracker with
      | some tracker => do
        ifSome lane fun lane => adopt lane preferred
        pure (some (Through.placed tracker preferred))
      | none => pure none
    | none => pure none
  match direct with
  | some placed => pure placed
  | none => scheduleThrough frame lane left

/-- The direct request: through `preferred`, the connection the PING came on, while it lives, else
any. -/
def sendDirect (query : QueryId) (preferred : Option Wrapper) (keepDeadline : Bool) :
    Client Unit := do
  let core ← get
  match core.queries.inFlight[query]? with
  | none => pure ()
  | some inFlight =>
    let left := core.stageTimeout inFlight
    match encode inFlight.directMessage with
    | none => finish query .failed true
    | some bytes => do
      when (!keepDeadline) (armQuery query left)
      match ← scheduleDirect ⟨bytes, inFlight.directId, inFlight.prototype.type, .none⟩
          (core.queryPinned inFlight) inFlight.lane preferred left with
      | .refused => finish query .notConnected false
      | .nowhere => waitForConnection query .direct
      | .placed tracker used => do
        noteQuery (.attempted query .direct bytes [tracker])
        modifyQuery query fun inFlight =>
          { inFlight with
            sentVia := some used, sentState := some tracker, directState := some tracker
            stage := .direct }
        modifyQueries fun queries =>
          { queries with byId := queries.byId.insert inFlight.directId query }

/-- The search found the instance that sent `ping`. -/
def direct (query : QueryId) (ping : Incoming) : Client Unit := do
  let id ← random64
  modifyQuery query fun inFlight =>
    { inFlight with directTo := ping.message.sender.getD 0, directId := id }
  sendDirect query (some ping.connection) false

/-- The query can only wait for a late reply to an attempt a backend may have. -/
def waitLate (query : QueryId) (direct : Bool) : Client Unit := do
  let core ← get
  match core.queries.inFlight[query]? with
  | none => pure ()
  | some inFlight =>
    let givenUp := fun (tracker : Option TrackerId) =>
      tracker.any fun tracker => core.trackers tracker = .lost
    let pending :=
      (if inFlight.taken && !givenUp inFlight.requestState then [inFlight.requestId] else []) ++
        (if direct && !givenUp inFlight.directState then [inFlight.directId] else [])
    if pending.isEmpty then do
      modifyQuery query fun inFlight => { inFlight with pending }
      finish query .failed false
    else modifyQuery query fun inFlight => { inFlight with pending, stage := .late }

end Multiplexer
