import Multiplexer.Core.Query.Stages

/-! What moves a query on: answers to what it sent, its timer, connections that come
and go, and the shutdown. -/

set_option autoImplicit false

namespace Multiplexer

open Program

/-! ## Timers and connections that come up -/

/-- A stage's deadline: the request's moves on to the search, a backend perhaps having it. -/
def queryDeadline (query : QueryId) (generation : Nat) : Client Unit := do
  match ← getQuery query with
  | none => pure ()
  | some inFlight =>
    if inFlight.generation ≠ generation then pure ()
    else do
      modifyQuery query fun inFlight => { inFlight with timer := none }
      match inFlight.stage with
      | .request => do
        -- no answer in time: a backend may have the request
        modifyQuery query fun inFlight => { inFlight with taken := true }
        search query false
      | .waiting => finish query .notConnected false
      | _ => finish query .timedOut false

/-- A query that waits for a connection sends the message of the stage it waits
in. -/
def restart (query : QueryId) : Client Unit := do
  match ← getQuery query with
  | none => pure ()
  | some inFlight => do
    modifyQuery query fun inFlight => { inFlight with listed := false }
    if inFlight.stage ≠ .waiting then pure ()
    else do
      modifyQueries fun queries => { queries with retries := queries.retries + 1 }
      match inFlight.resume with
      | .search => search query true
      | .direct => sendDirect query none true
      | _ => startRequest query true

/-- A connection came up: the waiting queries go on, in order. -/
def restartWaitingQueries : Client Unit := do
  let core ← get
  modifyQueries fun queries => { queries with waiting := [], waitingEnded := 0 }
  forEach core.queries.waiting restart

/-- The pass: the queries that waited for a connection start again. -/
def fill : Client Unit := do
  modify fun core => { core with queriesFillPosted := false }
  let core ← get
  when (!core.client.shutsDown && !core.threaded.shutDown && !core.queries.waiting.isEmpty)
    restartWaitingQueries

/-- One pass over the waiting queries on its way, however many connections came up. -/
def postFill : Client Unit := do
  let core ← get
  if core.queriesFillPosted then pure ()
  else do
    modify fun core => { core with queriesFillPosted := true }
    post .fill

/-! ## Answers -/

def acknowledged (query : QueryId) (message : Message) : Client Unit := do
  match ← getQuery query with
  | none => pure ()
  | some inFlight =>
    if message.references.getD 0 ∈ inFlight.searchIds then pure ()
    else ifSome inFlight.received fun received => call (.callback received)

/-- A delivery error for an attempt: nobody has it, and it is struck off. -/
def refused (query : QueryId) (id : Nat) : Client Unit := do
  match ← getQuery query with
  | none => pure ()
  | some inFlight => do
    noteQuery (.refused query id)
    when (id = inFlight.requestId) do
      modifyQuery query fun inFlight => { inFlight with taken := false }
    match inFlight.stage with
    | .request => when (id = inFlight.requestId) (search query false)
    | .direct => when (id = inFlight.directId) (waitLate query false)
    | .late => do
      let pending := inFlight.pending.filter (· ≠ id)
      modifyQuery query fun inFlight => { inFlight with pending }
      when pending.isEmpty (finish query .failed false)
    | _ => pure ()

/-- The search had its answer from `connection`: it counts no more. -/
def answered (query : QueryId) (connection : Wrapper) : Client Bool := do
  match ← getQuery query with
  | none => pure false
  | some inFlight =>
    if inFlight.searched.any (·.isSameConnection connection) then do
      modifyQuery query fun inFlight =>
        { inFlight with searched := inFlight.searched.eraseP (·.isSameConnection connection) }
      pure true
    else pure false

def advance (query : QueryId) (incoming : Incoming) : Client Unit := do
  match ← getQuery query with
  | none => pure ()
  | some inFlight =>
    let references := incoming.message.references.getD 0
    let deliveryError := incoming.message.type = types.DELIVERY_ERROR
    if references ∉ inFlight.searchIds then
      if deliveryError then refused query references
      else finish query (.replied incoming) false
    else if inFlight.stage ≠ .search ∨ references ≠ inFlight.searchId then
      pure () -- a search's answer after the query moved on
    else if deliveryError then do
      let _ ← answered query incoming.connection
      let core ← get
      -- nobody behind any multiplexer
      when (core.queries.inFlight[query]?.any (·.searched.isEmpty)) (waitLate query false)
    else when (incoming.message.type = types.PING) (direct query incoming)

/-- A message for a query in flight, by the id it references. -/
def queryTakes (incoming : Incoming) : Client (Option Incoming) := do
  let core ← get
  let references := incoming.message.references.getD 0
  if references = 0 then pure (some incoming)
  else match core.queries.byId[references]? with
    | some query => do
      if incoming.message.type = types.REQUEST_RECEIVED then acknowledged query incoming.message
      else advance query incoming
      pure none
    | none =>
      if core.client.mode = .dispatch && core.queries.finishedOrder.any (·.1 = references) then
        pure none
      else pure (some incoming)

/-! ## Connections that go -/

def lost (query : QueryId) : Client Unit := do
  let core ← get
  match core.queries.inFlight[query]? with
  | none => pure ()
  | some inFlight =>
    if core.queryPinned inFlight then finish query .notConnected false
    else if inFlight.stage = .request then do
      modifyQuery query fun inFlight => { inFlight with taken := true }
      search query false
    else waitLate query true

/-- The connection the attempt was queued on is going while the attempt waits there unwritten. -/
def followHandover (query : QueryId) : Client Unit := do
  match ← getQuery query with
  | none => pure ()
  | some inFlight =>
    post (.followHandover query inFlight.generation (inFlight.stage = .request))

def followedHandover (query : QueryId) (generation : Nat) (request : Bool) : Client Unit := do
  let core ← get
  match core.queries.inFlight[query]? with
  | none => pure ()
  | some inFlight =>
    if inFlight.generation ≠ generation ∨
        inFlight.stage ≠ (if request then .request else .direct) then
      pure () -- over, or moved on meanwhile
    else match inFlight.sentState with
      | none => pure ()
      | some state =>
        if core.trackers state = .lost then
          if request then search query false -- nobody took it: on to the search, no late reply
          else waitLate query false -- the direct request went nowhere
        else do
          let whereTo ← followedConnection state inFlight.sentVia
          if whereTo.any core.live then
            modifyQuery query fun inFlight => { inFlight with sentVia := whereTo }
          else lost query

def queryConnectionLost (connection : Wrapper) (query : QueryId) : Client Unit := do
  let core ← get
  match core.queries.inFlight[query]? with
  | none => pure ()
  | some inFlight =>
    let pinned := core.queryPinned inFlight
    let underAttempt :=
      when (inFlight.sentVia.any (·.isSameConnection connection)) do
        if !pinned && inFlight.sentState.any (fun state => core.trackers state = .queued) then
          followHandover query
        else lost query
    match inFlight.stage with
    | .request => underAttempt
    | .direct => underAttempt
    | .search =>
      if pinned then do
        let through ← answered query connection
        when through (finish query .notConnected false)
      else pure ()
    | .late =>
      let laneLost := (inFlight.lane.bind fun lane => (core.lanes lane).connection).any
        (·.isSameConnection connection)
      when (pinned && laneLost) (finish query .notConnected false)
    | .waiting => pure ()

def queriesOnConnection (connection : Wrapper) (up : Bool) : Client Unit := do
  if up then postFill
  else do
    let core ← get
    forEach core.queries.inFlight.keys (queryConnectionLost connection)

/-- Ends every query in flight with `shutDown`, in the order they began. -/
def finishEveryQuery : Client Unit := do
  let core ← get
  forEach core.queries.inFlight.keys fun query => finish query .shutDown false
  modifyQueries fun queries => { queries with waiting := [], waitingEnded := 0 }

end Multiplexer
