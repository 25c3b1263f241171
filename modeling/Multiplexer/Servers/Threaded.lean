import Mathlib.Logic.Function.Basic
import Multiplexer.Core.Types

/-! The threaded server: an io thread that queues, refuses or drops requests, workers that take
them through the handler, a serving thread for the callbacks of acknowledged changes, and a
thread that closes it all. A step is one stretch of one thread between two points where another
can be seen to act. -/

set_option autoImplicit false

namespace Multiplexer

abbrev HandlerError := String

/-- A request, by the number of messages received before its own. -/
abbrev RequestId := Nat

abbrev WorkerId := Nat

namespace ThreadedServer

structure Options where
  workers : Nat := 1
  queueSize : Nat := 1024
  peerType : Nat := 0

def USIZE_MAX : Nat := 2 ^ 64 - 1

/-- What a worker will take and `queueSize` more that wait for one. -/
def Options.capacity (options : Options) : Nat := min (options.workers + options.queueSize) USIZE_MAX

/-- What became of a request at the server, for the properties. -/
inductive Fate where
  | underWay
  | handled (failed : Bool)
  | full
  | refused
deriving DecidableEq, Repr

inductive Place where
  | io
  | queued (number : Nat)
  | worker (worker : WorkerId)
  | closing
  | program
deriving DecidableEq, Repr

/-- A request's state, shared by the `Request` and the server that handles it. -/
structure RequestState where
  incoming : Incoming
  answered : Bool := false
  kept : Bool := false
  failed : Bool := false
  confirms : Bool := true
  -- its holders: the `Request`, and the server while it handles it
  request : Bool := true
  served : Bool := false
  place : Place := .io
  fate : Fate := .underWay
  -- a confirmation the client, shut down by then, did not take
  late : Bool := false

namespace RequestState

def message (state : RequestState) : Message := state.incoming.message

/-- The number its producer wants it confirmed under, none for no confirmation. -/
def number? (state : RequestState) : Option Nat := state.message.confirmation.filter (· ≠ 0)

/-- The program has the `Request`: its handler was called with it, and nobody dropped it. -/
def lent (state : RequestState) : Bool :=
  state.request && (state.served || state.fate == .handled true || state.fate == .handled false)

def gone (state : RequestState) : Bool := !state.request && !state.served

end RequestState

def asReply (request reply : Message) : Message :=
  { reply with
    toId := if reply.toId.getD 0 = 0 then some (request.sender.getD 0) else reply.toId
    references := if reply.references.getD 0 = 0 then request.id else reply.references
    workflow := if (reply.workflow.getD "").isEmpty then request.workflow else reply.workflow }

/-- A change acknowledged, waiting for the requests the queue took before it. -/
structure Waiting where
  before : Nat
  remaining : Nat
  callback : Option CallbackId
  change : Nat
deriving DecidableEq, Repr

inductive Worker where
  | free
  | waiting
  | given (number : Nat) (request : RequestId)
  | handling (number : Nat) (request : RequestId)
  -- the handler came back
  | ended (number : Nat) (request : RequestId) (failure : Option HandlerError)
  | marked (number : Nat) (request : RequestId) (failure : HandlerError)
  | reported (number : Nat) (request : RequestId) (failure : HandlerError)
  | settled (number : Nat) (request : RequestId) (failure : Option HandlerError)
  -- the server's own hold on the request let go
  | finishing (number : Nat) (failure : Option HandlerError)
  | telling (wake failed : Bool)
  | returned
deriving DecidableEq, Repr

namespace Worker

/-- The number of the request it has, from the queue to the end it tells. -/
def number? : Worker → Option Nat
  | .given number _ | .handling number _ | .ended number _ _ | .marked number _ _
  | .reported number _ _ | .settled number _ _ | .finishing number _ => some number
  | _ => none

def isBusy (worker : Worker) : Bool := worker.number?.isSome

/-- Whether it has a request the queue took before the `before`th. -/
def isBefore (before : Nat) (worker : Worker) : Bool := worker.number?.any (· < before)

end Worker

inductive IoThread where
  | away
  | received (request : RequestId)
  | turnedAway (request : RequestId) (accepting : Bool)
deriving DecidableEq, Repr

inductive Closer where
  | away
  | closing
  | draining (threads : List WorkerId)
  | joining (threads : List WorkerId)
  | refusing (left told : List (Nat × RequestId))
  | shutting
  | closed
deriving DecidableEq, Repr

structure HandedConfirmation where
  request : RequestId
  sender : Nat
  number : Nat
  outcome : Confirmed
deriving DecidableEq, Repr

inductive Verdict where
  | goesOn
  | ends
  | panics (text : String)
deriving DecidableEq, Repr

/-- What the server ends for, a handler having failed with `failure`. -/
def Verdict.failure (failure : HandlerError) : Verdict → Option HandlerError
  | .goesOn => none
  | .ends => some failure
  | .panics text => some ("on_handler_error panicked: " ++ text)

end ThreadedServer

open ThreadedServer in
structure ThreadedServer where
  queue : List (Nat × RequestId) := []
  busy : Nat := 0
  idle : Nat := 0
  accepted : Nat := 0
  acknowledged : List ThreadedServer.Waiting := []
  accepting : Bool := true
  threads : List WorkerId := []
  failure : Option HandlerError := none
  connected : Bool := false
  closed : Bool := false
  draining : Bool := false
  working : Bool := true
  woken : Bool := false
  dropped : Nat := 0
  requests : RequestId → Option RequestState := fun _ => none
  workers : List Worker := []
  io : IoThread := .away
  closer : Closer := .away
  due : List ThreadedServer.Waiting := []
  -- the client: its shutdown begun, its io thread at the teardown, and what it took
  stopped : Bool := false
  tornDown : Bool := false
  replies : List Message := []
  confirmations : List ThreadedServer.HandedConfirmation := []
  -- how many messages were received, which worker was given what, what the close found left and
  -- refused, and the changes that came, were released and whose callbacks ran
  received : Nat := 0
  given : List (Nat × WorkerId) := []
  left : List Nat := []
  refused : List Nat := []
  changes : Nat := 0
  released : List ThreadedServer.Waiting := []
  ran : List ThreadedServer.Waiting := []

namespace ThreadedServer

def pending (server : ThreadedServer) : Nat := server.queue.length + server.busy

def setRequest (id : RequestId) (state : RequestState) (server : ThreadedServer) : ThreadedServer :=
  { server with requests := Function.update server.requests id (some state) }

def setWorker (worker : WorkerId) (place : Worker) (server : ThreadedServer) : ThreadedServer :=
  { server with workers := server.workers.set worker place }

/-! The client's calls, from the io thread until its teardown, from another until its
shutdown. -/

def takesCalls (onIo : Bool) (server : ThreadedServer) : Bool :=
  if onIo then !server.tornDown else !server.stopped

def send (onIo : Bool) (message : Message) (server : ThreadedServer) : ThreadedServer :=
  if server.takesCalls onIo then { server with replies := server.replies ++ [message] } else server

/-- `confirm` of the client, for request `id`, whose state is set too. -/
def confirm (onIo : Bool) (id : RequestId) (state : RequestState) (outcome : Confirmed)
    (server : ThreadedServer) : ThreadedServer :=
  match state.number? with
  | none => server.setRequest id state
  | some number =>
    if server.takesCalls onIo then
      { server.setRequest id state with
        confirmations :=
          server.confirmations ++
            [{ request := id, sender := state.message.sender.getD 0, number, outcome }] }
    else server.setRequest id { state with late := true }

/-! A request's holds. -/

def dropState (onIo : Bool) (id : RequestId) (state : RequestState) (server : ThreadedServer) :
    ThreadedServer :=
  if !state.confirms || state.message.confirmation.isNone then server.setRequest id state
  else server.confirm onIo id state (if state.failed then .failed else .processed)

/-- The `Request` goes, and the state with it when the server does not hold it. -/
def dropRequest (onIo : Bool) (id : RequestId) (state : RequestState) (server : ThreadedServer) :
    ThreadedServer :=
  if state.served then server.setRequest id { state with request := false }
  else server.dropState onIo id { state with request := false }

/-- The server's own hold goes, and the state with it when the `Request` went before. -/
def dropServed (id : RequestId) (state : RequestState) (server : ThreadedServer) : ThreadedServer :=
  if state.request then server.setRequest id { state with served := false }
  else server.dropState false id { state with served := false }

/-! The io thread. -/

def receive (incoming : Incoming) (server : ThreadedServer) : Option ThreadedServer :=
  match server.io with
  | .away =>
    some
      { server.setRequest server.received { incoming } with
        io := .received server.received, received := server.received + 1 }
  | _ => none

def onMessage (options : Options) (server : ThreadedServer) : Option ThreadedServer :=
  match server.io with
  | .received id =>
    (server.requests id).map fun state =>
      if server.accepting && server.pending < options.capacity then
        { server.setRequest id { state with place := .queued server.accepted } with
          queue := server.queue ++ [(server.accepted, id)]
          accepted := server.accepted + 1
          io := .away }
      else { server with io := .turnedAway id server.accepting }
  | _ => none

def refuse (options : Options) (onIo : Bool) (id : RequestId) (state : RequestState)
    (server : ThreadedServer) : ThreadedServer :=
  let state := { state with answered := true, fate := .refused }
  let message := state.message
  if message.confirmation.isSome then
    server.confirm onIo id { state with confirms := false } .refused
  else if message.references.getD 0 ≠ 0 then server.setRequest id state
  else if message.reportDeliveryError ≠ some false ∧ message.type > types.MAX_MULTIPLEXER_META_PACKET
  then
    let error : DeliveryError := { packetId := message.id.getD 0, failedType := [options.peerType] }
    (server.setRequest id state).send onIo
      (asReply message
        { type := types.DELIVERY_ERROR,
          message := some { length := error.encodedLen, content := .deliveryError error } })
  else server.setRequest id state

/-- The rest of `on_message` for a request the queue did not take. -/
def turnAway (options : Options) (server : ThreadedServer) : Option ThreadedServer :=
  match server.io with
  | .turnedAway id accepting =>
    (server.requests id).bind fun state =>
      let server := { server with dropped := server.dropped + 1, io := .away }
      if accepting then
        some (server.dropRequest true id
          { state with answered := true, confirms := false, fate := .full })
      else
        let server := server.refuse options true id state
        (server.requests id).map fun state => server.dropRequest true id state
  | _ => none

def acknowledge (callback : Option CallbackId) (server : ThreadedServer) : ThreadedServer :=
  { server with
    acknowledged :=
      server.acknowledged ++
        [{ before := server.accepted, remaining := server.pending, callback,
           change := server.changes }]
    woken := true
    changes := server.changes + 1 }

/-! The program. -/

/-- `connect`, as far as it starts the workers, `started` of them before a thread could not
be. -/
def connect (options : Options) (started : Nat) (server : ThreadedServer) : ThreadedServer :=
  if server.connected || server.closed then { server with connected := true }
  else if server.accepting && server.threads.isEmpty then
    { server with
      connected := true
      workers := List.replicate (min started options.workers) .free
      threads := List.range (min started options.workers) }
  else { server with connected := true }

/-- Whoever of the program has the `Request` answers through it, marks it or lets go of it. -/
def withProgram (id : RequestId) (act : RequestState → ThreadedServer) (server : ThreadedServer) :
    Option ThreadedServer :=
  (server.requests id).bind fun state => if state.lent then some (act state) else none

def replyMessage (onIo : Bool) (id : RequestId) (message : Message) (server : ThreadedServer) :
    Option ThreadedServer :=
  server.withProgram id fun state =>
    if server.takesCalls onIo then
      (server.send onIo (asReply state.message message)).setRequest id
        { state with answered := true }
    else server

def noResponse (id : RequestId) (server : ThreadedServer) : Option ThreadedServer :=
  server.withProgram id fun state => server.setRequest id { state with answered := true }

def letGo (onIo : Bool) (id : RequestId) (server : ThreadedServer) : Option ThreadedServer :=
  server.withProgram id fun state => server.dropRequest onIo id state

/-! The workers. -/

/-- A worker with the lock: the queue's first request, the end, or a wait. -/
def look (worker : WorkerId) (server : ThreadedServer) : ThreadedServer :=
  match server.queue with
  | (number, id) :: queue =>
    { server.setWorker worker (.given number id) with
      queue
      busy := server.busy + 1
      requests :=
        Function.update server.requests id
          ((server.requests id).map fun state => { state with place := .worker worker })
      given := server.given ++ [(number, worker)] }
  | [] =>
    if server.accepting then
      { server.setWorker worker .waiting with idle := server.idle + 1 }
    else server.setWorker worker .returned

/-- What is left to wait for at the end of request `number`, and whether a callback is due. -/
def countDown (number : Nat) (waiting : Waiting) : Waiting :=
  if waiting.remaining > 0 ∧ number < waiting.before then
    { waiting with remaining := waiting.remaining - 1 }
  else waiting

def comesDue (number : Nat) (waiting : Waiting) : Bool :=
  waiting.remaining = 1 ∧ number < waiting.before

def finish (worker : WorkerId) (number : Nat) (failure : Option HandlerError)
    (server : ThreadedServer) : ThreadedServer :=
  let wake :=
    server.acknowledged.any (comesDue number) ||
      (server.draining && server.queue.isEmpty && server.busy - 1 == 0)
  { server.setWorker worker (.telling wake failure.isSome) with
    busy := server.busy - 1
    acknowledged := server.acknowledged.map (countDown number)
    failure := server.failure.or failure }

def work (worker : WorkerId) (outcome : Option HandlerError) (verdict : Verdict)
    (server : ThreadedServer) : Option ThreadedServer :=
  match server.workers[worker]? with
  | none | some .returned => none
  | some .free => some (server.look worker)
  | some .waiting => some ({ server with idle := server.idle - 1 }.look worker)
  | some (.given number id) =>
    (server.requests id).map fun state =>
      (server.setRequest id { state with served := true }).setWorker worker (.handling number id)
  | some (.handling number id) =>
    (server.requests id).map fun state =>
      (server.setRequest id { state with fate := .handled outcome.isSome }).setWorker worker
        (.ended number id outcome)
  | some (.ended number id none) =>
    (server.requests id).map fun state =>
      (server.setRequest id { state with kept := state.kept || state.request }).setWorker worker
        (.settled number id none)
  | some (.ended number id (some failure)) =>
    (server.requests id).map fun state =>
      (server.setRequest id { state with failed := true }).setWorker worker
        (.marked number id failure)
  | some (.marked number id failure) =>
    (server.requests id).map fun state =>
      if !state.answered ∧ state.message.references.getD 0 = 0 then
        ((server.send false
          (asReply state.message
            { type := types.BACKEND_ERROR,
              message :=
                some { length := failure.utf8ByteSize, content := .uninterpreted } })).setRequest id
          { state with answered := true }).setWorker worker (.reported number id failure)
      else server.setWorker worker (.reported number id failure)
  | some (.reported number id failure) =>
    some (server.setWorker worker (.settled number id (verdict.failure failure)))
  | some (.settled number id failure) =>
    (server.requests id).map fun state =>
      (server.dropServed id { state with place := .program }).setWorker worker
        (.finishing number failure)
  | some (.finishing number failure) => some (server.finish worker number failure)
  | some (.telling wake failed) =>
    some
      { server.setWorker worker .free with
        working := server.working && !failed
        woken := server.woken || wake || failed }

/-! The serving thread. -/

def runAcknowledged (server : ThreadedServer) : Option ThreadedServer :=
  match server.due with
  | [] =>
    let done := server.acknowledged.takeWhile (·.remaining == 0)
    some
      { server with
        woken := false
        acknowledged := server.acknowledged.dropWhile (·.remaining == 0)
        due := done.filter (·.callback.isSome)
        released := server.released ++ done }
  | _ :: _ => none

def runCallback (server : ThreadedServer) : Option ThreadedServer :=
  match server.due with
  | [] => none
  | waiting :: due => some { server with due, ran := server.ran ++ [waiting] }

/-! The closing thread. -/

def startDraining (server : ThreadedServer) : ThreadedServer :=
  if server.draining then server else { server with draining := true, woken := true }

def close (options : Options) (server : ThreadedServer) : Option ThreadedServer :=
  match server.closer with
  | .away => some { server with closed := true, closer := .closing }
  | .closing =>
    some
      { server with
        accepting := false, threads := [], closer := .draining server.threads }
  | .draining threads =>
    some
      { server.startDraining with working := false, woken := true, closer := .joining threads }
  | .joining threads =>
    -- the joins wait for every worker started
    if threads.all fun worker => server.workers[worker]? = some .returned then
      some
        { server with
          queue := []
          closer := .refusing server.queue []
          requests := fun id =>
            if server.queue.any (·.2 == id) then
              (server.requests id).map fun state => { state with place := .closing }
            else server.requests id
          left := server.left ++ server.queue.map Prod.fst }
    else none
  | .refusing ((number, id) :: left) told =>
    (server.requests id).map fun state =>
      { server.refuse options false id state with
        closer := .refusing left (told ++ [(number, id)])
        refused := server.refused ++ [number] }
  | .refusing [] ((_, id) :: told) =>
    (server.requests id).map fun state =>
      { server.dropRequest false id state with closer := .refusing [] told }
  | .refusing [] [] => some { server with closer := .shutting }
  | .shutting => some { server with stopped := true, closer := .closed }
  | .closed => none

def tearDown (server : ThreadedServer) : Option ThreadedServer :=
  if server.stopped then some { server with tornDown := true } else none

inductive Step where
  | receive (incoming : Incoming)
  | onMessage
  | turnAway
  | acknowledge (callback : Option CallbackId)
  | connect (started : Nat)
  | replyMessage (onIo : Bool) (id : RequestId) (message : Message)
  | noResponse (id : RequestId)
  | letGo (onIo : Bool) (id : RequestId)
  | work (worker : WorkerId) (outcome : Option HandlerError) (verdict : Verdict)
  | runAcknowledged
  | runCallback
  | startDraining
  | stop
  | close
  -- the program shuts the client down itself, and the client's io thread tears it down
  | shutdownClient
  | tearDown

def act (options : Options) (server : ThreadedServer) : Step → Option ThreadedServer
  | .receive incoming => server.receive incoming
  | .onMessage => server.onMessage options
  | .turnAway => server.turnAway options
  | .acknowledge callback => some (server.acknowledge callback)
  | .connect started => some (server.connect options started)
  | .replyMessage onIo id message => server.replyMessage onIo id message
  | .noResponse id => server.noResponse id
  | .letGo onIo id => server.letGo onIo id
  | .work worker outcome verdict => server.work worker outcome verdict
  | .runAcknowledged => server.runAcknowledged
  | .runCallback => server.runCallback
  | .startDraining => some server.startDraining
  | .stop => some { server with working := false, woken := true }
  | .close => server.close options
  | .shutdownClient => some { server with stopped := true }
  | .tearDown => server.tearDown

def run (options : Options) : List Step → ThreadedServer → Option ThreadedServer
  | [], server => some server
  | step :: steps, server => (server.act options step).bind (run options steps)

def Reached (options : Options) (server : ThreadedServer) : Prop :=
  ∃ steps, run options steps {} = some server

end ThreadedServer

end Multiplexer
