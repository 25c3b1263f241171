import Multiplexer.Server.Runs
import Multiplexer.Server.StateProperties
import Mathlib.Logic.Relation

/-! What the server does, said once: the steps its functions are made of, each with what it
changes. Every invariant is a case analysis over them. -/

set_option autoImplicit false

namespace Multiplexer.Server

variable {Regex : Type}

def put (conn : Pointer) (peer : Connection) (server : Server Regex) : Server Regex :=
  { server with connections := Function.update server.connections conn (some peer) }

theorem modify_found {server : Server Regex} {conn : Pointer} {peer : Connection}
    (change : Connection → Connection) (found : server.connections conn = some peer) :
    server.modify conn change = server.put conn (change peer) := by
  simp only [modify, put, found, Option.map_some]

def accepting (server : Server Regex) : Server Regex :=
  { server with
    connections := Function.update server.connections server.accepted (some {})
    accepted := server.accepted + 1 }

def Routed (server : Server Regex) (conn : Pointer) (peer : Connection) : Prop :=
  server.connections conn = some peer ∧ peer.registered = true ∧
    peer.toldGone = false ∧ conn ∉ server.replaced

namespace Connection

structure Steady (conn : Connection) : Prop where
  young : conn.Young → conn.living = true ∧ conn.ended = false ∧ conn.outgoing = [] ∧
    conn.toldGone = false ∧ conn.leaving = false
  shutsDown : conn.shutsDown = true → conn.living = false ∧ (conn.toldGone = true ∨ conn.leaving = true)
  leaving : conn.leaving = true →
    conn.toldGone = false ∧ conn.living = false ∧ (conn.registered = true ∨ conn.shutsDown = true)
  ended : conn.ended = true → conn.living = false
  told : conn.toldGone = true → conn.living = false
  closed : conn.closed = true → conn.shutsDown = true ∧ conn.toldGone = true ∧ conn.registered = false

structure Own (before after : Connection) : Prop where
  same : ∃ living shutsDown delivering routing outgoing outgoingMax ended leaving closed, after =
      { before with
        living, shutsDown, delivering, routing, outgoing, outgoingMax, ended, leaving, closed }
  steady : before.Steady → after.Steady
  old : ¬after.Young

end Connection

/-! ## The indexes' changes -/

def Connection.gone (peer : Connection) : Connection :=
  { peer with
    toldGone := true, leaving := false, inTypeList := false, keyFilters := []
    keyOwner := NO_OWNER }

def leave (conn : Pointer) (peer : Connection) (server : Server Regex) : Server Regex :=
  { server.put conn peer.gone with
    connectionById := server.connectionById.erase peer.peerId
    connectionsByType := server.connectionsByType.insert peer.peerType
      ((server.ofType peer.peerType).erase conn)
    departed := insert conn server.departed
    keyPatterns := server.keyPatterns.removeOwner peer.keyOwner
    taps := server.taps.eraseP fun tap => tap.conn = conn
    owned := server.owned ++ [.released conn peer.keyOwner]
    turns := server.turns ++ [.left conn] }

def leaveReplaced (conn : Pointer) (peer : Connection) (server : Server Regex) : Server Regex :=
  { server.put conn peer.gone with
    keyPatterns := server.keyPatterns.removeOwner peer.keyOwner
    taps := server.taps.eraseP fun tap => tap.conn = conn
    owned := server.owned ++ [.released conn peer.keyOwner]
    turns := server.turns ++ [.left conn] }

def displace (conn : Pointer) (peer : Connection) (server : Server Regex) : Server Regex :=
  { server.put conn { peer with inTypeList := false } with
    connectionsByType := server.connectionsByType.insert peer.peerType
      ((server.ofType peer.peerType).erase conn)
    replaced := insert conn server.replaced }

def close (conn : Pointer) (peer : Connection) (server : Server Regex) : Server Regex :=
  { server.put conn
      { peer with registered := false, outgoingMax := 0, outgoing := [], ended := true } with
    replaced := server.replaced.erase conn
    departed := server.departed.erase conn }

def Connection.joined (max : Nat) (filters : List FilterMessage) (owner : Owner)
    (peer : Connection) : Connection :=
  { peer with
    registered := true, inTypeList := true, outgoingMax := max, keyFilters := filters
    keyOwner := owner }

def join (conn : Pointer) (peer : Connection) (filters : List FilterMessage)
    (owner : Owner) (server : Server Regex) : Server Regex :=
  { server.put conn (peer.joined (server.outgoingQueueMaxSize peer.peerType) filters
      owner) with
    connectionById := server.connectionById.insert peer.peerId conn
    connectionsByType := server.connectionsByType.insert peer.peerType
      (conn :: server.ofType peer.peerType)
    turns := server.turns ++ [.registered peer.peerId peer.peerType conn] }

def Announced (kind : PeerEventKind) (id : UInt64) (before after : Server Regex) : Prop :=
  Quiet before after ∧ ∃ written, Wrote written before after ∧
    ∀ each, written.filterMap (Record.event? each) = if each = id then [kind] else []

def Picked (list eligible : List Pointer) (chosen : Option Pointer) (after : List Pointer) :
    Prop :=
  match chosen with
  | none => eligible = [] ∧ after = list
  | some conn =>
    conn ∈ list ∧ after = list.erase conn ++ [conn] ∧
      (eligible ≠ [] → conn ∈ eligible ∧
        ∃ passed rest, list = passed ++ conn :: rest ∧ ∀ other ∈ passed, other ∉ eligible)

/-! ## Steps -/

def Clear (id : UInt64) (server : Server Regex) : Prop :=
  ∀ conn ∈ server.departed, ∀ peer, server.connections conn = some peer →
    peer.peerId ≠ id

def asksToRecord (msg : Message) : Bool :=
  match msg.content with
  | .recordingControl { action := .start _, .. } => msg.type == types.RECORDING_CONTROL
  | _ => false

/-- Every connection that is still to be told disconnected is one a recording begins with. -/
def Settled (server : Server Regex) : Prop :=
  server.departed = ∅ ∧ ∀ conn peer, server.Routed conn peer →
    peer.living = true

-- `orderly` when a recording starts only in a settled server, and a peer is let in only
-- when no departed connection has its id
variable (env : Surroundings Regex) (orderly : Prop)

inductive Plain : Server Regex → Server Regex → Prop
  | quiet {before after : Server Regex} : Quiet before after → Silent before after → Plain before after
  | startRecording {server : Server Regex} (path : Bytes) (opened : Except Bytes (Option Nat)) :
      (orderly → server.Settled) → Plain server (server.startRecording path opened).2
  | accept {server : Server Regex} : Plain server server.accepting
  | own {server : Server Regex} {conn : Pointer} {peer after : Connection} :
      server.connections conn = some peer → peer.Own after →
      Plain server (server.put conn after)
  | told {server : Server Regex} {conn : Pointer} {peer : Connection} :
      server.connections conn = some peer → peer.registered = false →
      peer.shutsDown = true →
      Plain server (server.put conn { peer with toldGone := true, leaving := false })
  | left {server : Server Regex} {conn : Pointer} {peer : Connection} :
      server.Routed conn peer → peer.living = false →
      Plain server (server.leave conn peer)
  | leftReplaced {server : Server Regex} {conn : Pointer} {peer : Connection} :
      server.connections conn = some peer → peer.registered = true →
      peer.toldGone = false → conn ∈ server.replaced → peer.living = false →
      Plain server (server.leaveReplaced conn peer)
  | closed {server : Server Regex} {conn : Pointer} {peer : Connection} :
      server.connections conn = some peer → peer.shutsDown = true →
      peer.toldGone = true → peer.closed = false → conn ∉ server.departed →
      Plain server (server.close conn peer)
  | closedDeparted {server after : Server Regex} {conn : Pointer} {peer : Connection} :
      server.connections conn = some peer → peer.shutsDown = true →
      peer.toldGone = true → peer.closed = false → conn ∈ server.departed →
      Announced .disconnected peer.peerId (server.close conn peer) after →
      Plain server after
  | destroyed {server : Server Regex} {conn : Pointer} {peer : Connection} :
      server.connections conn = some peer → peer.closed = true →
      Plain server { server with connections := Function.update server.connections conn none }
  | introduced {server : Server Regex} {conn : Pointer} {peer : Connection} (id : UInt64)
      (type : UInt32) (routing : Routing) :
      server.connections conn = some peer → peer.Young →
      Plain server (server.put conn { peer with peerId := id, peerType := type, routing })
  | matched {server : Server Regex} (type : Nat) (key : Bytes) : Plain server
        { server with
          keyPatterns := (server.keyPatterns.matchKey env.re2 type key
            (setRun env type key server.keyPatterns)).2 }
  | picked {server : Server Regex} (type : UInt32) (eligible : List Pointer)
      (chosen : Option Pointer) (connections : List Pointer) :
      Picked (server.ofType type) eligible chosen connections →
      Plain server
        { server.relist type connections with
          turns := server.turns ++ [.any type eligible chosen] }
  | relisted {server : Server Regex} (type : UInt32) : Plain server (server.relist type (server.ofType type))
  | filtered {server : Server Regex} {conn : Pointer} {peer : Connection}
      {filters : List FilterMessage} {keyPatterns : KeyPatterns Regex} :
      server.connections conn = some peer → peer.registered = true →
      peer.toldGone = false →
      server.keyPatterns.setFilters env.re2 peer.keyOwner
        (filters.map FilterMessage.filter) = (.ok (), keyPatterns) →
      Plain server
        { server.put conn { peer with keyFilters := filters } with keyPatterns }
  | ruled {server : Server Regex} (config : Config) : Plain server { server with config }
  | reported {server : Server Regex} (message : Message) :
      Plain server { server with reports := server.reports ++ [message] }
  | tapped {server : Server Regex} {peer : Connection} (tap : Tap) :
      server.connections tap.conn = some peer → peer.registered = true →
      Plain server { server with taps := server.taps ++ [tap] }
  | stopped {server : Server Regex} : Plain server { server with stopping := true }

/-- A number handed out for a connection that is not registered yet, and the filters set
under it. -/
structure Pending where
  conn : Pointer
  owner : Owner
  filters : List KeyFilter

inductive Step : Option Pending × Server Regex → Option Pending × Server Regex → Prop
  | plain {before after : Server Regex} (pending : Option Pending) :
      Plain env orderly before after → Step (pending, before) (pending, after)
  | took {server : Server Regex} {conn : Pointer} {peer : Connection} :
      server.connections conn = some peer → peer.Young →
      Step (none, server) (some ⟨conn, server.keyPatterns.addOwner.1, []⟩,
          { server with
            keyPatterns := server.keyPatterns.addOwner.2
            owned := server.owned ++ [.taken conn server.keyPatterns.addOwner.1] })
  | declared {server : Server Regex} {conn : Pointer} {owner : Owner} {filters : List KeyFilter}
      {keyPatterns : KeyPatterns Regex} :
      server.keyPatterns.setFilters env.re2 owner filters = (.ok (), keyPatterns) →
      Step (some ⟨conn, owner, []⟩, server) (some ⟨conn, owner, filters⟩, { server with keyPatterns })
  | refused {server : Server Regex} {conn : Pointer} {peer after : Connection} {owner : Owner}
      {filters : List KeyFilter} :
      server.connections conn = some peer → peer.registered = false →
      peer.Own after →
      Step (some ⟨conn, owner, filters⟩, server) (none, (server.put conn after).releaseOwner conn owner)
  | joined {server after : Server Regex} {conn : Pointer} {peer : Connection}
      {owner : Owner} {filters : List FilterMessage} :
      server.connections conn = some peer → peer.Young →
      server.connectionById[peer.peerId]? = none →
      (orderly → server.Clear peer.peerId) →
      Announced .connected peer.peerId (server.join conn peer filters owner) after →
      Step (some ⟨conn, owner, filters.map FilterMessage.filter⟩, server) (none, after)
  | joinedOver {server middle after : Server Regex} {conn previous : Pointer}
      {peer earlier : Connection} {owner : Owner} {filters : List FilterMessage} :
      server.connections conn = some peer → peer.Young →
      server.Routed previous earlier → earlier.peerId = peer.peerId →
      server.loops = true → (orderly → server.Clear peer.peerId) →
      Announced .disconnected peer.peerId (server.displace previous earlier) middle →
      Announced .connected peer.peerId (middle.join conn peer filters owner) after →
      Step (some ⟨conn, owner, filters.map FilterMessage.filter⟩, server) (none, after)

def Steps : Option Pending × Server Regex → Option Pending × Server Regex → Prop :=
  Relation.ReflTransGen (Step env orderly)

/-- What every step of a run keeps, the run keeps. -/
theorem Steps.keeps {env : Surroundings Regex} {orderly : Prop} {pending pending' : Option Pending}
    {before after : Server Regex} (steps : Steps env orderly (pending, before) (pending', after))
    (Holds : Option Pending → Server Regex → Prop) (start : Holds pending before)
    (step : ∀ {via via' : Option Pending} {middle next : Server Regex},
      Steps env orderly (pending, before) (via, middle) → Holds via middle →
        Step env orderly (via, middle) (via', next) → Holds via' next) : Holds pending' after := by
  have all (state) (taken : Steps env orderly (pending, before) state) : Holds state.1 state.2 := by
    induction taken with
    | refl => exact start
    | tail taken last ih => exact step taken ih last
  exact all _ steps

end Multiplexer.Server
