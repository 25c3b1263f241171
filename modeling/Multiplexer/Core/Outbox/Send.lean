import Multiplexer.Core.Outbox.Place

/-! One message placed: on the connection of its lane, on one chosen round robin,
on every one, or held until one comes up. -/

set_option autoImplicit false

namespace Multiplexer

open Program

/-! ## Choosing a connection -/

namespace Core

/-- Whether `conn` is live, its queue has room and nothing waits for it. -/
def freeFor (core : Core) (conn : ConnId) : Bool :=
  core.conns[conn]?.any (fun state => state.living && !state.outgoingQueueFull) &&
    !core.outbox.waitsFor conn

/-- The live one among `conns` with the least waiting, the first of those, unless
`least` has less. -/
def leastWaiting (core : Core) : List ConnId → Option (ConnId × Nat) → Option ConnId
  | [], least => least.map Prod.fst
  | conn :: rest, least =>
    if !core.connLiving conn then core.leastWaiting rest least
    else
      let waiting := (core.outbox.backlog conn).elim 0 Backlog.live
      if least.all (waiting < ·.2) then core.leastWaiting rest (some (conn, waiting))
      else core.leastWaiting rest least

/-- The live connection the handovers lead to from `target`, in as many steps as
there are handovers. -/
def handedFrom (core : Core) : Nat → Target → Option ConnId
  | 0, _ => none
  | steps + 1, target =>
    match core.outbox.handovers.find? (·.target = target) with
    | none => none
    | some entry =>
      if core.connLiving entry.conn then some entry.conn
      else core.handedFrom steps entry.toTarget

/-- Where the messages of `gone`, a lane's connection, went once it died. -/
def handedTo (core : Core) (gone : Wrapper) : Option ConnId :=
  if core.live gone then none
  else core.handedFrom core.outbox.handovers.length gone.target

/-- The connections to targets whose first one is still on its way. -/
def firstOnTheirWay (core : Core) : List ConnId :=
  (core.client.byTarget.toList.filter fun (target, conn) =>
    core.conns[conn]?.any (fun state => state.living && !state.registered) &&
      !core.client.firstConnectionOver.contains target).map Prod.snd

end Core

def chooseConnection : Client (Option ConnId) := do
  let core ← get
  if core.client.shutsDown then pure none
  else match core.roundRobin.find? core.freeFor with
    | some conn => do
      modify fun core => { core with roundRobin := core.roundRobin.erase conn ++ [conn] }
      pure (some conn)
    | none => pure (core.leastWaiting core.roundRobin none)

/-! ## Placing now -/

/-- What became of a frame: whether it was placed, or a pinned lane's connection was
gone; its copies' trackers, and the connection it went to first. -/
structure Placed where
  placed : Bool := false
  refused : Bool := false
  copies : List TrackerId := []
  used : Option Wrapper := none

/-- A copy on every live one of `conns`, `tracker` that of the first. -/
def placeOnEach (frame : OutFrame) : List ConnId → Option TrackerId → Client Placed
  | [], _ => pure {}
  | conn :: rest, tracker => do
    let core ← get
    if !core.connLiving conn then placeOnEach frame rest tracker
    else do
      let copy ← placeOn conn frame tracker true none
      let others ← placeOnEach frame rest none
      pure { placed := true, copies := copy.toList ++ others.copies, used := some (core.wrap conn) }

/-- A copy on every registered connection that is live and, those placed, in the
backlog of each first connection still on its way. -/
def placeOnAll (frame : OutFrame) (tracker : Option TrackerId) : Client Placed := do
  let core ← get
  let now ← placeOnEach frame core.byPeerId.values tracker
  let core ← get
  if now.placed && !core.past frame.deadline then do
    let onTheirWay ← placeOnEach frame core.firstOnTheirWay none
    pure { now with copies := now.copies ++ onTheirWay.copies }
  else pure now

def placeOnOne (frame : OutFrame) (tracker : Option TrackerId) (lane : Option LaneId)
    (conn : Option ConnId) : Client Placed := do
  let chosen ← match conn with
    | some conn => pure (some conn)
    | none => chooseConnection
  match chosen with
  | none => pure {}
  | some conn => do
    let copy ← placeOn conn frame tracker false lane
    let core ← get
    ifSome lane fun lane => adopt lane (core.wrap conn)
    pure { placed := true, copies := copy.toList, used := some (core.wrap conn) }

/-- `frame` placed now, one way or to all, `tracker` the tracker of its first copy
when given, as a held message keeps its own. -/
def placeNow (frame : OutFrame) (all : Bool) (lane : Option LaneId) (tracker : Option TrackerId) :
    Client Placed := do
  let core ← get
  if core.client.shutsDown then pure {}
  else if all then placeOnAll frame tracker
  else
    match lane.bind fun lane => (core.lanes lane).connection with
    | none => placeOnOne frame tracker lane none
    | some held =>
      match held.conn.filter core.connLiving with
      | some own => do
        let copy ← placeOn own frame tracker false lane
        pure { placed := true, copies := copy.toList, used := some held }
      | none =>
        if lane.any fun lane => (core.lanes lane).pinned then pure { refused := true }
        else placeOnOne frame tracker lane (core.handedTo held)

/-! ## Sending -/

/-- What a send gave: whether it was taken, and then its copies' trackers and the
connection it went to. -/
structure Sent where
  accepted : Bool := false
  trackers : List TrackerId := []
  used : Option Wrapper := none

def numberOrNext (number : Nat) : Client Nat :=
  if number ≠ 0 then pure number else nextNumber

def sendAt (frame : Frame) (all : Bool) (lane : Option LaneId) (deadline : Option Instant)
    (number : Nat) (done : Option SendDone) : Client Sent := do
  let core ← get
  if core.client.shutsDown then pure {}
  else do
    let pinned := !all && lane.any fun lane => (core.lanes lane).pinned
    let number ← numberOrNext number
    let frame := outFrame frame pinned all number deadline (if all then none else lane)
    let placed ← if core.outbox.heldLive = 0 then placeNow frame all lane none else pure {}
    -- with something held no connection is live: a pinned lane holding one lost it
    let lost := !all && lane.any fun lane =>
      (core.lanes lane).pinned && (core.lanes lane).holdsConnection
    if !placed.placed && (placed.refused || lost) then pure {}
    else do
      let trackers ← if placed.placed then pure placed.copies
        else if core.past deadline then do
          let tracker ← giveUpMessage frame none false .noConnection
          pure [tracker]
        else do
          let tracker ← hold frame none all lane
          pure [tracker]
      note (.taken frame trackers)
      ifSome done fun done => do
        let id ← follow trackers done
        note (.followed id done frame trackers)
      pure ⟨true, trackers, placed.used⟩

end Multiplexer
