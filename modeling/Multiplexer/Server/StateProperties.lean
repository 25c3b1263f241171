import Multiplexer.Library.Lookup
import Multiplexer.Server.State

/-! What queueing a frame, drawing a number and recording leave as it was: everything but
the queues of connections that registered, the numbers drawn, the taps' own counts and what
is recorded. -/

set_option autoImplicit false

namespace Multiplexer.Server

open List Option

variable {Regex : Type} {server before middle after : Server Regex}

/-! ## One connection -/

@[simp] theorem modify_connections (conn each : Pointer) (change : Connection → Connection) :
    (server.modify conn change).connections each =
      if each = conn then (server.connections conn).map change else server.connections each := by
  simp only [modify, Function.update_apply]

namespace Connection

def Young (conn : Connection) : Prop :=
  conn.registered = false ∧ conn.shutsDown = false ∧ conn.inTypeList = false

def standing (conn : Connection) : Connection := { conn with outgoing := [], outgoingMax := 0 }

variable {conn other : Connection}

theorem standing_field {α : Type} (field : Connection → α) (ignores : field ∘ standing = field)
    (same : conn.standing = other.standing) : field conn = field other :=
  (congrFun ignores conn).symm.trans ((congrArg field same).trans (congrFun ignores other))

theorem Young.of_standing (young : conn.Young) (same : conn.standing = other.standing) : other.Young := by
  obtain ⟨registered, shutsDown, listed⟩ := young
  refine ⟨?_, ?_, ?_⟩
  · rw [← standing_field Connection.registered rfl same, registered]
  · rw [← standing_field Connection.shutsDown rfl same, shutsDown]
  · rw [← standing_field Connection.inTypeList rfl same, listed]

end Connection

/-! ## Quiet changes -/

def TapsKnown (server : Server Regex) : Prop :=
  ∀ tap ∈ server.taps, tap.conn < server.accepted ∧
    ∀ conn, server.connections tap.conn = some conn → ¬conn.Young

structure Quiet (before after : Server Regex) : Prop where
  same : ∃ connections taps recorder recordings drawn,
    after = { before with connections, taps, recorder, recordings, drawn }
  standing : ∀ conn, (after.connections conn).map Connection.standing =
    (before.connections conn).map Connection.standing
  young : ∀ conn peer, before.connections conn = some peer → peer.Young → after.connections conn = some peer
  taps : ∀ tap ∈ after.taps, ∃ known ∈ before.taps, known.conn = tap.conn

namespace Quiet

theorem refl (server : Server Regex) : Quiet server server :=
  ⟨⟨_, _, _, _, _, rfl⟩, fun _ => rfl, fun _ _ found _ => found, fun tap known => ⟨tap, known, rfl⟩⟩

theorem trans (first : Quiet before middle) (second : Quiet middle after) : Quiet before after := by
  refine ⟨?_, ?_, ?_, ?_⟩
  · obtain ⟨_, _, _, _, _, rfl⟩ := first.same
    obtain ⟨_, _, _, _, _, rfl⟩ := second.same
    exact ⟨_, _, _, _, _, rfl⟩
  · intro conn
    rw [second.standing, first.standing]
  · intro conn peer found young
    exact second.young conn peer (first.young conn peer found young) young
  · intro tap known
    obtain ⟨_, known, same⟩ := second.taps tap known
    obtain ⟨_, known, same'⟩ := first.taps _ known
    exact ⟨_, known, same'.trans same⟩

section

variable (quiet : Quiet before after)

include quiet

theorem field {α : Type} (field : Server Regex → α)
    (ignores : (fun server connections taps recorder recordings drawn =>
        field { server with connections, taps, recorder, recordings, drawn }) =
      fun server _ _ _ _ _ => field server) : field after = field before := by
  obtain ⟨_, _, _, _, _, rfl⟩ := quiet.same
  exact congrFun (congrFun (congrFun (congrFun (congrFun (congrFun ignores _) _) _) _) _) _

theorem found {conn : Pointer} {peer : Connection}
    (found : before.connections conn = some peer) :
    ∃ peer', after.connections conn = some peer' ∧ peer'.standing = peer.standing := by
  have standing := quiet.standing conn
  rw [found] at standing
  exact map_eq_some_iff.mp standing

theorem found_before {conn : Pointer} {peer : Connection}
    (found : after.connections conn = some peer) :
    ∃ peer', before.connections conn = some peer' ∧ peer'.standing = peer.standing := by
  have standing := quiet.standing conn
  rw [found] at standing
  exact map_eq_some_iff.mp standing.symm

theorem tapsKnown (known : before.TapsKnown) : after.TapsKnown := by
  intro tap member
  obtain ⟨tap', member, same⟩ := quiet.taps tap member
  obtain ⟨below, old⟩ := known tap' member
  rw [same] at below old
  constructor
  · obtain ⟨_, _, _, _, _, rfl⟩ := quiet.same
    exact below
  · intro _ found young
    obtain ⟨conn', found, standing⟩ := quiet.found_before found
    exact old conn' found (young.of_standing standing.symm)

theorem modify (conn : Pointer) (change : Connection → Connection)
    (keeps : ∀ peer, (change peer).standing = (change peer.standing).standing)
    (grown : ∀ peer, before.connections conn = some peer → ¬(change peer).Young) :
    Quiet (before.modify conn change) (after.modify conn change) := by
  refine ⟨?_, ?_, ?_, quiet.taps⟩
  · obtain ⟨_, _, _, _, _, rfl⟩ := quiet.same
    exact ⟨_, _, _, _, _, rfl⟩
  · intro each
    have standing := quiet.standing each
    simp only [modify_connections]
    split
    · rename_i same
      rw [same] at standing
      cases found : before.connections conn with
      | none =>
        rw [found] at standing
        rw [map_eq_none_iff.mp standing]
      | some =>
        obtain ⟨peer', found', same⟩ := quiet.found found
        rw [found']
        simp only [map_some, some.injEq]
        rw [keeps, same, ← keeps]
    · exact standing
  · intro each peer found young
    simp only [modify_connections] at found ⊢
    split at found
    · obtain ⟨peer, found', rfl⟩ := map_eq_some_iff.mp found
      exact absurd young (grown peer found')
    · rename_i differ
      rw [if_neg differ]
      exact quiet.young each peer found young

end

end Quiet

variable {conn : Pointer}

theorem push_quiet {peer : Connection} (frame : Frame) (asap : Bool)
    (found : server.connections conn = some peer) (old : ¬peer.Young) :
    Quiet server (server.modify conn (.push frame asap)) := by
  refine ⟨⟨_, _, _, _, _, rfl⟩, ?_, ?_, fun tap known => ⟨tap, known, rfl⟩⟩
  · intro each
    rw [modify_connections]
    split
    · rename_i same
      rw [same, found]
      rfl
    · rfl
  · intro each other found' young
    rw [modify_connections]
    split
    · rename_i same
      rw [same, found] at found'
      cases found'
      exact absurd young old
    · exact found'

/-- A frame is queued, or nothing changes. -/
theorem queue_cases (conn : Pointer) (frame : Frame) (force : Bool) :
    (∃ peer, server.connections conn = some peer ∧ peer.living = true ∧ peer.hasRoom force = true ∧
        server.queue conn frame force = (.queued, server.modify conn (.push frame false))) ∨
      server.queue conn frame force = (.full, server) ∨
      server.queue conn frame force = (.gone, server) := by
  unfold queue
  split
  · exact .inr (.inr rfl)
  · rename_i peer found
    split
    · exact .inr (.inr rfl)
    · split
      · rename_i room
        rw [Bool.and_eq_true] at room
        exact .inl ⟨peer, found, room.1, room.2, rfl⟩
      · exact .inr (.inl rfl)

theorem queue_quiet (frame : Frame) (force : Bool)
    (old : ∀ peer, server.connections conn = some peer → ¬peer.Young) :
    Quiet server (server.queue conn frame force).2 := by
  obtain ⟨peer, found, -, -, queued⟩ | full | gone := queue_cases conn frame force
  · rw [queued]
    exact push_quiet frame false found (old peer found)
  · rw [full]
    exact .refl server
  · rw [gone]
    exact .refl server

theorem scheduleOwn_quiet (frame : Frame) (old : ∀ peer, server.connections conn = some peer → ¬peer.Young) :
    Quiet server (server.scheduleOwn conn frame).2 := by
  unfold scheduleOwn
  split
  · exact .refl server
  · rename_i peer found
    split
    · exact push_quiet frame true found (old peer found)
    · exact .refl server

variable (env : Surroundings Regex)

theorem draw_quiet : Quiet server (server.draw env).2 :=
  ⟨⟨_, _, _, _, _, rfl⟩, fun _ => rfl, fun _ _ found _ => found, fun tap known => ⟨tap, known, rfl⟩⟩

theorem stopRecording_quiet : Quiet server server.stopRecording := by
  unfold stopRecording
  split
  · exact .refl server
  · exact ⟨⟨_, _, _, _, _, rfl⟩, fun _ => rfl, fun _ _ found _ => found, fun tap known => ⟨tap, known, rfl⟩⟩

theorem recorder_quiet (recorder : Option Recorder) : Quiet server { server with recorder } :=
  ⟨⟨_, _, _, _, _, rfl⟩, fun _ => rfl, fun _ _ found _ => found, fun tap known => ⟨tap, known, rfl⟩⟩

theorem writeRecord_quiet (record : Record) (server : Server Regex) : Quiet server (server.writeRecord record) := by
  unfold writeRecord
  split
  · exact .refl server
  · dsimp only
    split
    · exact recorder_quiet _
    · exact recorder_quiet _
    · exact (recorder_quiet _).trans stopRecording_quiet

theorem startRecording_quiet (path : Bytes) (opened : Except Bytes (Option Nat)) :
    Quiet server (server.startRecording path opened).2 := by
  unfold startRecording
  split
  · exact .refl server
  · split
    · exact .refl server
    · exact recorder_quiet _

theorem stream_conn (record : Record) (tap : Tap) : (server.stream env record tap).1.conn = tap.conn := by
  simp only [stream]
  split
  · rfl
  · split <;> rfl

theorem stream_quiet (record : Record) (tap : Tap)
    (known : ∀ conn, server.connections tap.conn = some conn → ¬conn.Young) :
    Quiet server (server.stream env record tap).2 := by
  simp only [stream]
  split
  · exact draw_quiet env
  · exact (draw_quiet env).trans (queue_quiet _ _ known)

theorem streamAll_conns (record : Record) (taps : List Tap) (server : Server Regex) :
    (streamAll env record taps server).1.map Tap.conn = taps.map Tap.conn := by
  induction taps generalizing server with
  | nil => rfl
  | cons _ _ ih => simp only [streamAll, map_cons, stream_conn, ih]

theorem streamAll_quiet (record : Record) (taps : List Tap) (server : Server Regex)
    (known : ∀ tap ∈ taps, ∀ conn, server.connections tap.conn = some conn → ¬conn.Young) :
    Quiet server (streamAll env record taps server).2 := by
  induction taps generalizing server with
  | nil => exact .refl server
  | cons tap _ ih =>
    have first := stream_quiet env record tap (known tap mem_cons_self)
    refine first.trans (ih _ ?_)
    intro other member _ found young
    obtain ⟨conn', found, standing⟩ := first.found_before found
    exact known other (mem_cons_of_mem _ member) conn' found (young.of_standing standing.symm)

theorem emit_quiet (record : Record) (known : server.TapsKnown) : Quiet server (server.emit env record) := by
  have wrote := writeRecord_quiet record server
  have streamed := streamAll_quiet env record
    (server.taps.filter fun tap => (server.connections tap.conn).any Connection.living)
    (server.writeRecord record) (by
      intro tap member conn found young
      obtain ⟨conn', found, standing⟩ := wrote.found_before found
      exact (known tap (mem_of_mem_filter member)).2 conn' found (young.of_standing standing.symm))
  have quiet := wrote.trans streamed
  refine ⟨?_, quiet.standing, quiet.young, ?_⟩
  · obtain ⟨connections, _, recorder, recordings, drawn, same⟩ := quiet.same
    refine ⟨connections, (server.emit env record).taps, recorder, recordings, drawn, ?_⟩
    simp only [emit, same]
  · intro tap member
    have conn : tap.conn ∈ _ := List.mem_map_of_mem member
    simp only [emit] at conn
    rw [streamAll_conns, List.mem_map] at conn
    obtain ⟨known, member, same⟩ := conn
    exact ⟨known, mem_of_mem_filter member, same⟩

theorem emitPeer_quiet (kind : PeerEventKind) (peerId : UInt64) (peerType : UInt32)
    (known : server.TapsKnown) : Quiet server (server.emitPeer env kind peerId peerType) := by
  unfold emitPeer
  split
  · exact emit_quiet env _ known
  · exact .refl server

theorem emitPeerRouting_quiet (conn : Connection) (known : server.TapsKnown) :
    Quiet server (server.emitPeerRouting env conn) := by
  unfold emitPeerRouting
  split
  · exact emit_quiet env _ known
  · exact .refl server

/-! ## What is recorded -/

structure Wrote (written : List Record) (before after : Server Regex) : Prop where
  session : ∀ recorder, after.recorder = some recorder →
    ∃ earlier, before.recorder = some earlier ∧ recorder.records = earlier.records ++ written
  closed : ∀ records ∈ after.recordings, records ∈ before.recordings ∨
    ∃ earlier, before.recorder = some earlier ∧ ∃ part, part <+: written ∧ records = earlier.records ++ part

namespace Wrote

theorem none_of (recorder : after.recorder = before.recorder)
    (recordings : after.recordings = before.recordings) : Wrote [] before after := by
  refine ⟨?_, ?_⟩
  · intro found session
    rw [recorder] at session
    exact ⟨found, session, (append_nil _).symm⟩
  · intro _ member
    rw [recordings] at member
    exact .inl member

theorem refl (server : Server Regex) : Wrote [] server server := none_of rfl rfl

theorem trans {first second : List Record} (wrote : Wrote first before middle)
    (wrote' : Wrote second middle after) : Wrote (first ++ second) before after := by
  refine ⟨?_, ?_⟩
  · intro recorder session
    obtain ⟨between, session, records⟩ := wrote'.session recorder session
    obtain ⟨earlier, session, records'⟩ := wrote.session between session
    exact ⟨earlier, session, by rw [records, records', append_assoc]⟩
  · intro records member
    obtain member | ⟨between, session, part, isPart, same⟩ := wrote'.closed records member
    · obtain member | ⟨earlier, session, part, isPart, same⟩ := wrote.closed records member
      · exact .inl member
      · exact .inr ⟨earlier, session, part, isPart.trans (prefix_append _ _), same⟩
    · obtain ⟨earlier, session, records'⟩ := wrote.session between session
      refine .inr ⟨earlier, session, first ++ part, ?_, ?_⟩
      · exact (prefix_append_right_inj first).mpr isPart
      · rw [same, records', append_assoc]

end Wrote

theorem modify_wrote (conn : Pointer) (change : Connection → Connection) :
    Wrote [] server (server.modify conn change) := .none_of rfl rfl

theorem queue_wrote (conn : Pointer) (frame : Frame) (force : Bool) :
    Wrote [] server (server.queue conn frame force).2 := by
  obtain ⟨_, -, -, -, queued⟩ | full | gone := queue_cases conn frame force
  · rw [queued]
    exact modify_wrote conn _
  · rw [full]
    exact .refl server
  · rw [gone]
    exact .refl server

theorem scheduleOwn_wrote (conn : Pointer) (frame : Frame) : Wrote [] server (server.scheduleOwn conn frame).2 := by
  unfold scheduleOwn
  split
  · exact .refl server
  · split
    · exact modify_wrote conn _
    · exact .refl server

theorem stopRecording_wrote : Wrote [] server server.stopRecording := by
  unfold stopRecording
  split
  · exact .refl server
  · rename_i recorder session
    refine ⟨?_, ?_⟩
    · rintro _ ⟨⟩
    intro _ member
    rw [mem_append, mem_singleton] at member
    obtain member | rfl := member
    · exact .inl member
    · exact .inr ⟨recorder, session, [], nil_prefix, (append_nil _).symm⟩

theorem writeRecord_wrote (record : Record) (server : Server Regex) :
    Wrote [record] server (server.writeRecord record) := by
  unfold writeRecord
  split
  · rename_i idle
    refine ⟨fun recorder session => ?_, fun records member => .inl member⟩
    cases idle.symm.trans session
  · rename_i recorder session
    have went (room : Option Nat) : Wrote [record] server
        { server with
          recorder := some ⟨recorder.path, recorder.records ++ [record], room⟩ } := by
      refine ⟨?_, fun records member => .inl member⟩
      rintro _ ⟨⟩
      exact ⟨recorder, session, rfl⟩
    dsimp only
    split
    · exact went _
    · exact went _
    · exact (went recorder.room).trans stopRecording_wrote

theorem streamAll_wrote (record : Record) (taps : List Tap) (server : Server Regex) :
    Wrote [] server (streamAll env record taps server).2 := by
  induction taps generalizing server with
  | nil => exact .refl server
  | cons tap _ ih =>
    have first : Wrote [] server (server.stream env record tap).2 := by
      simp only [stream]
      split
      · exact .none_of rfl rfl
      · exact (Wrote.none_of rfl rfl : Wrote [] server (server.draw env).2).trans (queue_wrote _ _ _)
    exact first.trans (ih _)

theorem taps_wrote (server : Server Regex) (taps : List Tap) :
    Wrote [] server { server with taps } := .none_of rfl rfl

/-- A record told is written once. -/
theorem emit_wrote (record : Record) (server : Server Regex) : Wrote [record] server (server.emit env record) := by
  have streamed := (writeRecord_wrote record server).trans (streamAll_wrote env record
    (server.taps.filter fun tap => (server.connections tap.conn).any Connection.living) _)
  exact streamed.trans (taps_wrote _ (server.emit env record).taps)

namespace Record

def event? (id : UInt64) : Record → Option PeerEventKind
  | .peer kind peerId _ => if peerId = id then some kind else none
  | _ => none

end Record

def Silent (before after : Server Regex) : Prop :=
  ∃ written, Wrote written before after ∧ ∀ record ∈ written, ∀ id, Record.event? id record = none

namespace Silent

theorem of_wrote (wrote : Wrote [] before after) : Silent before after :=
  ⟨[], wrote, fun _ member => by cases member⟩

theorem of_same (recorder : after.recorder = before.recorder) (recordings : after.recordings = before.recordings) :
    Silent before after :=
  of_wrote (.none_of recorder recordings)

theorem refl (server : Server Regex) : Silent server server := of_wrote (.refl server)

theorem trans (first : Silent before middle) (second : Silent middle after) :
    Silent before after := by
  obtain ⟨written, wrote, silent⟩ := first
  obtain ⟨written', wrote', silent'⟩ := second
  refine ⟨written ++ written', wrote.trans wrote', ?_⟩
  intro record member
  obtain member | member := mem_append.mp member
  · exact silent record member
  · exact silent' record member

theorem emit (record : Record) (silent : ∀ id, Record.event? id record = none)
    (server : Server Regex) : Silent server (server.emit env record) := by
  refine ⟨[record], emit_wrote env record server, ?_⟩
  intro _ member
  rw [mem_singleton] at member
  exact member ▸ silent

end Silent

end Multiplexer.Server
