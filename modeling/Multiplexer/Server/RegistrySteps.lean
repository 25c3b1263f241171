import Multiplexer.Server.OwnerInvariants

/-! The registry's functions are steps: a connection's end, in one go or in its own loop's
turns, and a peer's welcome. -/

set_option autoImplicit false

namespace Multiplexer.Server

open List Option Function

variable {Regex : Type} {server before middle after : Server Regex}
  {env : Surroundings Regex} {orderly : Prop}

theorem Plain.loops (step : Plain env orderly before after) : after.loops = before.loops := by
  cases step with
  | quiet quiet => exact quiet.field Server.loops rfl
  | startRecording path opened =>
    exact (startRecording_quiet path opened).field Server.loops rfl
  | closedDeparted _ _ _ _ _ announced =>
    exact (announced.1.field Server.loops rfl :)
  | _ => rfl

def Plains (env : Surroundings Regex) (orderly : Prop) : Server Regex → Server Regex → Prop :=
  Relation.ReflTransGen (Plain env orderly)

namespace Plains

theorem steps (plains : Plains env orderly before after) (pending : Option Pending) :
    Steps env orderly (pending, before) (pending, after) := by
  induction plains with
  | refl => exact .refl
  | tail _ step ih => exact ih.tail (.plain pending step)

theorem one (step : Plain env orderly before after) : Plains env orderly before after := .single step

theorem loops (plains : Plains env orderly before after) : after.loops = before.loops := by
  induction plains with
  | refl => rfl
  | tail _ step ih => exact step.loops.trans ih

theorem registry (plains : Plains env orderly before after) (registry : Registry before) :
    Registry after := registry.steps (plains.steps none)

end Plains

/-! ## What is recorded on the way -/

theorem emitPeer_announced (env : Surroundings Regex) (kind : PeerEventKind) (id : UInt64) (type : UInt32)
    (known : server.TapsKnown) :
    Announced kind id server (server.emitPeer env kind id type) := by
  refine ⟨emitPeer_quiet env kind id type known, [.peer kind id type], ?_, ?_⟩
  · unfold emitPeer
    split
    · exact emit_wrote env _ server
    · rename_i off
      refine ⟨fun recorder session => ?_, fun records member => .inl member⟩
      rw [recording, session] at off
      exact absurd rfl off
  · intro each
    by_cases same : each = id
    · simp [Record.event?, same]
    · simp [Record.event?, same, Ne.symm same]

theorem Announced.quiet {kind : PeerEventKind} {id : UInt64} (announced : Announced kind id before middle)
    (quiet : Quiet middle after) (silent : Silent middle after) :
    Announced kind id before after := by
  obtain ⟨quiet', written, wrote, events⟩ := announced
  obtain ⟨more, wrote', silent⟩ := silent
  refine ⟨quiet'.trans quiet, written ++ more, wrote.trans wrote', ?_⟩
  intro each
  have none_ : more.filterMap (Record.event? each) = [] :=
    filterMap_eq_nil_iff.mpr fun record member => silent record member each
  rw [filterMap_append, none_, append_nil]
  exact events each

theorem Announced.after_wrote {kind : PeerEventKind} {id : UInt64} (quiet : Quiet before middle)
    (wrote : Wrote [] before middle) (announced : Announced kind id middle after) :
    Announced kind id before after := by
  obtain ⟨quiet', written, wrote', events⟩ := announced
  exact ⟨quiet.trans quiet', written, wrote.trans wrote', events⟩

/-! ## The end of a connection -/

def Idle (server : Server Regex) : Prop :=
  ∀ conn peer, server.connections conn = some peer → peer.leaving = false

theorem Idle.of_standing (idle : before.Idle) (conn : Pointer)
    (others : ∀ each, each ≠ conn → (after.connections each).map Connection.standing =
      (before.connections each).map Connection.standing)
    (here : ∀ now, after.connections conn = some now → now.leaving = false) : after.Idle := by
  intro each peer found
  by_cases same : each = conn
  · subst same
    exact here peer found
  · have standing := others each same
    rw [found] at standing
    obtain ⟨earlier, found', standing⟩ := map_eq_some_iff.mp standing.symm
    rw [← Connection.standing_field Connection.leaving rfl standing]
    exact idle each earlier found'

theorem Idle.put {conn : Pointer} {now : Connection} (idle : server.Idle)
    (here : now.leaving = false) : (server.put conn now).Idle := by
  intro each peer found
  obtain ⟨-, rfl⟩ | ⟨-, found⟩ := (found_put rfl).mp found
  · exact here
  · exact idle each peer found

theorem Idle.quiet (idle : before.Idle) (quiet : Quiet before after) : after.Idle := by
  intro conn _ found
  obtain ⟨earlier, found', standing⟩ := quiet.found_before found
  rw [← Connection.standing_field Connection.leaving rfl standing]
  exact idle conn earlier found'

section Ending

variable {conn : Pointer} {peer : Connection}

theorem tellManagerGone_routed (sound : Sound none server) (routed : server.Routed conn peer) :
    server.tellManagerGone conn = server.leave conn peer := by
  obtain ⟨found, registered, told, present⟩ := id routed
  have entry := (sound.byId _ nofun conn).mpr ⟨peer, routed, rfl⟩
  have listed := (sound.inList conn peer found).mpr routed
  simp only [tellManagerGone, found, told, registered, Bool.false_eq_true, if_false, if_true,
    unregisterConnection, modify, present, unregisterIndexed, update_self,
    map_some, entry, leaveRouting, untap, releaseOwner, unlist, listed, ofType,
    update_idem, leave, put, Connection.gone]

theorem tellManagerGone_replaced (found : server.connections conn = some peer)
    (registered : peer.registered = true) (told : peer.toldGone = false)
    (replaced : conn ∈ server.replaced) (unlisted : peer.inTypeList = false) :
    server.tellManagerGone conn = server.leaveReplaced conn peer := by
  simp only [tellManagerGone, found, told, registered, Bool.false_eq_true, if_false, if_true,
    unregisterConnection, modify, replaced, update_self, map_some, leaveRouting,
    untap, releaseOwner, update_idem, leaveReplaced, put, Connection.gone, unlisted]

theorem tellManagerGone_unregistered (found : server.connections conn = some peer)
    (unregistered : peer.registered = false) (told : peer.toldGone = false) :
    server.tellManagerGone conn =
      server.put conn { peer with toldGone := true, leaving := false } := by
  simp only [tellManagerGone, found, told, unregistered, Bool.false_eq_true, if_false]
  rw [modify_found _ found, unregistered]

structure Told (conn : Pointer) (peer : Connection) (before after : Server Regex) : Prop where
  here : ∃ now, after.connections conn = some now ∧ now.toldGone = true ∧
    now.shutsDown = peer.shutsDown ∧ now.closed = peer.closed ∧
    now.registered = peer.registered ∧ now.living = peer.living ∧
    now.leaving = false
  others : ∀ each, each ≠ conn → after.connections each = before.connections each
  loops : after.loops = before.loops
  left : before.Routed conn peer → after.connectionById[peer.peerId]? = none
  departed : ∀ each ∈ after.departed, each ≠ conn → each ∈ before.departed

theorem told_stays (steady : peer.Steady) (told : peer.toldGone = true) : peer.leaving = false := by
  by_contra leaving
  rw [Bool.not_eq_false] at leaving
  have notTold := (steady.leaving leaving).1
  cases told.symm.trans notTold

variable (env orderly) in
theorem tellManagerGone_plains (registry : Registry server)
    (found : server.connections conn = some peer) (dead : peer.living = false)
    (ending : peer.registered = true ∨ peer.shutsDown = true) :
    Plains env orderly server (server.tellManagerGone conn) ∧
      Told conn peer server (server.tellManagerGone conn) := by
  have others (now : Connection) (each : Pointer) (differ : each ≠ conn) :
      (server.put conn now).connections each = server.connections each :=
    update_of_ne differ _ _
  have here (now : Connection) : (server.put conn now).connections conn = some now :=
    update_self _ _ _
  cases told : peer.toldGone with
  | true =>
    have nothing : server.tellManagerGone conn = server := by
      simp only [tellManagerGone, found, told, if_true]
    rw [nothing]
    refine ⟨.refl, ⟨peer, found, told, rfl, rfl, rfl, rfl, ?_⟩, fun _ _ => rfl, rfl, ?_,
      fun _ departed _ => departed⟩
    · exact told_stays (registry.sound.steady conn peer found) told
    · rintro ⟨-, -, notTold, -⟩
      cases told.symm.trans notTold
  | false =>
    cases registered : peer.registered with
    | false =>
      rw [tellManagerGone_unregistered found registered told]
      have shutsDown : peer.shutsDown = true := by
        obtain isRegistered | shutsDown := ending
        · cases registered.symm.trans isRegistered
        · exact shutsDown
      refine ⟨.one (.told found registered shutsDown),
        ⟨_, here _, rfl, rfl, rfl, rfl, rfl, rfl⟩, others _, rfl, ?_,
        fun _ departed _ => departed⟩
      rintro ⟨-, isRegistered, -⟩
      cases registered.symm.trans isRegistered
    | true =>
      by_cases replaced : conn ∈ server.replaced
      · have unlisted : peer.inTypeList = false := by
          rw [← Bool.not_eq_true, registry.sound.inList conn peer found]
          exact fun routed => routed.2.2.2 replaced
        rw [tellManagerGone_replaced found registered told replaced unlisted]
        exact ⟨.one (.leftReplaced found registered told replaced dead),
          ⟨_, here _, rfl, rfl, rfl, rfl, rfl, rfl⟩, others _, rfl,
          fun routed => absurd replaced routed.2.2.2, fun _ departed _ => departed⟩
      · have routed : server.Routed conn peer := ⟨found, registered, told, replaced⟩
        rw [tellManagerGone_routed registry.sound routed]
        refine ⟨.one (.left routed dead),
          ⟨_, here _, rfl, rfl, rfl, rfl, rfl, rfl⟩, others _, rfl, fun _ => ?_,
          fun _ departed differ => Finset.mem_of_mem_insert_of_ne departed differ⟩
        exact (Lookup.erase_apply _ _ _).trans (if_pos rfl)

theorem endShutdown_eq (found : server.connections conn = some peer) : server.endShutdown env conn =
      (if conn ∈ server.departed then
        (server.close conn peer).emitPeer env .disconnected peer.peerId peer.peerType
      else server.close conn peer).modify conn
        fun peer => { peer with closed := true } := by
  by_cases departed : conn ∈ server.departed
  · simp only [endShutdown, modify, orphanOutgoingMessages, connectionClosed, recordDeparture, found,
      update_self, map_some, update_idem, departed, if_true, close, put]
  · simp only [endShutdown, modify, orphanOutgoingMessages, connectionClosed, recordDeparture, found,
      update_self, map_some, update_idem, departed, if_false, close, put,
      Finset.erase_eq_of_notMem departed]

/-- The connection has shut down, the others stand as they did. -/
structure Ended (conn : Pointer) (before after : Server Regex) : Prop where
  here : ∃ now, after.connections conn = some now ∧ now.shutsDown = true ∧
    now.registered = false ∧ now.leaving = false
  others : ∀ each, each ≠ conn → (after.connections each).map Connection.standing =
    (before.connections each).map Connection.standing
  young : ∀ each other, each ≠ conn → before.connections each = some other → other.Young →
    after.connections each = some other
  loops : after.loops = before.loops

structure Over (conn : Pointer) (before after : Server Regex) : Prop extends Ended conn before after where
  byId : after.connectionById = before.connectionById
  departed : after.departed = before.departed.erase conn

variable (env orderly) in
theorem endShutdown_plains (registry : Registry server)
    (found : server.connections conn = some peer) (shutsDown : peer.shutsDown = true)
    (told : peer.toldGone = true) (unclosed : peer.closed = false) :
    Plains env orderly server (server.endShutdown env conn) ∧ Over conn server (server.endShutdown env conn) := by
  have steady := registry.sound.steady conn peer found
  have closing : ∃ middle, Plain env orderly server middle ∧ Quiet (server.close conn peer) middle ∧
      server.endShutdown env conn =
        middle.modify conn fun peer => { peer with closed := true } := by
    rw [endShutdown_eq found]
    split
    · rename_i departed
      have announced := emitPeer_announced env .disconnected peer.peerId
        peer.peerType (registry.sound.close found shutsDown told).taps
      exact ⟨_, .closedDeparted found shutsDown told unclosed departed announced, announced.1, rfl⟩
    · rename_i stays
      exact ⟨_, .closed found shutsDown told unclosed stays, .refl _, rfl⟩
  obtain ⟨_, step, quiet, same⟩ := closing
  have closed : (server.close conn peer).connections conn = some
      { peer with registered := false, outgoingMax := 0, outgoing := [], ended := true } :=
    update_self _ _ _
  obtain ⟨now, found', standing⟩ := quiet.found closed
  have shuts : now.shutsDown = true :=
    (Connection.standing_field Connection.shutsDown rfl standing).trans shutsDown
  have isTold : now.toldGone = true :=
    (Connection.standing_field Connection.toldGone rfl standing).trans told
  have gone : now.registered = false :=
    Connection.standing_field Connection.registered rfl standing
  have old : ¬now.Young := by
    intro young
    cases young.2.1.symm.trans shuts
  have own : now.Own { now with closed := true } := by
    refine ⟨⟨_, _, _, _, _, _, _, _, _, rfl⟩, ?_, old⟩
    intro steady
    exact ⟨fun young => absurd young old, steady.shutsDown, steady.leaving, steady.ended, steady.told,
      fun _ => ⟨shuts, isTold, gone⟩⟩
  rw [same, modify_found _ found']
  refine ⟨(Plains.one step).tail (.own found' own), ?_⟩
  have stayed := told_stays steady told
  have stays : now.leaving = false :=
    (Connection.standing_field Connection.leaving rfl standing).trans stayed
  refine ⟨⟨⟨_, update_self _ _ _, shuts, gone, stays⟩, ?_, ?_, (quiet.field Server.loops rfl :)⟩,
    (quiet.field Server.connectionById rfl :), (quiet.field Server.departed rfl :)⟩
  · intro each differ
    refine Eq.trans (congrArg _ (update_of_ne differ _ _)) ((quiet.standing each).trans ?_)
    exact congrArg _ (update_of_ne differ _ _)
  · intro each other differ isFound young
    refine (update_of_ne differ _ _).trans (quiet.young each other ?_ young)
    exact (update_of_ne differ _ _).trans isFound

theorem beginShutdown_own (awake : peer.shutsDown = false) : peer.Own
      { peer with shutsDown := true, living := false, leaving := !peer.toldGone } := by
  refine ⟨⟨_, _, _, _, _, _, _, _, _, rfl⟩, ?_, (fun young => nomatch young.2.1)⟩
  intro steady
  refine ⟨(fun young => nomatch young.2.1), ?_, ?_, fun _ => rfl, fun _ => rfl, ?_⟩
  · intro _
    cases told : peer.toldGone with
    | true => exact ⟨rfl, .inl rfl⟩
    | false => exact ⟨rfl, .inr rfl⟩
  · intro leaving
    exact ⟨Bool.not_eq_true' _ ▸ leaving, rfl, .inr rfl⟩
  · intro closed
    have shutsDown := (steady.closed closed).1
    cases awake.symm.trans shutsDown

structure Shut (conn : Pointer) (peer : Connection) (before after : Server Regex) : Prop
    extends Ended conn before after where
  left : before.Routed conn peer → after.connectionById[peer.peerId]? = none
  departed : ∀ each ∈ after.departed, each ≠ conn ∧ each ∈ before.departed

theorem Clear.put {id : UInt64} {after : Connection} (clear : server.Clear id)
    (found : server.connections conn = some peer)
    (same : conn ∈ server.departed → after.peerId = peer.peerId) :
    (server.put conn after).Clear id := by
  intro each departed other isFound
  obtain ⟨rfl, rfl⟩ | ⟨_, isFound⟩ := (found_put rfl).mp isFound
  · rw [same departed]
    exact clear each departed peer found
  · exact clear each departed other isFound

theorem Shut.clear {id : UInt64} (shut : Shut conn peer before after)
    (clear : before.Clear id) : after.Clear id := by
  intro each departed _ found
  obtain ⟨differ, departed'⟩ := shut.departed each departed
  have standing := shut.others each differ
  rw [found] at standing
  obtain ⟨earlier, found', same⟩ := map_eq_some_iff.mp standing.symm
  have sameId := Connection.standing_field Connection.peerId rfl same
  rw [← sameId]
  exact clear each departed' earlier found'

theorem Shut.idle (shut : Shut conn peer before after) (idle : before.Idle) : after.Idle := by
  obtain ⟨_, found, -, -, stays⟩ := shut.here
  refine idle.of_standing conn shut.others fun other found' => ?_
  cases found.symm.trans found'
  exact stays

variable (env orderly) in
theorem dying_plains (registry : Registry server)
    (found : server.connections conn = some peer) (dead : peer.living = false)
    (shutsDown : peer.shutsDown = true) (unclosed : peer.closed = false) :
    Plains env orderly server ((server.tellManagerGone conn).endShutdown env conn) ∧
      Shut conn peer server ((server.tellManagerGone conn).endShutdown env conn) := by
  obtain ⟨tells, told⟩ := tellManagerGone_plains env orderly registry found dead (.inr shutsDown)
  obtain ⟨_, found', isTold, shuts, isClosed, -⟩ := told.here
  obtain ⟨ends, finished⟩ := endShutdown_plains env orderly (tells.registry registry) found'
    (shuts.trans shutsDown) isTold (isClosed.trans unclosed)
  refine ⟨tells.trans ends, ⟨finished.here, ?_, ?_, finished.loops.trans told.loops⟩, ?_, ?_⟩
  · intro each differ
    rw [finished.others each differ, told.others each differ]
  · intro each other differ isFound young
    refine finished.young each other differ ?_ young
    rw [told.others each differ]
    exact isFound
  · intro routed
    rw [finished.byId]
    exact told.left routed
  · intro each departed
    rw [finished.departed] at departed
    obtain ⟨differ, departed⟩ := Finset.mem_erase.mp departed
    exact ⟨differ, told.departed each departed differ⟩

theorem awake_unclosed (sound : Sound none server)
    (found : server.connections conn = some peer) (awake : peer.shutsDown = false) :
    peer.closed = false := by
  by_contra closed
  rw [Bool.not_eq_false] at closed
  have shutsDown := ((sound.steady conn peer found).closed closed).1
  cases awake.symm.trans shutsDown

theorem shutdown_eq (found : server.connections conn = some peer)
    (awake : peer.shutsDown = false) : server.shutdown env conn =
      ((server.put conn { peer with
        shutsDown := true, living := false, leaving := !peer.toldGone }).tellManagerGone
        conn).endShutdown env conn := by
  simp only [shutdown, found, awake, Bool.false_eq_true, if_false, beginShutdown, modify_found _ found]

variable (env orderly) in
/-- A shutdown is plain steps that leave the connection shut. -/
theorem shutdown_plains (registry : Registry server)
    (found : server.connections conn = some peer) (awake : peer.shutsDown = false) :
    Plains env orderly server (server.shutdown env conn) ∧ Shut conn peer server (server.shutdown env conn) := by
  have unclosed := awake_unclosed registry.sound found awake
  have begins : Plain env orderly server (server.put conn { peer with
      shutsDown := true, living := false, leaving := !peer.toldGone }) :=
    .own found (beginShutdown_own awake)
  obtain ⟨ends, shut⟩ := dying_plains env orderly (registry.plain begins) (update_self _ _ _) rfl
    rfl unclosed
  rw [shutdown_eq found awake]
  refine ⟨.head begins ends, ⟨shut.here, ?_, ?_, shut.loops⟩, ?_, shut.departed⟩
  · intro each differ
    exact (shut.others each differ).trans (congrArg _ (update_of_ne differ _ _))
  · intro each other differ isFound
    exact shut.young each other differ ((update_of_ne differ _ _).trans isFound)
  · rintro ⟨-, registered, notTold, present⟩
    exact shut.left ⟨update_self _ _ _, registered, notTold, present⟩

abbrev readsToTheEnd (peer : Connection) (deliver : Bool) : Connection :=
  { peer with living := false, delivering := deliver, leaving := true }

theorem beginReadingOn_own (registered : peer.registered = true)
    (notTold : peer.toldGone = false) (deliver : Bool) : peer.Own (readsToTheEnd peer deliver) := by
  refine ⟨⟨_, _, _, _, _, _, _, _, _, rfl⟩, ?_, not_young registered⟩
  intro steady
  exact ⟨fun young => absurd young (not_young registered), fun _ => ⟨rfl, .inr rfl⟩,
    fun _ => ⟨notTold, rfl, .inl registered⟩, fun _ => rfl, fun _ => rfl, steady.closed⟩

theorem orphan_own (registered : peer.registered = true) (dead : peer.living = false) :
    peer.Own { peer with outgoing := [], ended := true } := by
  refine ⟨⟨_, _, _, _, _, _, _, _, _, rfl⟩, ?_, not_young registered⟩
  intro steady
  exact ⟨fun young => absurd young (not_young registered), steady.shutsDown, steady.leaving,
    fun _ => dead, steady.told, steady.closed⟩

variable (env orderly) in
theorem readingOn_plains (registry : Registry server)
    (found : server.connections conn = some peer) (dead : peer.living = false)
    (registered : peer.registered = true) :
    Plains env orderly server ((server.tellManagerGone conn).orphanOutgoingMessages conn) := by
  obtain ⟨tells, told⟩ := tellManagerGone_plains env orderly registry found dead (.inl registered)
  obtain ⟨_, found', _, -, -, isRegistered, isDead, -⟩ := told.here
  rw [orphanOutgoingMessages, modify_found _ found']
  exact tells.tail (.own found' (orphan_own (isRegistered.trans registered) (isDead.trans dead)))

variable (env orderly) in
theorem readToTheEnd_plains (registry : Registry server)
    (found : server.connections conn = some peer) (registered : peer.registered = true)
    (notTold : peer.toldGone = false) (deliver : Bool) :
    Plains env orderly server (server.readToTheEnd conn deliver) := by
  have begins : Plain env orderly server (server.put conn (readsToTheEnd peer deliver)) :=
    .own found (beginReadingOn_own registered notTold deliver)
  have same : server.beginReadingOn conn deliver = server.put conn (readsToTheEnd peer deliver) := modify_found _ found
  rw [readToTheEnd, same]
  exact .head begins (readingOn_plains env orderly (registry.plain begins) (update_self _ _ _)
    rfl registered)

end Ending

/-! ## A peer's welcome -/

section Welcome

variable {conn : Pointer} {peer : Connection}

theorem Wrote.modify {written : List Record} (wrote : Wrote written before after)
    (conn : Pointer) (change : Connection → Connection) :
    Wrote written (before.modify conn change) (after.modify conn change) :=
  ⟨wrote.session, wrote.closed⟩

variable (env orderly) in
theorem startRest_quiet (found : server.connections conn = some peer)
    (awake : peer.shutsDown = false) (old : ¬peer.Young)
    (living : peer.living = true) (open_ : peer.ended = false)
    (room : peer.hasRoom true = true) :
    Quiet server (server.startRest env conn) ∧ Wrote [] server (server.startRest env conn) := by
  have queues : server.scheduleOwn conn server.welcomeFrame =
      (true, server.modify conn (.push server.welcomeFrame true)) := by
    simp only [scheduleOwn, found, living, open_, room, Bool.not_false, Bool.and_true, if_true]
  have same : server.startRest env conn = server.modify conn (.push server.welcomeFrame true) := by
    simp only [startRest, shutsDown, found, any_some, awake, Bool.false_eq_true, if_false, queues]
  rw [same]
  exact ⟨push_quiet _ _ found old, modify_wrote conn _⟩

variable (env orderly) in
theorem afterRegistration_announced (known : server.TapsKnown)
    (found : server.connections conn = some peer) (awake : peer.shutsDown = false)
    (old : ¬peer.Young) (living : peer.living = true)
    (open_ : peer.ended = false) (room : peer.hasRoom true = true) :
    Announced .connected peer.peerId server (server.afterRegistration env conn) := by
  obtain ⟨quiet, wrote⟩ := startRest_quiet env found awake old living open_ room
  obtain ⟨now, found', standing⟩ := quiet.found found
  have sameId := Connection.standing_field Connection.peerId rfl standing
  have known' := quiet.tapsKnown known
  have announced := emitPeer_announced env .connected now.peerId now.peerType known'
  rw [sameId] at announced
  have told := Announced.after_wrote quiet wrote announced
  simp only [afterRegistration, found', sameId]
  split
  · refine told.quiet (emitPeerRouting_quiet env now (announced.1.tapsKnown known')) ?_
    unfold emitPeerRouting
    split
    · exact Silent.emit env _ (fun _ => rfl) _
    · exact .refl _
  · exact told

def indexed (conn : Pointer) (welcome : WelcomeMessage) (owner : Owner) (server : Server Regex) :
    Server Regex :=
  (server.index conn welcome).modify conn fun peer =>
    { peer with keyFilters := welcome.keyFilter, keyOwner := owner }

variable {welcome : WelcomeMessage} {owner : Owner}

theorem indexed_connection (found : server.connections conn = some peer) (sameType : peer.peerType = welcome.type) :
    (server.indexed conn welcome owner).connections conn = some
        { peer with
          inTypeList := true, outgoingMax := server.outgoingQueueMaxSize peer.peerType
          keyFilters := welcome.keyFilter, keyOwner := owner } := by
  simp only [indexed, index, modify, update_self, found, map_some, sameType]

theorem indexed_registered (found : server.connections conn = some peer)
    (sameId : peer.peerId = welcome.id) (sameType : peer.peerType = welcome.type) :
    (server.indexed conn welcome owner).modify conn
        (fun peer => { peer with registered := true }) =
      server.join conn peer welcome.keyFilter owner := by
  simp only [indexed, index, modify, update_self, found, map_some, sameType,
    sameId, Connection.joined, join, put, update_idem]

theorem queueRoom (server : Server Regex) (type : UInt32) : 0 < server.outgoingQueueMaxSize type := by
  unfold outgoingQueueMaxSize
  split
  · cases server.config.peerDescription type with
    | none => decide
    | some entry => exact entry.queueSize_pos
  · decide

theorem empty_hasRoom (nothing : peer.outgoing = []) (room : 0 < peer.outgoingMax) : peer.hasRoom true = true := by
  simp only [Connection.hasRoom, Connection.outgoingQueueFull, nothing, length_nil]
  rw [decide_eq_false (by omega)]
  rfl

variable (env orderly) in
theorem welcomed (known : (server.join conn peer welcome.keyFilter owner).TapsKnown)
    (found : server.connections conn = some peer) (young : peer.Young)
    (steady : peer.Steady) (sameId : peer.peerId = welcome.id)
    (sameType : peer.peerType = welcome.type) :
    (server.indexed conn welcome owner).shutsDown conn = false ∧
      ((server.indexed conn welcome owner).afterRegistration env conn).shutsDown conn = false ∧
      Announced .connected peer.peerId (server.join conn peer welcome.keyFilter owner)
        (((server.indexed conn welcome owner).afterRegistration env conn).modify conn
          fun peer => { peer with registered := true }) ∧
      Announced .connected peer.peerId (server.join conn peer welcome.keyFilter owner)
        ((server.join conn peer welcome.keyFilter owner).afterRegistration env conn) := by
  obtain ⟨living, open_, nothing, -, -⟩ := steady.young young
  have awake := young.2.1
  have room := queueRoom server peer.peerType
  have here : (server.indexed conn welcome owner).connections conn = _ :=
    indexed_connection found sameType
  have knownIndexed : (server.indexed conn welcome owner).TapsKnown := by
    intro tap member
    obtain ⟨below, old⟩ := known tap member
    refine ⟨below, fun other found' => ?_⟩
    by_cases same : tap.conn = conn
    · rw [same, here] at found'
      cases found'
      exact fun young => nomatch young.2.2
    · refine old other ?_
      rw [← indexed_registered found sameId sameType, modify_connections, if_neg same]
      exact found'
  have announced := afterRegistration_announced env knownIndexed here awake
    (fun young => nomatch young.2.2) living open_ (empty_hasRoom nothing room)
  refine ⟨?_, ?_, ?_, ?_⟩
  · simp only [shutsDown, here, any_some]
    exact awake
  · obtain ⟨_, found', standing⟩ := announced.1.found here
    simp only [shutsDown, found', any_some]
    exact (Connection.standing_field Connection.shutsDown rfl standing).trans awake
  · rw [← indexed_registered found sameId sameType]
    obtain ⟨quiet, written, wrote, events⟩ := announced
    exact ⟨quiet.modify conn _ (fun _ => rfl) (fun _ _ young => nomatch young.1), written,
      wrote.modify conn _, events⟩
  · have joined : (server.join conn peer welcome.keyFilter owner).connections conn =
        some (peer.joined (server.outgoingQueueMaxSize peer.peerType) welcome.keyFilter owner) := update_self _ _ _
    have announced := afterRegistration_announced env known joined awake (not_young rfl) living
      open_ (empty_hasRoom nothing room)
    exact announced

structure Waiting (conn : Pointer) (welcome : WelcomeMessage) (peer : Connection)
    (server : Server Regex) : Prop where
  found : server.connections conn = some peer
  young : peer.Young
  sameId : peer.peerId = welcome.id
  sameType : peer.peerType = welcome.type

/-- What the registration proper comes to. -/
inductive Registration (env : Surroundings Regex) (orderly : Prop) (conn : Pointer) (welcome : WelcomeMessage)
    (server : Server Regex) : Server Regex → Prop
  | refused {before : Server Regex} {peer : Connection} :
      Plains env orderly server before → Waiting conn welcome peer before →
      (server.loops = false → before.Idle) →
      Registration env orderly conn welcome server (before.shutdown env conn)
  | free {before : Server Regex} {peer : Connection} :
      Plains env orderly server before → Waiting conn welcome peer before →
      (server.loops = false → before.Idle) →
      before.connectionById[welcome.id]? = none → (server.Clear welcome.id → before.Clear welcome.id) →
      Registration env orderly conn welcome server (before.index conn welcome)
  | finished {before middle : Server Regex} {peer earlier : Connection} {previous : Pointer} :
      Plains env orderly server before → Waiting conn welcome peer before →
      before.Routed previous earlier → earlier.peerId = welcome.id → before.loops = true →
      (server.Clear welcome.id → before.Clear welcome.id) →
      Announced .disconnected welcome.id (before.displace previous earlier) middle →
      Registration env orderly conn welcome server (middle.index conn welcome)

theorem Registration.following (plains : Plains env orderly before server)
    (clear : before.Clear welcome.id → server.Clear welcome.id) (loops : server.loops = before.loops) (registration : Registration env orderly conn welcome server after) :
    Registration env orderly conn welcome before after := by
  cases registration with
  | refused plains' waiting idle =>
    exact .refused (plains.trans plains') waiting fun one => idle (loops.trans one)
  | free plains' waiting idle absent clear' =>
    exact .free (plains.trans plains') waiting (fun one => idle (loops.trans one)) absent (clear' ∘ clear)
  | finished plains' waiting routed sameId several clear' announced =>
    exact .finished (plains.trans plains') waiting routed sameId several (clear' ∘ clear) announced

theorem replaceConnection_displace {previous : Pointer} {earlier : Connection}
    (sound : Sound none server) (routed : server.Routed previous earlier)
    (loops : server.loops = true) : server.replaceConnection env previous =
      (server.displace previous earlier).emitPeer env .disconnected earlier.peerId earlier.peerType := by
  have listed := (sound.inList previous earlier routed.1).mpr routed
  simp only [replaceConnection, loops, if_true, routed.1, unlist, listed, modify, displace, put, map_some]

variable (env orderly) in
theorem declareRouting_plains (waiting : Waiting conn welcome peer server) :
    Plains env orderly server (server.declareRouting conn welcome) ∧
      (server.Idle → (server.declareRouting conn welcome).Idle) ∧
      (server.declareRouting conn welcome).loops = server.loops ∧
      (server.Clear welcome.id → (server.declareRouting conn welcome).Clear welcome.id) ∧
      ∃ now, Waiting conn welcome now (server.declareRouting conn welcome) := by
  unfold declareRouting
  cases welcome.routing? with
  | none => exact ⟨.refl, id, rfl, id, peer, waiting⟩
  | some routing =>
    dsimp only
    rw [modify_found _ waiting.found]
    refine ⟨.one (.introduced peer.peerId peer.peerType routing waiting.found
      waiting.young), ?_, rfl, ?_, { peer with routing }, ?_⟩
    · intro idle
      exact idle.put (idle conn peer waiting.found)
    · intro clear
      exact clear.put waiting.found fun _ => rfl
    · exact ⟨update_self _ _ _, waiting.young, waiting.sameId, waiting.sameType⟩

variable (env orderly) in
theorem takePlace_cases (registry : Registry server) (idle : server.loops = false → server.Idle)
    (waiting : Waiting conn welcome peer server) (addresses : Address × Address) :
    Registration env orderly conn welcome server (server.takePlace env conn welcome addresses) := by
  unfold takePlace
  split
  · rename_i absent
    exact .free .refl waiting idle absent id
  · rename_i previous entry
    obtain ⟨earlier, routed, sameId⟩ := (registry.sound.byId _ nofun previous).mp entry
    rw [routed.1]
    dsimp only
    split
    · exact .refused .refl waiting idle
    · cases loops : server.loops with
      | true =>
        rw [replaceConnection_displace registry.sound routed loops]
        have announced := emitPeer_announced env .disconnected earlier.peerId earlier.peerType
          (registry.sound.displace routed).taps
        rw [sameId] at announced ⊢
        exact .finished .refl waiting routed sameId loops id announced
      | false =>
        have ends : server.replaceConnection env previous = server.shutdown env previous := by
          simp only [replaceConnection, loops, Bool.false_eq_true, if_false]
        rw [ends]
        have differ : conn ≠ previous := by
          rintro rfl
          cases routed.eq waiting.found
          exact not_young routed.2.1 waiting.young
        have awake : earlier.shutsDown = false := by
          by_contra shutsDown
          rw [Bool.not_eq_false] at shutsDown
          obtain told | leaving :=
            ((registry.sound.steady previous earlier routed.1).shutsDown shutsDown).2
          · cases routed.2.2.1.symm.trans told
          · cases (idle loops previous earlier routed.1).symm.trans leaving
        obtain ⟨plains, shut⟩ := shutdown_plains env orderly registry routed.1 awake
        refine .free plains ⟨?_, waiting.young, waiting.sameId, waiting.sameType⟩
          (fun _ => shut.idle (idle loops)) ?_ shut.clear
        · exact shut.young conn peer differ waiting.found waiting.young
        · rw [← sameId]
          exact shut.left routed

variable (env orderly) in
theorem registerIndexed_cases (registry : Registry server)
    (idle : server.loops = false → server.Idle) (waiting : Waiting conn welcome peer server) (addresses : Address × Address) :
    Registration env orderly conn welcome server (server.registerIndexed env conn welcome addresses) := by
  unfold registerIndexed
  split
  · exact .refused .refl waiting idle
  split
  · exact .refused .refl waiting idle
  obtain ⟨plains, idle', sameLoops, clear, _, waiting⟩ := declareRouting_plains env orderly waiting
  exact (takePlace_cases env orderly (plains.registry registry)
    (fun loops => idle' (idle (sameLoops ▸ loops))) waiting addresses).following plains clear sameLoops

theorem put_self (found : server.connections conn = some peer) : server.put conn peer = server := by
  unfold put
  rw [← found, update_eq_self]

theorem takeWelcome_shut (shut : server.shutsDown conn = true) : server.takeWelcome env conn = server := by
  simp only [takeWelcome, shut, if_true]

variable (env orderly) in
theorem index_announced (known : (server.join conn peer welcome.keyFilter owner).TapsKnown)
    (waiting : Waiting conn welcome peer server) (steady : peer.Steady) :
    Announced .connected peer.peerId (server.join conn peer welcome.keyFilter owner)
      (((server.index conn welcome).keepOwner env conn welcome owner).takeWelcome env conn) := by
  obtain ⟨found, young, sameId, sameType⟩ := waiting
  obtain ⟨awake, awake', several, single⟩ := welcomed env known found young steady sameId sameType
  have before : (server.index conn welcome).shutsDown conn = false := by
    simp only [shutsDown, index, modify, update_self, found, map_some, any_some]
    exact young.2.1
  have isIndexed : (server.index conn welcome).modify conn (fun peer =>
      { peer with keyFilters := welcome.keyFilter, keyOwner := owner }) =
        server.indexed conn welcome owner := rfl
  have sameLoops : (server.indexed conn welcome owner).loops = server.loops := rfl
  cases loops : server.loops with
  | true =>
    have keeps : (server.index conn welcome).keepOwner env conn welcome owner =
        (server.indexed conn welcome owner).afterRegistration env conn := by
      simp only [keepOwner, before, Bool.false_eq_true, if_false, isIndexed, sameLoops, loops, if_true, awake']
    have still := several.1.field Server.loops rfl
    rw [keeps]
    simp only [takeWelcome, awake', Bool.false_eq_true, if_false]
    rw [if_pos (still.trans loops)]
    exact several
  | false =>
    have keeps : (server.index conn welcome).keepOwner env conn welcome owner =
        server.indexed conn welcome owner := by
      simp only [keepOwner, before, Bool.false_eq_true, if_false, isIndexed, sameLoops, loops]
    have still : (server.join conn peer welcome.keyFilter owner).loops = false := loops
    rw [keeps]
    simp only [takeWelcome, awake, Bool.false_eq_true, if_false]
    rw [indexed_registered found sameId sameType, still]
    exact single

theorem join_idle (idle : server.Idle) (found : server.connections conn = some peer)
    (filters : List FilterMessage) : (server.join conn peer filters owner).Idle :=
  idle.put (idle conn peer found)

variable (env orderly) in
theorem keepOwner_steps {result : Server Regex} (registry : Registry server)
    (clear : orderly → server.Clear welcome.id)
    (registration : Registration env orderly conn welcome server result) :
    Steps env orderly (some ⟨conn, owner, welcome.keyFilter.map FilterMessage.filter⟩, server)
        (none, (result.keepOwner env conn welcome owner).takeWelcome env conn) ∧
      (server.loops = false → ((result.keepOwner env conn welcome owner).takeWelcome env conn).Idle) := by
  cases registration with
  | @refused before peer plains waiting idle =>
    have registry := plains.registry registry
    obtain ⟨ends, shut⟩ := shutdown_plains env orderly registry waiting.found waiting.young.2.1
    obtain ⟨now, found, shutsDown, unregistered, -⟩ := shut.here
    have isShut : (before.shutdown env conn).shutsDown conn = true := by
      simp only [Server.shutsDown, found, any_some, shutsDown]
    have keeps : (before.shutdown env conn).keepOwner env conn welcome owner =
        (before.shutdown env conn).releaseOwner conn owner := by
      simp only [keepOwner, isShut, if_true]
    have same : ((before.shutdown env conn).releaseOwner conn owner).shutsDown conn = true :=
      isShut
    rw [keeps, takeWelcome_shut same]
    have own : now.Own now := by
      refine ⟨⟨_, _, _, _, _, _, _, _, _, rfl⟩, id, fun young => ?_⟩
      cases young.2.1.symm.trans shutsDown
    refine ⟨(Plains.steps (plains.trans ends) _).tail ?_, fun one => shut.idle (idle one)⟩
    have step : Step env orderly
        (some ⟨conn, owner, welcome.keyFilter.map FilterMessage.filter⟩, before.shutdown env conn)
        (none, ((before.shutdown env conn).put conn now).releaseOwner conn owner) :=
      .refused found unregistered own
    rw [put_self found] at step
    exact step
  | @free before peer plains waiting idle absent clear' =>
    have registry := plains.registry registry
    have steady := registry.sound.steady conn peer waiting.found
    have free : ∀ each other, before.Routed each other → other.peerId ≠ peer.peerId := by
      intro each other routed same
      have entry := (registry.sound.byId _ nofun each).mpr ⟨other, routed, same⟩
      rw [waiting.sameId, absent] at entry
      cases entry
    have joined := Registry.join registry.sound registry.recounts welcome.keyFilter owner
      waiting.found waiting.young nofun free
    have announced := index_announced env joined.sound.taps waiting steady
    refine ⟨(plains.steps _).tail (.joined waiting.found waiting.young ?_ ?_ announced), fun one => ?_⟩
    · rw [waiting.sameId]
      exact absent
    · rw [waiting.sameId]
      exact clear' ∘ clear
    · exact (join_idle (idle one) waiting.found _).quiet announced.1
  | @finished before middle peer earlier previous plains waiting routed sameId loops clear' gone =>
    have registry := plains.registry registry
    have sameLoops : before.loops = server.loops := plains.loops
    have steady := registry.sound.steady conn peer waiting.found
    have found := displaced_young waiting.found waiting.young routed gone.1
    have equal := sameId.trans waiting.sameId.symm
    have joined := registry.finished welcome.keyFilter owner found waiting.young routed equal gone.1
    have announced := index_announced env joined.sound.taps
      ⟨found, waiting.young, waiting.sameId, waiting.sameType⟩ steady
    rw [← waiting.sameId] at gone
    refine ⟨(plains.steps _).tail (.joinedOver waiting.found waiting.young routed equal loops ?_ gone
      announced), fun one => ?_⟩
    · rw [waiting.sameId]
      exact clear' ∘ clear
    rw [← sameLoops, loops] at one
    cases one

variable (env orderly) in
theorem refused_steps (registry : Registry server)
    (waiting : Waiting conn welcome peer server) (filters : List KeyFilter) :
    Steps env orderly (some ⟨conn, owner, filters⟩, server)
        (none, ((server.releaseOwner conn owner).shutdown env conn).takeWelcome env conn) ∧
      (server.Idle → (((server.releaseOwner conn owner).shutdown env conn).takeWelcome env conn).Idle) := by
  have awake := waiting.young.2.1
  have found : (server.releaseOwner conn owner).connections conn = some peer := waiting.found
  have refused : Step env orderly (some ⟨conn, owner, filters⟩, server) (none, (server.put conn
      { peer with
        shutsDown := true, living := false, leaving := !peer.toldGone }).releaseOwner conn
        owner) := .refused waiting.found waiting.young.1 (beginShutdown_own awake)
  have registry' := registry.step refused
  have unclosed := awake_unclosed registry.sound waiting.found awake
  obtain ⟨ends, shut⟩ := dying_plains env orderly registry' (update_self _ _ _) rfl rfl unclosed
  have same : ((server.put conn
      { peer with
        shutsDown := true, living := false, leaving := !peer.toldGone }).releaseOwner conn
        owner) = (server.releaseOwner conn owner).put conn { peer with
          shutsDown := true, living := false, leaving := !peer.toldGone } := rfl
  rw [same, ← shutdown_eq found awake] at ends shut
  obtain ⟨_, found', shutsDown, -, stays⟩ := shut.here
  have isShut : ((server.releaseOwner conn owner).shutdown env conn).shutsDown conn = true := by
    simp only [Server.shutsDown, found', any_some, shutsDown]
  rw [takeWelcome_shut isShut]
  refine ⟨.head refused (ends.steps none), fun idle => idle.of_standing conn ?_ fun other found'' => ?_⟩
  · intro each differ
    rw [shut.others each differ]
    exact congrArg _ (update_of_ne differ _ _)
  · cases found'.symm.trans found''
    exact stays

variable (env orderly) in
/-- A registration is steps, the end of the one it replaces among them. -/
theorem registerConnection_steps (registry : Registry server)
    (idle : server.loops = false → server.Idle) (clear : orderly → server.Clear welcome.id)
    (waiting : Waiting conn welcome peer server) (addresses : Address × Address) :
    Steps env orderly (none, server)
        (none, (server.registerConnection env conn welcome addresses).takeWelcome env conn) ∧
      (server.loops = false →
        ((server.registerConnection env conn welcome addresses).takeWelcome env conn).Idle) := by
  unfold registerConnection
  split
  · obtain ⟨ends, shut⟩ := shutdown_plains env orderly registry waiting.found waiting.young.2.1
    obtain ⟨now, found, shutsDown, -⟩ := shut.here
    have isShut : (server.shutdown env conn).shutsDown conn = true := by
      simp only [Server.shutsDown, found, any_some, shutsDown]
    rw [takeWelcome_shut isShut]
    exact ⟨ends.steps none, fun one => shut.idle (idle one)⟩
  · have took : Step env orderly (none, server) _ := .took waiting.found waiting.young
    have registry' := registry.step took
    dsimp only at took registry' ⊢
    generalize server.keyPatterns.addOwner = handed at *
    obtain ⟨owner, keyPatterns⟩ := handed
    dsimp only at took registry' ⊢
    have waiting' : Waiting conn welcome peer
        { server with keyPatterns, owned := server.owned ++ [OwnerTurn.taken conn owner] } :=
      ⟨waiting.found, waiting.young, waiting.sameId, waiting.sameType⟩
    split
    · obtain ⟨steps, idle'⟩ := refused_steps env orderly registry' waiting' []
      exact ⟨.head took steps, fun one => idle' (idle one)⟩
    · rename_i keyPatterns' set
      have declared : Step env orderly (some ⟨conn, owner, []⟩,
            { server with keyPatterns, owned := server.owned ++ [OwnerTurn.taken conn owner] })
          _ := .declared set
      have registry'' := registry'.step declared
      have registration := registerIndexed_cases env orderly registry'' idle
        ⟨waiting.found, waiting.young, waiting.sameId, waiting.sameType⟩ addresses
      obtain ⟨steps, idle'⟩ := keepOwner_steps env orderly registry'' clear registration
      exact ⟨.head took (.head declared steps), idle'⟩

variable (env orderly) in
theorem receiveWelcome_steps (registry : Registry server)
    (idle : server.loops = false → server.Idle) (clear : orderly → server.Clear welcome.id)
    (found : server.connections conn = some peer) (young : peer.Young)
    (addresses : Address × Address) :
    Steps env orderly (none, server) (none, server.receiveWelcome env conn welcome addresses) ∧
      (server.loops = false → (server.receiveWelcome env conn welcome addresses).Idle) := by
  have introduced : Plain env orderly server (server.put conn
      { peer with peerId := welcome.id, peerType := welcome.type }) :=
    .introduced welcome.id welcome.type peer.routing found young
  have same : server.modify conn (fun peer =>
      { peer with peerId := welcome.id, peerType := welcome.type }) = server.put conn
        { peer with peerId := welcome.id, peerType := welcome.type } := modify_found _ found
  have waiting : Waiting conn welcome _ (server.put conn
      { peer with peerId := welcome.id, peerType := welcome.type }) :=
    ⟨update_self _ _ _, young, rfl, rfl⟩
  have clear' (isOrderly : orderly) : (server.put conn
      { peer with peerId := welcome.id, peerType := welcome.type }).Clear welcome.id := by
    refine (clear isOrderly).put found fun departed => ?_
    obtain ⟨_, found', registered, -⟩ := registry.sound.departed conn departed
    cases found.symm.trans found'
    exact absurd young (not_young registered)
  obtain ⟨steps, idle'⟩ := registerConnection_steps env orderly (registry.plain introduced)
    (fun one => (idle one).put (idle one conn peer found)) clear' waiting addresses
  rw [receiveWelcome, same]
  exact ⟨.head (.plain none introduced) steps, idle'⟩

end Welcome

end Multiplexer.Server
