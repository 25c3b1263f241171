import Multiplexer.Server.RegistrySteps
import Multiplexer.Server.Selection

/-! The routing of a message is steps: deliveries, which leave all but queues, records and
the order of the lists as they were, and what the protocol's own messages change. -/

set_option autoImplicit false

namespace Multiplexer.Server

open List Option

variable {Regex : Type} {server before middle after : Server Regex}
  {env : Surroundings Regex} {orderly : Prop} {handler handler' : MessageMetaHandler}

/-! ## Deliveries -/

inductive Delivery : Server Regex → Server Regex → Prop
  | quiet {before after : Server Regex} : Quiet before after → Silent before after → Delivery before after
  | picked {server : Server Regex} (type : UInt32) (eligible : List Pointer)
      (chosen : Option Pointer) (connections : List Pointer) :
      Picked (server.ofType type) eligible chosen connections →
      Delivery server
        { server.relist type connections with
          turns := server.turns ++ [.any type eligible chosen] }
  | relisted {server : Server Regex} (type : UInt32) :
      Delivery server (server.relist type (server.ofType type))

def Deliveries : Server Regex → Server Regex → Prop := Relation.ReflTransGen Delivery

theorem Delivery.plain (delivery : Delivery before after) : Plain env orderly before after := by
  cases delivery with
  | quiet quiet silent => exact .quiet quiet silent
  | picked type eligible chosen connections pick =>
    exact .picked type eligible chosen connections pick
  | relisted type => exact .relisted type

theorem Delivery.standing (delivery : Delivery before after) (conn : Pointer) :
    (after.connections conn).map Connection.standing = (before.connections conn).map Connection.standing := by
  cases delivery with
  | quiet quiet => exact quiet.standing conn
  | picked | relisted => rfl

theorem Delivery.keyed (delivery : Delivery before after) (keyed : Keyed env handler before) :
    Keyed env handler after := by
  cases delivery with
  | quiet quiet => exact keyed.quiet quiet
  | picked | relisted => exact keyed

namespace Deliveries

theorem refl (server : Server Regex) : Deliveries server server := Relation.ReflTransGen.refl

theorem trans (first : Deliveries before middle) (second : Deliveries middle after) :
    Deliveries before after := Relation.ReflTransGen.trans first second

theorem quiet (quiet : Quiet before after) (silent : Silent before after) :
    Deliveries before after := Relation.ReflTransGen.single (.quiet quiet silent)

theorem plains (deliveries : Deliveries before after) : Plains env orderly before after := by
  induction deliveries with
  | refl => exact Relation.ReflTransGen.refl
  | tail _ delivery ih => exact Relation.ReflTransGen.tail ih delivery.plain

theorem registry (env : Surroundings Regex) (deliveries : Deliveries before after)
    (registry : Registry before) : Registry after :=
  (deliveries.plains : Plains env False before after).registry registry

theorem keyed (deliveries : Deliveries before after) (keyed : Keyed env handler before) :
    Keyed env handler after := by
  induction deliveries with
  | refl => exact keyed
  | tail _ delivery ih => exact delivery.keyed ih

end Deliveries

/-! ## Queues and records -/

theorem record_quiet (known : server.TapsKnown) (recipient : UInt64) (recipientType : UInt32)
    (disposition : Disposition) (errorReported : Bool) : Quiet server
        (server.record env handler recipient recipientType disposition errorReported) ∧
      Silent server (server.record env handler recipient recipientType disposition errorReported) := by
  unfold record
  split
  · exact ⟨emit_quiet env _ known, Silent.emit env _ (fun _ => rfl) _⟩
  · exact ⟨.refl server, .refl server⟩

theorem record_deliveries (known : server.TapsKnown) (recipient : UInt64) (recipientType : UInt32)
    (disposition : Disposition) (errorReported : Bool) : Deliveries server
      (server.record env handler recipient recipientType disposition errorReported) :=
  .quiet (record_quiet known _ _ _ _).1 (record_quiet known _ _ _ _).2

variable {conn : Pointer} {peer : Connection}

theorem deliver_quiet (env : Surroundings Regex) (handler : MessageMetaHandler)
    (registry : Registry server) (routed : server.Routed conn peer) :
    Quiet server (server.deliver env handler conn) ∧ Silent server (server.deliver env handler conn) := by
  have pushed : Quiet server (server.modify conn (.push handler.raw false)) :=
    push_quiet _ _ routed.1 (not_young routed.2.1)
  obtain ⟨recorded, silent⟩ := record_quiet (pushed.tapsKnown registry.sound.taps)
    peer.peerId peer.peerType .delivered false
  rw [deliver, routed.1]
  exact ⟨pushed.trans recorded, (Silent.of_wrote (modify_wrote conn _)).trans silent⟩

theorem sendToOne_eq (registry : Registry server) (type : UInt32) : server.sendToOne env handler type =
      match server.choose handler (server.ofType type) with
      | none =>
        (0, { server.relist type (server.ofType type) with
          turns := server.turns ++ [.any type (server.eligible env handler type) none] })
      | some conn =>
        let delivered := server.deliver env handler conn
        (1, { delivered.relist type ((server.ofType type).erase conn ++ [conn]) with
          turns := delivered.turns ++
            [.any type (server.eligible env handler type) (some conn)] }) := by
  unfold sendToOne
  rw [pickOne_eq _ (registry.sound.standing type)]
  cases server.choose handler (server.ofType type) with
  | none | some => rfl

theorem choose_routed (registry : Registry server) {type : UInt32}
    (chosen : server.choose handler (server.ofType type) = some conn) :
    ∃ peer, server.Routed conn peer ∧ peer.peerType = type :=
  (registry.sound.byType type conn).mp (choose_mem chosen)

theorem sendToOne_deliveries (registry : Registry server) (keyed : Keyed env handler server)
    (type : UInt32) : Deliveries server (server.sendToOne env handler type).2 := by
  have picked := @choose_picked _ server handler (server.ofType type)
  rw [← keyed.eligible registry.sound] at picked
  rw [sendToOne_eq registry]
  cases chosen : server.choose handler (server.ofType type) with
  | none =>
    rw [chosen] at picked
    exact Relation.ReflTransGen.single (.picked type _ none _ picked)
  | some conn =>
    rw [chosen] at picked
    obtain ⟨_, routed, -⟩ := choose_routed registry chosen
    obtain ⟨quiet, silent⟩ := deliver_quiet env handler registry routed
    have same := quiet.field (fun server => server.ofType type) rfl
    refine (Deliveries.quiet quiet silent).tail (.picked type _ (some conn) _ ?_)
    rw [same]
    exact picked

variable (env handler) in
theorem sendCopy_quiet (registry : Registry server) (routed : server.Routed conn peer)
    (somebody : Bool) : Quiet server (server.sendCopy env handler somebody conn peer).2 ∧
      Silent server (server.sendCopy env handler somebody conn peer).2 := by
  have known := registry.sound.taps
  unfold sendCopy
  split
  · exact ⟨.refl server, .refl server⟩
  split
  · exact record_quiet known _ _ _ _
  split
  · exact record_quiet known _ _ _ _
  obtain ⟨_, _, -, -, queued⟩ | full | gone := queue_cases conn handler.raw false
  · have pushed : Quiet server (server.modify conn (.push handler.raw false)) :=
      push_quiet _ _ routed.1 (not_young routed.2.1)
    obtain ⟨recorded, silent⟩ := record_quiet (pushed.tapsKnown known) peer.peerId peer.peerType .delivered false
    rw [queued]
    exact ⟨pushed.trans recorded, (Silent.of_wrote (modify_wrote conn _)).trans silent⟩
  · rw [full]
    exact record_quiet known _ _ _ _
  · rw [gone]
    exact ⟨.refl server, .refl server⟩

def AllRouted (server : Server Regex) (list : List Pointer) : Prop :=
  ∀ conn ∈ list, ∃ peer, server.Routed conn peer

theorem AllRouted.quiet {list : List Pointer} (routed : before.AllRouted list)
    (quiet : Quiet before after) : after.AllRouted list := by
  intro conn member
  obtain ⟨_, isRouted⟩ := routed conn member
  obtain ⟨now, isRouted, -⟩ := quiet.alike.routed isRouted
  exact ⟨now, isRouted⟩

variable (env handler) in
theorem sendCopies_quiet (registry : Registry server) (somebody : Bool) (list : List Pointer)
    (routed : server.AllRouted list) : (sendCopies env handler somebody list server).2.1 = list ∧
      Quiet server (sendCopies env handler somebody list server).2.2 ∧
      Silent server (sendCopies env handler somebody list server).2.2 := by
  induction list generalizing server with
  | nil => exact ⟨rfl, .refl server, .refl server⟩
  | cons current rest ih =>
    obtain ⟨_, isRouted⟩ := routed current mem_cons_self
    obtain ⟨quiet, silent⟩ := sendCopy_quiet env handler registry isRouted somebody
    have routed' : server.AllRouted rest := fun conn member =>
      routed conn (mem_cons_of_mem _ member)
    obtain ⟨same, quiet', silent'⟩ := ih (registry.alike quiet.alike) (routed'.quiet quiet)
    simp only [sendCopies, isRouted.1]
    exact ⟨congrArg _ same, quiet.trans quiet', silent.trans silent'⟩

theorem Sound.allRouted (sound : Sound none server) (type : UInt32) : server.AllRouted (server.ofType type) := by
  intro conn member
  obtain ⟨peer, routed, -⟩ := (sound.byType type conn).mp member
  exact ⟨peer, routed⟩

theorem sendToAll_deliveries (registry : Registry server) (type : UInt32) :
    Deliveries server (server.sendToAll env handler type).2 := by
  obtain ⟨same, quiet, silent⟩ := sendCopies_quiet env handler registry
    (server.somebodyTakes handler (server.ofType type)) (server.ofType type)
    (registry.sound.allRouted type)
  simp only [sendToAll, same]
  have sameType := quiet.field (fun server => server.ofType type) rfl
  refine (Deliveries.quiet quiet silent).tail ?_
  have relisted := @Delivery.relisted _ (sendCopies env handler
    (server.somebodyTakes handler (server.ofType type)) (server.ofType type) server).2.2 type
  rw [sameType] at relisted
  exact relisted

/-! ## Rules -/

structure Routes (handler : MessageMetaHandler) (server : Server Regex)
    (handler' : MessageMetaHandler) (server' : Server Regex) : Prop where
  deliveries : Deliveries server server'
  report : ∃ deliveryError, handler' = { handler with deliveryError }

namespace Routes

theorem refl (handler : MessageMetaHandler) (server : Server Regex) :
    Routes handler server handler server := ⟨.refl server, handler.deliveryError, rfl⟩

theorem trans {handler'' : MessageMetaHandler} (first : Routes handler before handler' middle)
    (second : Routes handler' middle handler'' after) : Routes handler before handler'' after := by
  obtain ⟨deliveries, _, rfl⟩ := first
  obtain ⟨deliveries', error, rfl⟩ := second
  exact ⟨deliveries.trans deliveries', error, rfl⟩

theorem keyed (routes : Routes handler before handler' after) (keyed : Keyed env handler before) :
    Keyed env handler' after := by
  obtain ⟨deliveries, _, rfl⟩ := routes
  exact deliveries.keyed keyed

end Routes

theorem failedRule_report (rule : RoutingRule) (type : UInt32) (handler : MessageMetaHandler) :
    ∃ deliveryError, handler.failedRule rule type = { handler with deliveryError } := ⟨_, rfl⟩

section

variable (registry : Registry server)

include registry

section

variable (keyed : Keyed env handler server)

include keyed

theorem sendBy_deliveries (whom : Whom) (type : UInt32) :
    Deliveries server (server.sendBy env whom handler type).2 := by
  cases whom with
  | all => exact sendToAll_deliveries registry type
  | any => exact sendToOne_deliveries registry keyed type

theorem scheduleType_routes (rule : RoutingRule) (type : UInt32) :
    Routes handler server (server.scheduleType env rule type handler).2.1
      (server.scheduleType env rule type handler).2.2 := by
  have sent := sendBy_deliveries registry keyed rule.whom type
  have known := (sent.registry env registry).sound.taps
  simp only [scheduleType]
  split
  · refine ⟨sent.trans (record_deliveries known _ _ _ _), ?_⟩
    split
    · exact failedRule_report rule type handler
    · exact ⟨handler.deliveryError, rfl⟩
  · exact ⟨sent, handler.deliveryError, rfl⟩

theorem scheduleEach_routes (rule : RoutingRule) (types : List UInt32) :
    Routes handler server (scheduleEach env rule types handler server).2.1
      (scheduleEach env rule types handler server).2.2 := by
  induction types generalizing handler server with
  | nil => exact .refl handler server
  | cons type _ ih =>
    have first := scheduleType_routes registry keyed rule type
    exact first.trans (ih (first.deliveries.registry env registry) (first.keyed keyed))

theorem scheduleNamed_routes (rule : RoutingRule) :
    Routes handler server (server.scheduleNamed env rule handler).2.1
      (server.scheduleNamed env rule handler).2.2 := by
  unfold scheduleNamed
  split
  · exact scheduleEach_routes registry keyed rule _
  · exact scheduleType_routes registry keyed rule _

theorem scheduleRule_routes (rule : RoutingRule) : Routes handler server (server.scheduleRule env rule handler).2.1
      (server.scheduleRule env rule handler).2.2 := by
  have named := scheduleNamed_routes registry keyed rule
  have known := (named.deliveries.registry env registry).sound.taps
  simp only [scheduleRule]
  split
  · exact ⟨named.deliveries.trans (record_deliveries known _ _ _ _), named.report⟩
  · exact named

theorem scheduleRules_routes (rules : List RoutingRule) :
    Routes handler server (scheduleRules env rules handler server).1
      (scheduleRules env rules handler server).2 := by
  induction rules generalizing handler server with
  | nil => exact .refl handler server
  | cons rule _ ih =>
    have first := scheduleRule_routes registry keyed rule
    exact first.trans (ih (first.deliveries.registry env registry) (first.keyed keyed))

end

end

/-! ## To one peer -/

theorem notConnected_routes (known : server.TapsKnown) :
    Routes handler server (server.notConnected env handler).1 (server.notConnected env handler).2 := by
  unfold notConnected
  refine ⟨record_deliveries known _ _ _ _, ?_⟩
  dsimp only
  split
  · exact ⟨_, rfl⟩
  · exact ⟨handler.deliveryError, rfl⟩

theorem sendTo_routes (registry : Registry server) :
    Routes handler server (server.sendTo env handler).1 (server.sendTo env handler).2 := by
  have known := registry.sound.taps
  unfold sendTo
  split
  · exact notConnected_routes known
  · rename_i conn peer found
    obtain ⟨_, entry, found⟩ := bind_eq_some_iff.mp found
    obtain ⟨_, found, same⟩ := map_eq_some_iff.mp found
    cases same
    obtain ⟨_, isRouted, -⟩ := (registry.sound.byId _ nofun conn).mp entry
    cases isRouted.eq found
    obtain ⟨_, -, -, -, queued⟩ | full | gone := queue_cases conn handler.raw false
    · have pushed : Quiet server (server.modify conn (.push handler.raw false)) :=
        push_quiet _ _ found (not_young isRouted.2.1)
      rw [queued]
      exact ⟨(Deliveries.quiet pushed (.of_wrote (modify_wrote conn _))).trans
        (record_deliveries (pushed.tapsKnown known) _ _ _ _), handler.deliveryError, rfl⟩
    · rw [full]
      refine ⟨record_deliveries known _ _ _ _, ?_⟩
      dsimp only
      split
      · exact ⟨_, rfl⟩
      · exact ⟨handler.deliveryError, rfl⟩
    · rw [gone]
      exact notConnected_routes known

/-! ## What the protocol's own messages change -/

inductive Calm (env : Surroundings Regex) (orderly : Prop) : Server Regex → Server Regex → Prop
  | delivery {before after : Server Regex} : Delivery before after → Calm env orderly before after
  | startRecording {server : Server Regex} (path : Bytes) (opened : Except Bytes (Option Nat)) :
      (orderly → server.Settled) → Calm env orderly server (server.startRecording path opened).2
  | matched {server : Server Regex} (type : Nat) (key : Bytes) : Calm env orderly server
        { server with
          keyPatterns := (server.keyPatterns.matchKey env.re2 type key
            (setRun env type key server.keyPatterns)).2 }
  | filtered {server : Server Regex} {conn : Pointer} {peer : Connection}
      {filters : List FilterMessage} {keyPatterns : KeyPatterns Regex} :
      server.connections conn = some peer → peer.registered = true →
      peer.toldGone = false →
      server.keyPatterns.setFilters env.re2 peer.keyOwner
        (filters.map FilterMessage.filter) = (.ok (), keyPatterns) →
      Calm env orderly server
        { server.put conn { peer with keyFilters := filters } with keyPatterns }
  | routing {server : Server Regex} {conn : Pointer} {peer : Connection} (routing : Routing) :
      server.connections conn = some peer → peer.registered = true →
      Calm env orderly server (server.put conn { peer with routing })
  | ruled {server : Server Regex} (config : Config) : Calm env orderly server { server with config }
  | reported {server : Server Regex} (message : Message) :
      Calm env orderly server { server with reports := server.reports ++ [message] }
  | tapped {server : Server Regex} {peer : Connection} (tap : Tap) :
      server.connections tap.conn = some peer → peer.registered = true →
      Calm env orderly server { server with taps := server.taps ++ [tap] }

def Calms (env : Surroundings Regex) (orderly : Prop) : Server Regex → Server Regex → Prop :=
  Relation.ReflTransGen (Calm env orderly)

theorem routing_own (registered : peer.registered = true) (routing : Routing) :
    peer.Own { peer with routing } := by
  refine ⟨⟨_, _, _, _, _, _, _, _, _, rfl⟩, ?_, not_young registered⟩
  intro steady
  exact ⟨steady.young, steady.shutsDown, steady.leaving, steady.ended, steady.told, steady.closed⟩

theorem Calm.plain (calm : Calm env orderly before after) : Plain env orderly before after := by
  cases calm with
  | delivery delivery => exact delivery.plain
  | startRecording path opened settled => exact .startRecording path opened settled
  | matched type key => exact .matched type key
  | filtered found registered told set => exact .filtered found registered told set
  | routing routing found registered => exact .own found (routing_own registered routing)
  | ruled config => exact .ruled config
  | reported message => exact .reported message
  | tapped tap found registered => exact .tapped tap found registered

def Connection.lasting (peer : Connection) : Connection :=
  { peer.standing with routing := {}, keyFilters := [] }

theorem Connection.lasting_field {α : Type} {other : Connection} (field : Connection → α)
    (ignores : ∀ peer, field peer.lasting = field peer)
    (same : peer.lasting = other.lasting) : field peer = field other := by
  rw [← ignores peer, same, ignores]

theorem Connection.lasting_of_standing {other : Connection}
    (same : peer.standing = other.standing) : peer.lasting = other.lasting := by
  unfold lasting
  rw [same]

theorem map_lasting_of_standing {peer other : Option Connection}
    (same : peer.map Connection.standing = other.map Connection.standing) :
    peer.map Connection.lasting = other.map Connection.lasting := by
  cases peer with
  | none =>
    rw [map_none, eq_comm, map_eq_none_iff] at same
    rw [same]
  | some =>
    obtain ⟨_, rfl, standing⟩ := map_eq_some_iff.mp same.symm
    exact congrArg some (Connection.lasting_of_standing standing.symm)

theorem map_lasting_put {now : Connection} (found : server.connections conn = some peer)
    (same : now.lasting = peer.lasting) (each : Pointer) :
    ((server.put conn now).connections each).map Connection.lasting =
      (server.connections each).map Connection.lasting := by
  rw [put_connections]
  split
  · rename_i equal
    rw [equal, found]
    exact congrArg some same
  · rfl

theorem Calm.lasting (calm : Calm env orderly before after) (conn : Pointer) :
    (after.connections conn).map Connection.lasting = (before.connections conn).map Connection.lasting := by
  cases calm with
  | delivery delivery => exact map_lasting_of_standing (delivery.standing conn)
  | startRecording path opened =>
    exact map_lasting_of_standing ((startRecording_quiet path opened).standing conn)
  | filtered found registered told set | routing routing found registered =>
    refine map_lasting_put found ?_ conn
    rfl
  | _ => rfl

namespace Calms

theorem refl (server : Server Regex) : Calms env orderly server server := Relation.ReflTransGen.refl

theorem trans (first : Calms env orderly before middle) (second : Calms env orderly middle after) :
    Calms env orderly before after := Relation.ReflTransGen.trans first second

theorem one (calm : Calm env orderly before after) : Calms env orderly before after :=
  Relation.ReflTransGen.single calm

theorem of_deliveries (deliveries : Deliveries before after) : Calms env orderly before after := by
  induction deliveries with
  | refl => exact refl before
  | tail _ delivery ih => exact ih.trans (one (.delivery delivery))

theorem quiet (quiet : Quiet before after) (silent : Silent before after) :
    Calms env orderly before after := one (.delivery (.quiet quiet silent))

section

variable (calms : Calms env orderly before after)

include calms

theorem plains : Plains env orderly before after := by
  induction calms with
  | refl => exact Relation.ReflTransGen.refl
  | tail _ calm ih => exact Relation.ReflTransGen.tail ih calm.plain

theorem registry (registry : Registry before) : Registry after := calms.plains.registry registry

theorem lasting (conn : Pointer) : (after.connections conn).map Connection.lasting =
      (before.connections conn).map Connection.lasting := by
  induction calms with
  | refl => rfl
  | tail _ calm ih => exact (calm.lasting conn).trans ih

end

variable {conn : Pointer}

section

variable (calms : Calms env orderly before after)

include calms

theorem found {peer : Connection} (found : before.connections conn = some peer) :
    ∃ now, after.connections conn = some now ∧ now.lasting = peer.lasting := by
  have lasting := calms.lasting conn
  rw [found] at lasting
  exact map_eq_some_iff.mp lasting

theorem found_before {now : Connection} (found : after.connections conn = some now) :
    ∃ peer, before.connections conn = some peer ∧ peer.lasting = now.lasting := by
  have lasting := calms.lasting conn
  rw [found] at lasting
  exact map_eq_some_iff.mp lasting.symm

theorem idle (idle : before.Idle) : after.Idle := by
  intro conn _ found
  obtain ⟨peer, found, lasting⟩ := calms.found_before found
  rw [← Connection.lasting_field Connection.leaving (fun _ => rfl) lasting]
  exact idle conn peer found

theorem registered (registered : ∃ peer, before.connections conn = some peer ∧ peer.registered = true) :
    ∃ now, after.connections conn = some now ∧ now.registered = true := by
  obtain ⟨_, found, registered⟩ := registered
  obtain ⟨now, found, lasting⟩ := calms.found found
  exact ⟨now, found, (Connection.lasting_field Connection.registered (fun _ => rfl) lasting).trans registered⟩

end

end Calms

theorem Calms.owning {pending : Option Pending} (calms : Calms env orderly before after)
    (registry : Registry before) (owning : Owning env pending before) :
    Owning env pending after := owning.steps registry (calms.plains.steps pending)

def Sender (server : Server Regex) (conn : Pointer) : Prop :=
  ∃ peer, server.connections conn = some peer ∧ peer.registered = true

theorem Sender.old (sender : server.Sender conn) (peer : Connection)
    (found : server.connections conn = some peer) : ¬peer.Young := by
  obtain ⟨_, found', registered⟩ := sender
  cases found.symm.trans found'
  exact not_young registered

theorem reply_calms (sender : server.Sender handler.conn) (type : UInt32)
    (payload : Payload Message) : Calms env orderly server (server.reply env handler type payload) := by
  have drawn : Calms env orderly server (server.draw env).2 :=
    .quiet (draw_quiet env) (.of_wrote (.none_of rfl rfl))
  simp only [reply]
  split
  · exact drawn
  · rename_i raw _
    refine drawn.trans (.quiet (queue_quiet raw true ?_) (.of_wrote (queue_wrote _ raw true)))
    exact sender.old

section Controls

variable {peer : Connection} {control : PeerControl}

theorem changeFilters_calms (found : server.connections handler.conn = some peer)
    (registered : peer.registered = true) (notTold : peer.toldGone = false) :
    Calms env orderly server (server.changeFilters env handler peer control).2 := by
  unfold changeFilters
  split
  · exact .refl server
  split
  · exact .refl server
  split
  · rename_i keyPatterns set
    have same : ({ server with keyPatterns }.modify handler.conn fun peer =>
        { peer with keyFilters := control.keyFilter }) =
          { server.put handler.conn { peer with keyFilters := control.keyFilter } with
            keyPatterns } := by
      rw [modify_found _ (by exact found)]
      rfl
    rw [same]
    exact .one (.filtered found registered notTold set)
  · exact .refl server

theorem changeRouting_calms (known : server.TapsKnown) (found : server.connections handler.conn = some peer)
    (registered : peer.registered = true) (shown : Connection) :
    Calms env orderly server (server.changeRouting env handler shown control) := by
  unfold changeRouting
  split
  · exact .refl server
  · dsimp only
    rw [modify_found _ found]
    have changed : Calm env orderly server
        (server.put handler.conn { peer with routing := control.routing }) :=
      .routing control.routing found registered
    refine (Calms.one changed).trans (.quiet (emitPeerRouting_quiet env _ ?_) ?_)
    · exact (put_alike found (routing_own registered control.routing).similar).taps known
    · unfold emitPeerRouting
      split
      · exact Silent.emit env _ (fun _ => rfl) _
      · exact .refl _

theorem applyPeerControl_calms (registry : Registry server) (sender : server.Sender handler.conn) :
    Calms env orderly server (server.applyPeerControl env handler).2 := by
  obtain ⟨peer, found, registered⟩ := sender
  unfold applyPeerControl
  rw [found]
  dsimp only
  split
  · rename_i control _
    split
    · rename_i living
      have notTold : peer.toldGone = false := by
        by_contra told
        rw [Bool.not_eq_false] at told
        rw [(registry.sound.steady _ peer found).told told] at living
        cases living
      have filtered : Calms env orderly server (server.changeFilters env handler peer control).2 :=
        changeFilters_calms found registered notTold
      have known := (filtered.registry registry).sound.taps
      obtain ⟨now, found', isRegistered⟩ := filtered.registered ⟨peer, found, registered⟩
      split
      · rename_i changed same
        rw [same] at filtered known found'
        exact filtered.trans (changeRouting_calms known found' isRegistered peer)
      · rename_i changed same
        rw [same] at filtered
        exact filtered
    · exact .refl server
  · exact .refl server

theorem handlePeerControl_calms (registry : Registry server) (sender : server.Sender handler.conn) :
    Calms env orderly server (server.handlePeerControl env handler) := by
  have applied : Calms env orderly server (server.applyPeerControl env handler).2 :=
    applyPeerControl_calms registry sender
  simp only [handlePeerControl]
  exact applied.trans (reply_calms (applied.registered sender) _ _)

theorem untap_quiet (conn : Pointer) : Quiet server (server.untap conn) :=
  ⟨⟨_, _, _, _, _, rfl⟩, fun _ => rfl, fun _ _ found _ => found,
    fun tap member => ⟨tap, mem_of_mem_eraseP member, rfl⟩⟩

theorem applyRecordingControl_calms (outside : Outside) (sender : server.Sender handler.conn)
    (isControl : handler.msg.type = types.RECORDING_CONTROL)
    (settled : asksToRecord handler.msg = true → orderly → server.Settled) :
    Calms env orderly server (server.applyRecordingControl outside handler).2 := by
  obtain ⟨peer, found, registered⟩ := sender
  unfold applyRecordingControl
  split
  · rename_i control content
    split
    · rename_i label action
      split
      · exact .refl server
      split
      · exact .refl server
      have started : Calms env orderly server (server.startRecording outside.path outside.opened).2 := by
        refine .one (.startRecording _ _ (settled ?_))
        obtain ⟨_, limit⟩ := control
        cases action
        simp only [asksToRecord, content, isControl, beq_self_eq_true]
      split
      · rename_i same
        rw [same] at started
        exact started
      · rename_i same
        rw [same] at started
        exact started
    · exact .quiet stopRecording_quiet (.of_wrote stopRecording_wrote)
    · exact .refl server
    · split
      · exact .refl server
      split
      · exact .refl server
      exact .one (.tapped _ found registered)
    · exact .quiet (untap_quiet _) (.of_wrote (.none_of rfl rfl))
  · exact .refl server

theorem handleRecordingControl_calms (outside : Outside) (sender : server.Sender handler.conn)
    (isControl : handler.msg.type = types.RECORDING_CONTROL)
    (settled : asksToRecord handler.msg = true → orderly → server.Settled) :
    Calms env orderly server (server.handleRecordingControl env outside handler) := by
  have applied : Calms env orderly server (server.applyRecordingControl outside handler).2 :=
    applyRecordingControl_calms outside sender isControl settled
  simp only [handleRecordingControl]
  exact applied.trans (reply_calms (applied.registered sender) _ _)

theorem queueSizes_quiet (change : Connection → Connection) (keeps : ∀ peer, (change peer).standing = peer.standing)
    (entries : List (UInt64 × Pointer)) (server : Server Regex)
    (old : ∀ entry ∈ entries, ∀ peer, server.connections entry.2 = some peer → ¬peer.Young) :
    Quiet server (entries.foldl (fun server entry => server.modify entry.2 change) server) ∧
      Wrote [] server (entries.foldl (fun server entry => server.modify entry.2 change) server) := by
  induction entries generalizing server with
  | nil => exact ⟨.refl server, .refl server⟩
  | cons entry rest ih =>
    have first : Quiet server (server.modify entry.2 change) := by
      refine ⟨⟨_, _, _, _, _, rfl⟩, ?_, ?_, fun tap known => ⟨tap, known, rfl⟩⟩
      · intro conn
        rw [modify_connections]
        split
        · rename_i same
          rw [same, Option.map_map]
          exact congrArg (Option.map · _) (funext keeps)
        · rfl
      · intro conn peer found young
        rw [modify_connections]
        split
        · rename_i same
          exact absurd young (old entry mem_cons_self peer (same ▸ found))
        · exact found
    obtain ⟨quiet, wrote⟩ := ih (server.modify entry.2 change) (by
      intro other member _ found young
      obtain ⟨earlier, found', standing⟩ := first.found_before found
      exact old other (mem_cons_of_mem _ member) earlier found' (young.of_standing standing.symm))
    exact ⟨first.trans quiet, (modify_wrote entry.2 change).trans wrote⟩

theorem applyRules_calms (registry : Registry server) (config : Config) :
    Calms env orderly server (server.applyRules env config) := by
  have ruled : Calm env orderly server { server with config } := .ruled config
  have registry' := registry.plain ruled.plain
  obtain ⟨quiet, wrote⟩ := queueSizes_quiet (Connection.followRules config) (by
      intro _
      unfold Connection.followRules
      split
      · split
        · rfl
        · rfl
      · rfl)
    server.connectionById.toList { server with config } (by
      rintro ⟨id, conn⟩ member _ found
      have entry := Std.TreeMap.mem_toList_iff_getElem?_eq_some.mp member
      obtain ⟨_, routed, -⟩ := (registry.sound.byId id nofun conn).mp entry
      cases routed.eq found
      exact not_young routed.2.1)
  have followed := (Calms.one ruled).trans (.quiet quiet (.of_wrote wrote))
  simp only [applyRules]
  split
  · refine followed.trans (.quiet (emit_quiet env _ ?_) (Silent.emit env _ (fun _ => rfl) _))
    exact quiet.tapsKnown registry'.sound.taps
  · exact followed

theorem handleRulesControl_calms (registry : Registry server) (outside : Outside)
    (sender : server.Sender handler.conn) :
    Calms env orderly server (server.handleRulesControl env outside handler) := by
  have applied : Calms env orderly server (server.applyRulesControl env outside handler).2 := by
    unfold applyRulesControl
    split
    · split
      · exact applyRules_calms registry _
      · exact .refl server
      · exact .refl server
    · exact .refl server
    · exact .refl server
  simp only [handleRulesControl]
  exact applied.trans (reply_calms (applied.registered sender) _ _)

end Controls

/-! ## The routing path -/

theorem Routes.calms (routes : Routes handler before handler' after) : Calms env orderly before after :=
  .of_deliveries routes.deliveries

theorem matchKey_calm (type : UInt32) : Calm env orderly server (server.matchKey env type handler).2 := .matched _ _

section

variable (registry : Registry server)

include registry

theorem handleSearch_calms (owning : Owning env none server) :
    Calms env orderly server (server.handleSearch env handler).2 := by
  unfold handleSearch
  split
  · rename_i packetType _
    split
    · exact .refl server
    · rename_i rule _
      dsimp only
      split
      · rename_i hasKey
        have matched : Calm env orderly server
            (server.matchKey env packetType { handler with search := true, keyed := false }).2 :=
          matchKey_calm packetType
        have keyed := @matchKey_keyed _ _ env { handler with search := true, keyed := false } owning
          packetType hasKey
        exact (Calms.one matched).trans
          (scheduleNamed_routes (registry.plain matched.plain) keyed (searchRule rule)).calms
      · rename_i noKey
        have keyed : Keyed env { handler with search := true, keyed := false } server :=
          keyed_of_none (not_isSome_iff_eq_none.mp noKey) rfl
        exact (scheduleNamed_routes registry keyed (searchRule rule)).calms
  · exact .refl server

theorem handleMetaMessage_calms (owning : Owning env none server)
    (sender : server.Sender handler.conn) (outside : Outside)
    (settled : asksToRecord handler.msg = true → orderly → server.Settled)
    (notWelcome : handler.msg.type ≠ types.CONNECTION_WELCOME) :
    Calms env orderly server (server.handleMetaMessage env outside handler).2 := by
  have known := registry.sound.taps
  unfold handleMetaMessage
  dsimp only
  rw [if_neg notWelcome]
  split
  · exact .refl server
  split
  · exact .of_deliveries (record_deliveries known _ _ _ _)
  split
  · exact handlePeerControl_calms registry sender
  split
  · rename_i isControl
    exact handleRecordingControl_calms outside sender isControl settled
  split
  · exact handleRulesControl_calms registry outside sender
  split
  · exact handleSearch_calms registry owning
  · exact .of_deliveries (record_deliveries known _ _ _ _)

theorem handleByType_routes (keyed : Keyed env handler server) :
    Calms env orderly server (server.handleByType env handler).2 := by
  have known := registry.sound.taps
  unfold handleByType
  split
  · exact .of_deliveries (record_deliveries known _ _ _ _)
  · split
    · exact .of_deliveries (record_deliveries known _ _ _ _)
    · exact (scheduleRules_routes registry keyed _).calms

theorem route_calms (owning : Owning env none server) (keyed : handler.msg.toId = 0 → Keyed env handler server)
    (sender : server.Sender handler.conn) (outside : Outside)
    (settled : asksToRecord handler.msg = true → orderly → server.Settled)
    (notWelcome : handler.msg.type ≠ types.CONNECTION_WELCOME) :
    Calms env orderly server (server.route env outside handler).2 := by
  unfold route
  split
  · exact (sendTo_routes registry).calms
  · rename_i noTo
    have keyed := keyed (not_not.mp noTo)
    split
    · exact (scheduleRules_routes registry keyed _).calms
    split
    · exact handleMetaMessage_calms registry owning sender outside settled notWelcome
    · exact handleByType_routes registry keyed

theorem routeMessage_calms (owning : Owning env none server)
    (sender : server.Sender handler.conn) (outside : Outside) (fresh : handler.keyed = false)
    (settled : asksToRecord handler.msg = true → orderly → server.Settled)
    (notWelcome : handler.msg.type ≠ types.CONNECTION_WELCOME) :
    Calms env orderly server (server.routeMessage env outside handler).2 := by
  unfold routeMessage
  split
  · exact .of_deliveries (record_deliveries registry.sound.taps _ _ _ _)
  split
  · rename_i keyAndNoTo
    have matched : Calm env orderly server (server.matchKey env handler.msg.type handler).2 :=
      matchKey_calm handler.msg.type
    have keyed := matchKey_keyed owning handler.msg.type keyAndNoTo.1
    exact (Calms.one matched).trans (route_calms (registry.plain matched.plain)
      (owning.plain registry.sound matched.plain) (fun _ => keyed) sender outside settled notWelcome)
  · rename_i plainly
    refine route_calms registry owning (fun noTo => keyed_of_none ?_ fresh) sender outside settled notWelcome
    by_contra hasKey
    exact plainly ⟨isSome_iff_ne_none.mpr hasKey, noTo⟩

end

theorem makeReport_calms (msg : Message) (error : DeliveryError) :
    Calms env orderly server (server.makeReport env msg error).2 :=
  (Calms.quiet (draw_quiet env) (.of_wrote (.none_of rfl rfl))).trans (.one (.reported _))

theorem trimmed_type (mxmsg : Message) : (trimmed mxmsg).type = mxmsg.type := by
  unfold trimmed
  split <;> rfl

theorem makeReport_type (msg : Message) (error : DeliveryError) :
    (server.makeReport env msg error).1.type = types.DELIVERY_ERROR := by
  simp only [makeReport, deliveryErrorMessage]
  rw [trimmed_type]
  split <;> rfl

theorem asksToRecord_report (msg : Message) (error : DeliveryError) :
    asksToRecord (server.makeReport env msg error).1 = false := by
  have type : (server.makeReport env msg error).1.type = types.DELIVERY_ERROR :=
    makeReport_type msg error
  unfold asksToRecord
  split
  · rw [type]
    decide
  · rfl

theorem handleMessage_calms {msg : Message} {raw : Frame} {fuel : Nat} (registry : Registry server)
    (owning : Owning env none server) (sender : server.Sender conn) (outside : Outside)
    (settled : asksToRecord msg = true → orderly → server.Settled)
    (notWelcome : msg.type ≠ types.CONNECTION_WELCOME)
    (handled : handleMessage env outside fuel conn msg raw server = some after) :
    Calms env orderly server after := by
  induction fuel generalizing server msg raw with
  | zero => cases handled
  | succ fuel ih =>
    have routed : Calms env orderly server
        (server.routeMessage env outside { msg, conn, raw }).2 :=
      routeMessage_calms registry owning sender outside rfl settled notWelcome
    simp only [handleMessage] at handled
    split at handled
    · cases handled
      exact routed
    split at handled
    · cases handled
      exact routed
    rename_i error _ _
    have reported := routed.trans (makeReport_calms msg error)
    split at handled
    · cases handled
      exact reported
    · refine reported.trans (ih (reported.registry registry) (reported.owning registry owning)
        (reported.registered sender) (fun asks => ?_) ?_ handled)
      · rw [asksToRecord_report] at asks
        cases asks
      · rw [makeReport_type]
        decide

/-- A message that is no welcome neither registers nor ends anyone. -/
theorem receiveMessage_calms {msg : Message} {raw : Frame} {fuel : Nat} (registry : Registry server)
    (owning : Owning env none server) (sender : server.Sender conn) (outside : Outside)
    (settled : asksToRecord msg = true → orderly → server.Settled)
    (notWelcome : msg.type ≠ types.CONNECTION_WELCOME)
    (received : server.receiveMessage env outside fuel conn msg raw = some after) :
    Calms env orderly server after := by
  unfold receiveMessage at received
  split at received
  · cases received
    exact .refl server
  split at received
  · cases received
    exact .refl server
  · exact handleMessage_calms registry owning sender outside settled notWelcome received

end Multiplexer.Server
