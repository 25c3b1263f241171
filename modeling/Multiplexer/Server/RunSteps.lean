import Multiplexer.Server.RoutingSteps

/-! Every action is steps, so that what every step keeps holds after every run. -/

set_option autoImplicit false

namespace Multiplexer.Server

open List Option Function

variable {Regex : Type} {server before after : Server Regex} {env : Surroundings Regex} {orderly : Prop}

structure Held (env : Surroundings Regex) (server : Server Regex) : Prop where
  registry : Registry server
  owning : Owning env none server
  idle : server.loops = false → server.Idle

section Actions

variable {conn : Pointer} {peer : Connection}

theorem ready_found (ready : server.ready conn = some peer) :
    server.connections conn = some peer ∧ peer.shutsDown = false ∧ peer.leaving = false := by
  obtain ⟨found, isReady⟩ := filter_eq_some_iff.mp ready
  simp only [Bool.and_eq_true, Bool.not_eq_true'] at isReady
  exact ⟨found, isReady⟩

theorem young_of_unregistered (sound : Sound none server)
    (found : server.connections conn = some peer) (awake : peer.shutsDown = false)
    (unregistered : peer.registered = false) : peer.Young := by
  refine ⟨unregistered, awake, ?_⟩
  rw [← Bool.not_eq_true, sound.inList conn peer found]
  intro routed
  cases routed.2.1.symm.trans unregistered

theorem readToTheEnd_idle (held : Held env server) (idle : server.Idle)
    (found : server.connections conn = some peer) (registered : peer.registered = true)
    (notTold : peer.toldGone = false) (deliver : Bool) :
    (server.readToTheEnd conn deliver).Idle := by
  have begins : Plain env False server (server.put conn (readsToTheEnd peer deliver)) :=
    .own found (beginReadingOn_own registered notTold deliver)
  have same : server.beginReadingOn conn deliver = server.put conn (readsToTheEnd peer deliver) := modify_found _ found
  obtain ⟨-, told⟩ := tellManagerGone_plains env False (held.registry.plain begins)
    (update_self _ _ _) rfl (.inl registered)
  obtain ⟨_, found', -, -, -, -, -, stays⟩ := told.here
  rw [readToTheEnd, same, orphanOutgoingMessages, modify_found _ found']
  refine idle.of_standing conn ?_ ?_
  · intro each differ
    refine Eq.trans (congrArg _ (update_of_ne differ _ _)) ?_
    rw [told.others each differ]
    exact congrArg _ (update_of_ne differ _ _)
  · intro _ isFound
    obtain ⟨-, rfl⟩ | ⟨differ, -⟩ := (found_put rfl).mp isFound
    · exact stays
    · exact absurd rfl differ

theorem written_own (steady : peer.Steady) (some_ : peer.outgoing.isEmpty = false) :
    peer.Own { peer with outgoing := peer.outgoing.tail } := by
  have old : ¬peer.Young := by
    intro young
    rw [(steady.young young).2.2.1] at some_
    cases some_
  refine ⟨⟨_, _, _, _, _, _, _, _, _, rfl⟩, ?_, old⟩
  intro steady
  exact ⟨fun young => absurd young old, steady.shutsDown, steady.leaving, steady.ended, steady.told, steady.closed⟩

theorem flushed_own (registered : peer.registered = true) :
    peer.Own { peer with living := false, ended := true } := by
  refine ⟨⟨_, _, _, _, _, _, _, _, _, rfl⟩, ?_, not_young registered⟩
  intro steady
  refine ⟨fun young => absurd young (not_young registered), fun shuts => ⟨rfl, ?_⟩, ?_,
    fun _ => rfl, fun _ => rfl, steady.closed⟩
  · exact (steady.shutsDown shuts).2
  · intro leaving
    obtain ⟨notTold, -, rest⟩ := steady.leaving leaving
    exact ⟨notTold, rfl, rest⟩

end Actions

/-- Whether an action finds the server such that the events of its peers stay in order. -/
def Orderly (action : Action) (server : Server Regex) : Prop :=
  match action with
  | .welcome _ welcome _ => server.Clear welcome.id
  | .message _ msg _ _ => asksToRecord msg = true → server.Settled
  | .startRecording _ _ => server.Settled
  | _ => True

/-- An action of the server is steps, and leaves a stopped one idle. -/
theorem act_steps {action : Action} (held : Held env server)
    (finds : orderly → server.Orderly action) (acted : server.act env action = some after) :
    Steps env orderly (none, server) (none, after) ∧ (server.loops = false → after.Idle) := by
  obtain ⟨registry, owning, idle⟩ := id held
  have sound := registry.sound
  have quietly {after : Server Regex} (quiet : Quiet server after) (silent : Silent server after) :
      Steps env orderly (none, server) (none, after) ∧ (server.loops = false → after.Idle) :=
    ⟨.single (.plain none (.quiet quiet silent)), fun one => (idle one).quiet quiet⟩
  have calmly {after : Server Regex} (calms : Calms env orderly server after) :
      Steps env orderly (none, server) (none, after) ∧ (server.loops = false → after.Idle) :=
    ⟨calms.plains.steps none, fun one => calms.idle (idle one)⟩
  cases action with
  | accept =>
    simp only [act] at acted
    split at acted
    · cases acted
    cases acted
    exact ⟨.single (.plain none .accept), fun one => (idle one).put rfl⟩
  | welcome conn welcome addresses =>
    simp only [act] at acted
    split at acted
    · cases acted
    rename_i peer ready
    split at acted
    · cases acted
    rename_i unregistered
    cases acted
    obtain ⟨found, awake, -⟩ := ready_found ready
    rw [Bool.not_eq_true] at unregistered
    exact receiveWelcome_steps env orderly registry idle finds found
      (young_of_unregistered sound found awake unregistered) addresses
  | message conn msg bytes outside =>
    simp only [act] at acted
    split at acted
    · cases acted
    rename_i peer ready
    split at acted
    · rename_i takes
      obtain ⟨found, -, -⟩ := ready_found ready
      simp only [Bool.and_eq_true, bne_iff_ne] at takes
      obtain ⟨⟨⟨registered, -⟩, notWelcome⟩, -⟩ := takes
      exact calmly (receiveMessage_calms registry owning ⟨peer, found, registered⟩ outside
        (fun asks isOrderly => finds isOrderly asks) notWelcome acted)
    · cases acted
  | heartbeat conn =>
    obtain ⟨peer, ready, acted⟩ := bind_eq_some_iff.mp acted
    obtain ⟨found, -, -⟩ := ready_found ready
    split at acted
    · rename_i registered
      cases acted
      refine quietly (scheduleOwn_quiet _ ?_) (.of_wrote (scheduleOwn_wrote _ _))
      exact Sender.old ⟨peer, found, registered⟩
    · cases acted
  | written conn =>
    simp only [act] at acted
    split at acted
    · cases acted
    rename_i peer found
    split at acted
    · cases acted
    rename_i some_
    cases acted
    rw [Bool.not_eq_true] at some_
    rw [modify_found _ found]
    exact ⟨.single (.plain none (.own found (written_own (sound.steady _ _ found) some_))),
      fun one => (idle one).put (idle one conn peer found)⟩
  | dies conn =>
    obtain ⟨peer, ready, same⟩ := map_eq_some_iff.mp acted
    obtain ⟨found, awake, -⟩ := ready_found ready
    subst same
    split
    · rename_i several
      rw [beginShutdown, modify_found _ found]
      refine ⟨.single (.plain none (.own found (beginShutdown_own awake))), fun one => ?_⟩
      cases several.symm.trans one
    · obtain ⟨ends, shut⟩ := shutdown_plains env orderly registry found awake
      exact ⟨ends.steps none, fun one => shut.idle (idle one)⟩
  | stopsWriting conn deliver =>
    simp only [act] at acted
    split at acted
    · cases acted
    rename_i peer ready
    split at acted
    · rename_i stays
      simp only [Bool.and_eq_true, Bool.not_eq_true'] at stays
      obtain ⟨found, -, -⟩ := ready_found ready
      obtain ⟨registered, notTold⟩ := stays
      cases acted
      split
      · rename_i several
        rw [beginReadingOn, modify_found _ found]
        refine ⟨.single (.plain none (.own found (beginReadingOn_own registered notTold deliver))), fun one => ?_⟩
        cases several.symm.trans one
      · exact ⟨(readToTheEnd_plains env orderly registry found registered notTold deliver).steps none,
          fun one => readToTheEnd_idle held (idle one) found registered notTold deliver⟩
    · cases acted
  | tells conn =>
    simp only [act] at acted
    split at acted
    · cases acted
    rename_i peer found
    split at acted
    · rename_i goes
      rw [Bool.and_eq_true] at goes
      obtain ⟨several, leaving⟩ := goes
      obtain ⟨-, dead, ending⟩ := (sound.steady conn peer found).leaving leaving
      cases acted
      refine ⟨?_, fun one => ?_⟩
      · split
        · exact (tellManagerGone_plains env orderly registry found dead ending).1.steps none
        · rename_i awake
          have registered : peer.registered = true := by
            obtain registered | shutsDown := ending
            · exact registered
            · exact absurd shutsDown awake
          exact (readingOn_plains env orderly registry found dead registered).steps none
      · cases several.symm.trans one
    · cases acted
  | closes conn =>
    simp only [act] at acted
    split at acted
    · cases acted
    rename_i peer found
    split at acted
    · rename_i goes
      simp only [Bool.and_eq_true, Bool.not_eq_true'] at goes
      obtain ⟨⟨⟨several, shutsDown⟩, stays⟩, unclosed⟩ := goes
      have told : peer.toldGone = true := by
        obtain told | leaving := ((sound.steady conn peer found).shutsDown shutsDown).2
        · exact told
        · cases stays.symm.trans leaving
      cases acted
      refine ⟨(endShutdown_plains env orderly registry found shutsDown told unclosed).1.steps none, fun one => ?_⟩
      cases several.symm.trans one
    · cases acted
  | flushed conn =>
    obtain ⟨peer, ready, acted⟩ := bind_eq_some_iff.mp acted
    obtain ⟨found, -, -⟩ := ready_found ready
    split at acted
    · rename_i goes
      simp only [Bool.and_eq_true] at goes
      obtain ⟨⟨⟨several, -⟩, registered⟩, -⟩ := goes
      cases acted
      rw [modify_found _ found]
      refine ⟨.single (.plain none (.own found (flushed_own registered))), fun one => ?_⟩
      cases several.symm.trans one
    · cases acted
  | destroy conn =>
    simp only [act] at acted
    split at acted
    · cases acted
    rename_i peer found
    split at acted
    · rename_i closed
      cases acted
      refine ⟨.single (.plain none (.destroyed found closed)), fun one each other found' => ?_⟩
      dsimp only at found'
      rw [update_apply] at found'
      split at found'
      · cases found'
      · exact idle one each other found'
    · cases acted
  | startRecording path opened =>
    cases acted
    exact calmly (.one (.startRecording path opened finds))
  | stopRecording =>
    cases acted
    exact quietly stopRecording_quiet (.of_wrote stopRecording_wrote)
  | loadRules config =>
    cases acted
    exact calmly (applyRules_calms registry config)
  | stop =>
    cases acted
    exact ⟨.single (.plain none .stopped), idle⟩

theorem Step.loops {pending pending' : Option Pending}
    (step : Step env orderly (pending, before) (pending', after)) : after.loops = before.loops := by
  cases step with
  | plain _ step => exact step.loops
  | joined _ _ _ _ announced => exact (announced.1.field Server.loops rfl :)
  | joinedOver _ _ _ _ _ _ gone announced =>
    have first := gone.1.field Server.loops rfl
    exact (announced.1.field Server.loops rfl :).trans first
  | _ => rfl

theorem Steps.loops {pending pending' : Option Pending}
    (steps : Steps env orderly (pending, before) (pending', after)) : after.loops = before.loops :=
  steps.keeps (fun _ server => server.loops = before.loops) rfl fun _ same step => step.loops.trans same

theorem Held.act {action : Action} (held : Held env server)
    (acted : server.act env action = some after) : Held env after := by
  obtain ⟨steps, idle⟩ := act_steps held False.elim acted
  exact ⟨held.registry.steps steps, held.owning.steps held.registry steps, fun one => idle (steps.loops ▸ one)⟩

theorem run_steps {actions : List Action} (held : Held env server)
    (ran : run env actions server = some after) :
    Steps env False (none, server) (none, after) ∧ Held env after := by
  induction actions generalizing server with
  | nil =>
    cases ran
    exact ⟨.refl, held⟩
  | cons _ _ ih =>
    obtain ⟨_, acted, ran⟩ := bind_eq_some_iff.mp ran
    obtain ⟨steps, -⟩ := act_steps held False.elim acted
    obtain ⟨steps', held'⟩ := ih (held.act acted) ran
    exact ⟨steps.trans steps', held'⟩

section Start

structure Fresh (server : Server Regex) : Prop where
  connections : ∀ conn, server.connections conn = none
  byId : ∀ id : UInt64, server.connectionById[id]? = none
  byType : ∀ type, server.ofType type = []
  replaced : server.replaced = ∅
  departed : server.departed = ∅
  keyPatterns : server.keyPatterns = {}
  taps : server.taps = []
  turns : server.turns = []
  owned : server.owned = []

section

variable (fresh : server.Fresh)

include fresh

theorem Fresh.found {conn : Pointer} {peer : Connection} :
    server.connections conn ≠ some peer := by
  rw [fresh.connections]
  exact some_ne_none peer |>.symm

theorem Fresh.routed (conn : Pointer) (peer : Connection) :
    ¬server.Routed conn peer := fun routed => fresh.found routed.1

theorem Fresh.sound : Sound none server where
  known _ _ found := absurd found fresh.found
  steady _ _ found := absurd found fresh.found
  byId _ _ conn := by
    rw [fresh.byId]
    constructor
    · intro entry
      cases entry
    · rintro ⟨peer, routed, -⟩
      exact absurd routed (fresh.routed conn peer)
  vacant conn peer routed := absurd routed (fresh.routed conn peer)
  nodup _ := by
    rw [fresh.byType]
    exact nodup_nil
  byType _ conn := by
    rw [fresh.byType]
    constructor
    · intro member
      cases member
    · rintro ⟨peer, routed, -⟩
      exact absurd routed (fresh.routed conn peer)
  inList _ _ found := absurd found fresh.found
  replaced _ member := by
    rw [fresh.replaced] at member
    simp at member
  departed _ member := by
    rw [fresh.departed] at member
    simp at member
  apart _ member := by
    rw [fresh.replaced] at member
    simp at member
  taps _ member := by
    rw [fresh.taps] at member
    cases member

theorem Fresh.recounts : Recounts none server where
  registeredKnown _ member := by
    rw [fresh.turns] at member
    cases member
  leftKnown _ member := by
    rw [fresh.turns] at member
    cases member
  once := by
    rw [fresh.turns]
    exact nodup_nil
  member _ _ _ member := by
    rw [fresh.turns] at member
    cases member
  registered _ _ found := absurd found fresh.found
  staying _ _ found := absurd found fresh.found
  fresh _ _ found := absurd found fresh.found
  last conn peer routed := absurd routed (fresh.routed conn peer)
  replaced _ member := by
    rw [fresh.replaced] at member
    simp at member

theorem Fresh.holds (conn : Pointer) (owner : Owner)
    (own : List KeyFilter) : ¬Holds none server conn owner own := by
  rintro (⟨_, found, -⟩ | isPending)
  · exact fresh.found found
  · cases isPending

theorem Fresh.owning : Owning env none server where
  serves := by
    refine ⟨fun _ => none, fresh.keyPatterns ▸ KeyPatterns.Serves.empty, fun owner own => ?_⟩
    constructor
    · intro isSome
      cases isSome
    · rintro ⟨conn, holds⟩
      exact absurd holds (fresh.holds conn owner own)
  alone _ _ _ _ _ holds := absurd holds (fresh.holds _ _ _)
  known _ member := by
    rw [fresh.owned] at member
    cases member
  takenOnce := by
    rw [fresh.owned]
    exact nodup_nil
  releasedOnce := by
    rw [fresh.owned]
    exact nodup_nil
  paired _ _ member := by
    rw [fresh.owned] at member
    cases member
  balanced _ _ member := by
    rw [fresh.owned] at member
    cases member
  held _ _ _ holds := absurd holds (fresh.holds _ _ _)
  fresh _ _ found := absurd found fresh.found
  underWay _ _ _ _ _ found := absurd found fresh.found

end

theorem start_fresh (instanceId : UInt64) (loops : Bool) (config : Config) (remoteRecording allowTap : Bool) :
    (start instanceId loops config remoteRecording allowTap : Server Regex).Fresh :=
  ⟨fun _ => rfl, fun _ => rfl, fun _ => rfl, rfl, rfl, rfl, rfl, rfl, rfl⟩

theorem start_held (instanceId : UInt64) (loops : Bool) (config : Config) (remoteRecording allowTap : Bool) :
    Held env (start instanceId loops config remoteRecording allowTap) :=
  have fresh := start_fresh instanceId loops config remoteRecording allowTap
  ⟨⟨fresh.sound, fresh.recounts⟩, fresh.owning, fun _ _ _ found => absurd found fresh.found⟩

end Start

end Multiplexer.Server
