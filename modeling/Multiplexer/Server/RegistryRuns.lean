import Multiplexer.Server.RunSteps

/-! The registry of a server on several event loops, after any run of their turns. -/

set_option autoImplicit false

namespace Multiplexer.Server

open List

variable {Regex : Type} {server after : Server Regex} {env : Surroundings Regex} {orderly : Prop}

namespace Registry

theorem routed_iff (registry : Registry server) {conn : Pointer} {id : UInt64} {type : UInt32} :
    (∃ peer, server.Routed conn peer ∧ peer.peerId = id ∧ peer.peerType = type) ↔
      .registered id type conn ∈ server.turns ∧ .left conn ∉ server.turns ∧ ¬WasReplaced server.turns conn := by
  obtain ⟨_, recounts⟩ := registry
  constructor
  · rintro ⟨peer, routed, rfl, rfl⟩
    obtain ⟨found, registered, told, _⟩ := id routed
    exact ⟨recounts.registered conn peer found registered, recounts.staying conn peer found registered told,
      not_wasReplaced recounts.once (recounts.last conn peer routed)⟩
  · rintro ⟨turn, staying, notReplaced⟩
    obtain left | ⟨peer, found, registered, told, rfl, rfl⟩ := recounts.member id type conn turn
    · exact absurd left staying
    · refine ⟨peer, ⟨found, registered, told, fun member => ?_⟩, rfl, rfl⟩
      obtain replaced | ⟨_, _, _, isVacated⟩ := recounts.replaced conn member
      · exact notReplaced replaced
      · cases isVacated

theorem byId_iff (registry : Registry server) (id : UInt64) (conn : Pointer) :
    server.connectionById[id]? = some conn ↔
      lastRegistered id server.turns = some conn ∧ .left conn ∉ server.turns := by
  rw [registry.sound.byId id nofun conn]
  constructor
  · rintro ⟨peer, routed, rfl⟩
    exact ⟨registry.recounts.last conn peer routed,
      registry.recounts.staying conn peer routed.1 routed.2.1 routed.2.2.1⟩
  · rintro ⟨last, staying⟩
    obtain ⟨_, turn⟩ := mem_registrations.mp (mem_of_getLast? last)
    obtain ⟨peer, routed, sameId, -⟩ := registry.routed_iff.mpr
      ⟨turn, staying, not_wasReplaced registry.recounts.once last⟩
    exact ⟨peer, routed, sameId⟩

theorem byType_iff (registry : Registry server) (type : UInt32) (conn : Pointer) :
    conn ∈ server.ofType type ↔ ∃ id, .registered id type conn ∈ server.turns ∧
      .left conn ∉ server.turns ∧ ¬WasReplaced server.turns conn := by
  simp only [← registry.routed_iff]
  rw [registry.sound.byType]
  constructor
  · rintro ⟨peer, routed, sameType⟩
    exact ⟨peer.peerId, peer, routed, rfl, sameType⟩
  · rintro ⟨_, peer, routed, -, sameType⟩
    exact ⟨peer, routed, sameType⟩

end Registry

namespace Owning

variable {conn : Pointer} {owner : Owner}

theorem taken_unique {pending : Option Pending} (owning : Owning env pending server)
    {owner' : Owner} (taken : .taken conn owner ∈ server.owned)
    (taken' : .taken conn owner' ∈ server.owned) : owner = owner' := by
  by_contra differ
  obtain ⟨_, later, same⟩ := append_of_mem taken
  have once := owning.takenOnce
  rw [same, takers_append] at once
  have cons : takers (.taken conn owner :: later) = conn :: takers later := rfl
  rw [cons] at once
  obtain ⟨-, rest, apart⟩ := nodup_append.mp once
  rw [same] at taken'
  obtain inEarlier | inRest := mem_append.mp taken'
  · exact apart conn (mem_takers.mpr ⟨owner', inEarlier⟩) conn mem_cons_self rfl
  · obtain equal | inLater := mem_cons.mp inRest
    · cases equal
      exact differ rfl
    · exact (nodup_cons.mp rest).1 (mem_takers.mpr ⟨owner', inLater⟩)

theorem holds_iff (owning : Owning env none server) (registry : Registry server)
    (taken : .taken conn owner ∈ server.owned) : (∃ own, Holds none server conn owner own) ↔
      (∃ id type, .registered id type conn ∈ server.turns) ∧ .left conn ∉ server.turns := by
  obtain ⟨-, recounts⟩ := registry
  constructor
  · rintro ⟨_, ⟨peer, found, registered, told, -⟩ | isPending⟩
    · exact ⟨⟨_, _, recounts.registered conn peer found registered⟩,
        recounts.staying conn peer found registered told⟩
    · cases isPending
  · rintro ⟨⟨id, type, turn⟩, staying⟩
    obtain left | ⟨peer, found, registered, told, -⟩ := recounts.member id type conn turn
    · exact absurd left staying
    · have holds : Holds none server conn peer.keyOwner (peer.keyFilters.map FilterMessage.filter) :=
        .inl ⟨peer, found, registered, told, rfl, rfl⟩
      have taken' := (owning.held conn _ _ holds).1
      rw [owning.taken_unique taken taken']
      exact ⟨_, holds⟩

theorem count_taken_eq (owning : Owning env none server)
    (taken : .taken conn owner ∈ server.owned) : server.owned.count (.taken conn owner) = 1 := by
  have atMost := count_taken owning.takenOnce conn owner
  have atLeast := count_pos_iff.mpr taken
  omega

theorem released_or_holds (owning : Owning env none server) (taken : .taken conn owner ∈ server.owned) :
    .released conn owner ∈ server.owned ∨ ∃ own, Holds none server conn owner own := by
  obtain isReleaser | holds := owning.balanced conn owner taken
  · obtain ⟨owner', released⟩ := mem_releasers.mp isReleaser
    rw [← owning.taken_unique taken (owning.paired conn owner' released)] at released
    exact .inl released
  · exact .inr holds

theorem unreleased_iff (owning : Owning env none server) (registry : Registry server)
    (taken : .taken conn owner ∈ server.owned) : .released conn owner ∉ server.owned ↔
      (∃ id type, .registered id type conn ∈ server.turns) ∧ .left conn ∉ server.turns := by
  rw [← owning.holds_iff registry taken]
  constructor
  · intro unreleased
    exact (owning.released_or_holds taken).resolve_left unreleased
  · rintro ⟨own, holds⟩ released
    exact (owning.held conn owner own holds).2 (mem_releasers.mpr ⟨owner, released⟩)

/-- The index of patterns is that of the owners taken and not released. -/
theorem serves_unreleased (owning : Owning env none server) : ∃ declared,
    KeyPatterns.Serves env.re2 server.keyPatterns declared ∧ ∀ owner, (declared owner).isSome ↔
      ∃ conn, .taken conn owner ∈ server.owned ∧ .released conn owner ∉ server.owned := by
  obtain ⟨declared, serves, holders⟩ := owning.serves
  refine ⟨declared, serves, fun owner => ?_⟩
  rw [Option.isSome_iff_exists]
  simp only [holders]
  constructor
  · rintro ⟨own, conn, holds⟩
    obtain ⟨taken, unreleased⟩ := owning.held conn owner own holds
    exact ⟨conn, taken, fun released => unreleased (mem_releasers.mpr ⟨owner, released⟩)⟩
  · rintro ⟨conn, taken, unreleased⟩
    obtain ⟨own, holds⟩ := (owning.released_or_holds taken).resolve_left unreleased
    exact ⟨own, conn, holds⟩

end Owning

theorem tells_replaced {conn : Pointer} (registry : Registry server)
    (replaced : WasReplaced server.turns conn)
    (tells : server.act env (.tells conn) = some after) :
    after.connectionById = server.connectionById ∧ after.connectionsByType = server.connectionsByType := by
  obtain ⟨sound, recounts⟩ := id registry
  simp only [act] at tells
  split at tells
  · cases tells
  rename_i peer found
  split at tells
  · rename_i goes
    rw [Bool.and_eq_true] at goes
    have notTold := ((sound.steady conn peer found).leaving goes.2).1
    have told : (server.tellManagerGone conn).connectionById = server.connectionById ∧
        (server.tellManagerGone conn).connectionsByType = server.connectionsByType := by
      cases registered : peer.registered with
      | false =>
        rw [tellManagerGone_unregistered found registered notTold]
        exact ⟨rfl, rfl⟩
      | true =>
        have isReplaced : conn ∈ server.replaced := by
          by_contra present
          have routed : server.Routed conn peer := ⟨found, registered, notTold, present⟩
          exact not_wasReplaced recounts.once (recounts.last conn peer routed) replaced
        have unlisted : peer.inTypeList = false := by
          rw [← Bool.not_eq_true, sound.inList conn peer found]
          exact fun routed => routed.2.2.2 isReplaced
        rw [tellManagerGone_replaced found registered notTold isReplaced unlisted]
        exact ⟨rfl, rfl⟩
    cases tells
    split
    · exact told
    · exact told
  · cases tells

/-- Over any run of several loops' turns: an id has the last connection registered with it that has
not left; a type's list holds those registered that neither left nor were replaced, each once; an
owner is taken once, released at most once and kept exactly while its connection is registered and
has not left, and the index of patterns is of those not released; and what a replaced connection is told leaves its successor where it is. -/
theorem registry_over_loops {instanceId : UInt64} {config : Config}
    {remoteRecording allowTap : Bool} {actions : List Action}
    (ran : run env actions (start instanceId true config remoteRecording allowTap) =
      some server) : (∀ (id : UInt64) conn, server.connectionById[id]? = some conn ↔
        lastRegistered id server.turns = some conn ∧ .left conn ∉ server.turns) ∧
      (∀ type, (server.ofType type).Nodup ∧ ∀ conn, conn ∈ server.ofType type ↔
        ∃ id, .registered id type conn ∈ server.turns ∧ .left conn ∉ server.turns ∧
          ¬WasReplaced server.turns conn) ∧
      (∀ conn owner, .taken conn owner ∈ server.owned → server.owned.count (.taken conn owner) = 1 ∧
          server.owned.count (.released conn owner) ≤ 1 ∧ (.released conn owner ∉ server.owned ↔
            (∃ id type, .registered id type conn ∈ server.turns) ∧ .left conn ∉ server.turns)) ∧
      (∀ conn owner, .released conn owner ∈ server.owned → .taken conn owner ∈ server.owned) ∧
      (∃ declared, KeyPatterns.Serves env.re2 server.keyPatterns declared ∧ ∀ owner, (declared owner).isSome ↔
        ∃ conn, .taken conn owner ∈ server.owned ∧ .released conn owner ∉ server.owned) ∧
      ∀ conn after, WasReplaced server.turns conn → server.act env (.tells conn) = some after →
          after.connectionById = server.connectionById ∧ after.connectionsByType = server.connectionsByType := by
  obtain ⟨-, registry, owning, -⟩ :=
    run_steps (start_held instanceId true config remoteRecording allowTap) ran
  refine ⟨registry.byId_iff, fun type => ⟨registry.sound.nodup type, registry.byType_iff type⟩, ?_,
    owning.paired, owning.serves_unreleased, fun conn after replaced => tells_replaced registry replaced⟩
  intro conn owner taken
  exact ⟨owning.count_taken_eq taken, count_released owning.releasedOnce conn owner,
    owning.unreleased_iff registry taken⟩

def takenOver : List Action :=
  [.accept, .accept, .welcome 0 { type := 100, id := 7 } (none, some []), .dies 0,
    .welcome 1 { type := 100, id := 7 } (some [], some []), .tells 0, .closes 0]

theorem takenOver_shows :
    (run plainSurroundings takenOver (start 1 true {} false false)).map (fun server =>
        (server.connectionById[(7 : UInt64)]?, server.ofType 100, server.turns, server.owned)) =
      some (some 1, [1], [.registered 7 100 0, .registered 7 100 1, .left 0],
        [.taken 0 0, .taken 1 1, .released 0 0]) := by
  decide

theorem registry_over_loops_takenOver :
    ∃ server, run plainSurroundings takenOver (start 1 true {} false false) = some server ∧
      server.connectionById[(7 : UInt64)]? = some 1 ∧ server.ofType 100 = [1] ∧
      lastRegistered 7 server.turns = some 1 ∧ .left 1 ∉ server.turns ∧
      server.owned.count (.released 0 0) = 1 := by
  obtain ⟨server, ran, shows⟩ := Option.map_eq_some_iff.mp takenOver_shows
  simp only [Prod.mk.injEq] at shows
  obtain ⟨entry, list, turns, owned⟩ := shows
  have theirs := registry_over_loops ran
  obtain ⟨last, staying⟩ := (theirs.1 7 1).mp entry
  refine ⟨server, ran, entry, list, last, staying, ?_⟩
  have taken : .taken 0 0 ∈ server.owned := by simp [owned]
  obtain ⟨-, atMost, unreleased⟩ := theirs.2.2.1 0 0 taken
  have released : .released 0 0 ∈ server.owned := by
    by_contra kept
    exact (unreleased.mp kept).2 (by simp [turns])
  have atLeast := count_pos_iff.mpr released
  omega

end Multiplexer.Server
