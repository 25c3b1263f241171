import Multiplexer.Server.Steps

/-! The registry over whole runs: the index by id and the lists by type hold exactly the
connections in routing, and what the run did tells which those are. -/

set_option autoImplicit false

namespace Multiplexer.Server

open List Function

variable {Regex : Type} {server before after : Server Regex} {conn : Pointer}
  {peer : Connection}

/-! ## The history -/

def registrations (id : UInt64) (turns : List Turn) : List Pointer :=
  turns.filterMap fun
    | .registered each _ conn => if each = id then some conn else none
    | _ => none

def lastRegistered (id : UInt64) (turns : List Turn) : Option Pointer :=
  (registrations id turns).getLast?

def registrants (turns : List Turn) : List Pointer :=
  turns.filterMap fun
    | .registered _ _ conn => some conn
    | _ => none

def WasReplaced (turns : List Turn) (conn : Pointer) : Prop :=
  ∃ id type earlier later, turns = earlier ++ .registered id type conn :: later ∧
    ∃ type' conn', .registered id type' conn' ∈ later

@[simp] theorem registrations_append (id : UInt64) (first second : List Turn) :
    registrations id (first ++ second) = registrations id first ++ registrations id second :=
  filterMap_append

@[simp] theorem registrants_append (first second : List Turn) :
    registrants (first ++ second) = registrants first ++ registrants second :=
  filterMap_append

theorem mem_registrants {turns : List Turn} :
    conn ∈ registrants turns ↔ ∃ id type, .registered id type conn ∈ turns := by
  simp only [registrants, mem_filterMap]
  constructor
  · rintro ⟨turn, member, found⟩
    cases turn with
    | registered id type =>
      cases found
      exact ⟨id, type, member⟩
    | left | any => cases found
  · rintro ⟨_, _, member⟩
    exact ⟨_, member, rfl⟩

theorem mem_registrations {turns : List Turn} {id : UInt64} :
    conn ∈ registrations id turns ↔ ∃ type, .registered id type conn ∈ turns := by
  simp only [registrations, mem_filterMap]
  constructor
  · rintro ⟨turn, member, found⟩
    cases turn with
    | registered _ type =>
      simp only [Option.ite_none_right_eq_some, Option.some.injEq] at found
      obtain ⟨rfl, rfl⟩ := found
      exact ⟨type, member⟩
    | left | any => cases found
  · rintro ⟨_, member⟩
    exact ⟨_, member, if_pos rfl⟩

theorem lastRegistered_snoc (id : UInt64) (turns : List Turn) (turn : Turn)
    (other : ∀ type conn, turn ≠ .registered id type conn) :
    lastRegistered id (turns ++ [turn]) = lastRegistered id turns := by
  have nothing : registrations id [turn] = [] := by
    cases turn with
    | registered each type conn =>
      have differ : each ≠ id := fun same => other type conn (same ▸ rfl)
      simp [registrations, differ]
    | left | any => rfl
  rw [lastRegistered, registrations_append, nothing, append_nil, lastRegistered]

theorem lastRegistered_registered (id : UInt64) (type : UInt32) (conn : Pointer)
    (turns : List Turn) : lastRegistered id (turns ++ [.registered id type conn]) = some conn := by
  simp [lastRegistered, registrations]

theorem WasReplaced.append {turns : List Turn}
    (replaced : WasReplaced turns conn) (later : List Turn) :
    WasReplaced (turns ++ later) conn := by
  obtain ⟨id, type, earlier, rest, rfl, type', conn', member⟩ := replaced
  exact ⟨id, type, earlier, rest ++ later, by simp, type', conn', mem_append_left _ member⟩

theorem WasReplaced.of_member {turns : List Turn} {conn newcomer : Pointer} {id : UInt64}
    {type type' : UInt32} (member : .registered id type conn ∈ turns) :
    WasReplaced (turns ++ [.registered id type' newcomer]) conn := by
  obtain ⟨earlier, later, rfl⟩ := append_of_mem member
  exact ⟨id, type, earlier, later ++ [.registered id type' newcomer], by simp, type', newcomer,
    by simp⟩

theorem registers_once {id : UInt64} {type : UInt32} {earlier later : List Turn}
    (once : (registrants (earlier ++ .registered id type conn :: later)).Nodup) :
    conn ∉ registrants earlier ∧ conn ∉ registrants later := by
  rw [registrants_append] at once
  have cons : registrants (.registered id type conn :: later) = conn :: registrants later := rfl
  rw [cons] at once
  obtain ⟨-, rest, apart⟩ := nodup_append.mp once
  constructor
  · intro member
    exact apart conn member conn mem_cons_self rfl
  · exact (nodup_cons.mp rest).1

theorem not_wasReplaced {turns : List Turn} {id : UInt64}
    (once : (registrants turns).Nodup) (last : lastRegistered id turns = some conn) :
    ¬WasReplaced turns conn := by
  rintro ⟨each, type, _, later, rfl, type', _, member⟩
  obtain ⟨notEarlier, notLater⟩ := registers_once once
  obtain ⟨type'', here⟩ := mem_registrations.mp (mem_of_getLast? last)
  have same : id = each := by
    obtain inEarlier | inRest := mem_append.mp here
    · exact absurd (mem_registrants.mpr ⟨id, type'', inEarlier⟩) notEarlier
    · obtain equal | inLater := mem_cons.mp inRest
      · cases equal
        rfl
      · exact absurd (mem_registrants.mpr ⟨id, type'', inLater⟩) notLater
  subst same
  have after : registrations id later ≠ [] :=
    ne_nil_of_mem (mem_registrations.mpr ⟨type', member⟩)
  have cons : registrations id (.registered id type conn :: later) = conn :: registrations id later := by
    simp [registrations]
  rw [lastRegistered, registrations_append, cons, getLast?_append_of_ne_nil _ (by simp),
    getLast?_cons_of_ne_nil after] at last
  obtain ⟨type₂, inLater⟩ := mem_registrations.mp (mem_of_getLast? last)
  exact notLater (mem_registrants.mpr ⟨id, type₂, inLater⟩)

/-! ## The indexes -/

structure Sound (vacated : Option UInt64) (server : Server Regex) : Prop where
  known : ∀ conn peer, server.connections conn = some peer → conn < server.accepted
  steady : ∀ conn peer, server.connections conn = some peer → peer.Steady
  byId : ∀ id, vacated ≠ some id → ∀ conn, server.connectionById[id]? = some conn ↔
    ∃ peer, server.Routed conn peer ∧ peer.peerId = id
  vacant : ∀ conn peer, server.Routed conn peer → vacated ≠ some peer.peerId
  nodup : ∀ type, (server.ofType type).Nodup
  byType : ∀ type conn, conn ∈ server.ofType type ↔ ∃ peer, server.Routed conn peer ∧ peer.peerType = type
  inList : ∀ conn peer, server.connections conn = some peer →
    (peer.inTypeList = true ↔ server.Routed conn peer)
  replaced : ∀ conn ∈ server.replaced, ∃ peer, server.connections conn = some peer ∧ peer.registered = true
  departed : ∀ conn ∈ server.departed, ∃ peer, server.connections conn = some peer ∧ peer.registered = true ∧
      peer.toldGone = true
  apart : ∀ conn ∈ server.replaced, conn ∉ server.departed
  taps : server.TapsKnown

structure Recounts (vacated : Option UInt64) (server : Server Regex) : Prop where
  registeredKnown : ∀ conn ∈ registrants server.turns, conn < server.accepted
  leftKnown : ∀ conn, .left conn ∈ server.turns → conn < server.accepted
  once : (registrants server.turns).Nodup
  member : ∀ id type conn, .registered id type conn ∈ server.turns →
    .left conn ∈ server.turns ∨ ∃ peer, server.connections conn = some peer ∧
      peer.registered = true ∧ peer.toldGone = false ∧ peer.peerId = id ∧
      peer.peerType = type
  registered : ∀ conn peer, server.connections conn = some peer → peer.registered = true →
    .registered peer.peerId peer.peerType conn ∈ server.turns
  staying : ∀ conn peer, server.connections conn = some peer →
    peer.registered = true → peer.toldGone = false → .left conn ∉ server.turns
  fresh : ∀ conn peer, server.connections conn = some peer → peer.Young →
    conn ∉ registrants server.turns ∧ .left conn ∉ server.turns
  last : ∀ conn peer, server.Routed conn peer → lastRegistered peer.peerId server.turns = some conn
  replaced : ∀ conn ∈ server.replaced, WasReplaced server.turns conn ∨
    ∃ peer, server.connections conn = some peer ∧ peer.registered = true ∧ vacated = some peer.peerId

/-! ## Steps the registry does not see -/

structure Connection.Similar (before after : Connection) : Prop where
  registered : after.registered = before.registered
  inTypeList : after.inTypeList = before.inTypeList
  member : before.registered = true → after.toldGone = before.toldGone ∧
    after.peerId = before.peerId ∧ after.peerType = before.peerType
  steady : before.Steady → after.Steady
  young : after.Young → before.Young

structure Alike (before after : Server Regex) : Prop where
  forth : ∀ conn peer, before.connections conn = some peer →
    ∃ peer', after.connections conn = some peer' ∧ peer.Similar peer'
  back : ∀ conn peer', after.connections conn = some peer' →
    ∃ peer, before.connections conn = some peer ∧ peer.Similar peer'
  byId : after.connectionById = before.connectionById
  byType : ∀ type, after.ofType type = before.ofType type
  replaced : after.replaced = before.replaced
  departed : after.departed = before.departed
  turns : after.turns = before.turns
  accepted : after.accepted = before.accepted
  loops : after.loops = before.loops
  taps : before.TapsKnown → after.TapsKnown

namespace Connection

theorem Similar.refl (peer : Connection) : peer.Similar peer :=
  ⟨rfl, rfl, fun _ => ⟨rfl, rfl, rfl⟩, id, id⟩

theorem Similar.of_standing {before after : Connection} (same : after.standing = before.standing)
    (young : after.Young → after = before) : before.Similar after := by
  have registered := standing_field Connection.registered rfl same
  have told := standing_field Connection.toldGone rfl same
  have shuts := standing_field Connection.shutsDown rfl same
  have living := standing_field Connection.living rfl same
  have leaving := standing_field Connection.leaving rfl same
  have closed := standing_field Connection.closed rfl same
  have ended := standing_field Connection.ended rfl same
  refine ⟨registered, standing_field Connection.inTypeList rfl same, ?_, ?_, ?_⟩
  · intro _
    exact ⟨told, standing_field Connection.peerId rfl same, standing_field Connection.peerType rfl same⟩
  · intro steady
    refine ⟨?_, ?_, ?_, ?_, ?_, ?_⟩
    · intro isYoung
      rw [young isYoung]
      exact steady.young (isYoung.of_standing same)
    · rw [shuts, living, told, leaving]
      exact steady.shutsDown
    · rw [leaving, told, living, registered, shuts]
      exact steady.leaving
    · rw [ended, living]
      exact steady.ended
    · rw [told, living]
      exact steady.told
    · rw [closed, shuts, told, registered]
      exact steady.closed
  · intro isYoung
    exact isYoung.of_standing same

end Connection

namespace Alike

section

variable (alike : Alike before after)

include alike

theorem routed (routed : before.Routed conn peer) :
    ∃ peer', after.Routed conn peer' ∧ peer'.peerId = peer.peerId ∧ peer'.peerType = peer.peerType := by
  obtain ⟨found, registered, told, present⟩ := routed
  obtain ⟨peer', found, similar⟩ := alike.forth conn peer found
  obtain ⟨told', id, type⟩ := similar.member registered
  refine ⟨peer', ⟨found, ?_, ?_, ?_⟩, id, type⟩
  · rw [similar.registered, registered]
  · rw [told', told]
  · rw [alike.replaced]
    exact present

theorem routed_before {peer' : Connection} (routed : after.Routed conn peer') :
    ∃ peer, before.Routed conn peer ∧ peer'.peerId = peer.peerId ∧ peer'.peerType = peer.peerType := by
  obtain ⟨found, registered, told, present⟩ := routed
  obtain ⟨peer, found, similar⟩ := alike.back conn peer' found
  rw [similar.registered] at registered
  obtain ⟨told', id, type⟩ := similar.member registered
  refine ⟨peer, ⟨found, registered, ?_, ?_⟩, id, type⟩
  · rw [← told', told]
  · rw [← alike.replaced]
    exact present

theorem sound {vacated : Option UInt64} (sound : Sound vacated before) : Sound vacated after := by
  refine ⟨?_, ?_, ?_, ?_, ?_, ?_, ?_, ?_, ?_, ?_, alike.taps sound.taps⟩
  · intro conn peer found
    obtain ⟨peer, found, -⟩ := alike.back conn peer found
    rw [alike.accepted]
    exact sound.known conn peer found
  · intro conn peer found
    obtain ⟨peer, found, similar⟩ := alike.back conn peer found
    exact similar.steady (sound.steady conn peer found)
  · intro id notVacated conn
    rw [alike.byId, sound.byId id notVacated]
    constructor
    · rintro ⟨peer, routed, rfl⟩
      obtain ⟨peer', routed, id, -⟩ := alike.routed routed
      exact ⟨peer', routed, id⟩
    · rintro ⟨peer', routed, rfl⟩
      obtain ⟨peer, routed, id, -⟩ := alike.routed_before routed
      exact ⟨peer, routed, id.symm⟩
  · intro conn peer' routed
    obtain ⟨peer, routed, id, -⟩ := alike.routed_before routed
    rw [id]
    exact sound.vacant conn peer routed
  · intro type
    rw [alike.byType]
    exact sound.nodup type
  · intro type conn
    rw [alike.byType, sound.byType]
    constructor
    · rintro ⟨peer, routed, rfl⟩
      obtain ⟨peer', routed, -, type⟩ := alike.routed routed
      exact ⟨peer', routed, type⟩
    · rintro ⟨peer', routed, rfl⟩
      obtain ⟨peer, routed, -, type⟩ := alike.routed_before routed
      exact ⟨peer, routed, type.symm⟩
  · intro conn peer' found'
    obtain ⟨peer, found, similar⟩ := alike.back conn peer' found'
    rw [similar.inTypeList, sound.inList conn peer found]
    constructor
    · intro routed
      obtain ⟨peer₂, routed, -⟩ := alike.routed routed
      obtain rfl : peer₂ = peer' := by
        rw [routed.1] at found'
        exact Option.some.inj found'
      exact routed
    · intro routed
      obtain ⟨peer₂, routed, -⟩ := alike.routed_before routed
      obtain rfl : peer₂ = peer := by
        rw [routed.1] at found
        exact Option.some.inj found
      exact routed
  · intro conn member
    rw [alike.replaced] at member
    obtain ⟨peer, found, registered⟩ := sound.replaced conn member
    obtain ⟨peer', found, similar⟩ := alike.forth conn peer found
    exact ⟨peer', found, similar.registered.trans registered⟩
  · intro conn member
    rw [alike.departed] at member
    obtain ⟨peer, found, registered, told⟩ := sound.departed conn member
    obtain ⟨peer', found, similar⟩ := alike.forth conn peer found
    exact ⟨peer', found, similar.registered.trans registered, (similar.member registered).1.trans told⟩
  · rw [alike.replaced, alike.departed]
    exact sound.apart

theorem recounts {vacated : Option UInt64}
    (recounts : Recounts vacated before) : Recounts vacated after := by
  refine ⟨?_, ?_, ?_, ?_, ?_, ?_, ?_, ?_, ?_⟩
  · rw [alike.turns, alike.accepted]
    exact recounts.registeredKnown
  · rw [alike.turns, alike.accepted]
    exact recounts.leftKnown
  · rw [alike.turns]
    exact recounts.once
  · intro id type conn turn
    rw [alike.turns] at turn ⊢
    obtain left | ⟨peer, found, registered, told, rfl, rfl⟩ :=
      recounts.member id type conn turn
    · exact .inl left
    · obtain ⟨peer', found, similar⟩ := alike.forth conn peer found
      obtain ⟨told', id, type⟩ := similar.member registered
      exact .inr ⟨peer', found, similar.registered.trans registered, told'.trans told, id, type⟩
  · intro conn peer' found registered
    obtain ⟨peer, found, similar⟩ := alike.back conn peer' found
    rw [similar.registered] at registered
    obtain ⟨-, id, type⟩ := similar.member registered
    rw [alike.turns, id, type]
    exact recounts.registered conn peer found registered
  · intro conn peer' found registered told
    obtain ⟨peer, found, similar⟩ := alike.back conn peer' found
    rw [similar.registered] at registered
    rw [(similar.member registered).1] at told
    rw [alike.turns]
    exact recounts.staying conn peer found registered told
  · intro conn peer' found young
    obtain ⟨peer, found, similar⟩ := alike.back conn peer' found
    rw [alike.turns]
    exact recounts.fresh conn peer found (similar.young young)
  · intro conn peer' routed
    obtain ⟨peer, routed, id, -⟩ := alike.routed_before routed
    rw [alike.turns, id]
    exact recounts.last conn peer routed
  · intro conn member
    rw [alike.replaced] at member
    rw [alike.turns]
    obtain replaced | ⟨peer, found, registered, rfl⟩ := recounts.replaced conn member
    · exact .inl replaced
    · obtain ⟨peer', found, similar⟩ := alike.forth conn peer found
      exact .inr ⟨peer', found, similar.registered.trans registered,
        by rw [(similar.member registered).2.1]⟩

end

end Alike

theorem Quiet.alike (quiet : Quiet before after) : Alike before after := by
  obtain ⟨_, _, _, _, _, same⟩ := quiet.same
  have youngs (conn : Pointer) (peer peer' : Connection) (found : before.connections conn = some peer)
      (found' : after.connections conn = some peer')
      (standing : peer'.standing = peer.standing) : peer.Similar peer' := by
    refine .of_standing standing ?_
    intro young
    have kept := quiet.young conn peer found (young.of_standing standing)
    rw [kept] at found'
    exact (Option.some.inj found').symm
  refine ⟨?_, ?_, ?_, ?_, ?_, ?_, ?_, ?_, ?_, quiet.tapsKnown⟩
  · intro conn peer found
    obtain ⟨peer', found', standing⟩ := quiet.found found
    exact ⟨peer', found', youngs conn _ _ found found' standing⟩
  · intro conn _ found'
    obtain ⟨peer, found, standing⟩ := quiet.found_before found'
    exact ⟨peer, found, youngs conn _ _ found found' standing.symm⟩
  case refine_4 => exact fun type => congrArg (fun server => server.ofType type) same
  all_goals rw [same]

theorem put_alike {peer peer' : Connection}
    (found : server.connections conn = some peer)
    (similar : peer.Similar peer') : Alike server (server.put conn peer') := by
  refine ⟨?_, ?_, rfl, fun _ => rfl, rfl, rfl, rfl, rfl, rfl, ?_⟩
  · intro each other found'
    by_cases same : each = conn
    · subst same
      cases found.symm.trans found'
      exact ⟨peer', by simp [put], similar⟩
    · exact ⟨other, by simpa [put, same] using found', .refl other⟩
  · intro each other found'
    by_cases same : each = conn
    · subst same
      obtain rfl : peer' = other := by simpa [put] using found'
      exact ⟨peer, found, similar⟩
    · exact ⟨other, by simpa [put, same] using found', .refl other⟩
  · intro known tap member
    obtain ⟨below, old⟩ := known tap member
    refine ⟨below, ?_⟩
    intro other found' young
    by_cases same : tap.conn = conn
    · rw [same] at found'
      obtain rfl : peer' = other := by simpa [put] using found'
      exact old peer (same ▸ found) (similar.young young)
    · exact old other (by simpa [put, same] using found') young

theorem alike_of_same {after : Server Regex} (connections : after.connections = server.connections)
    (byId : after.connectionById = server.connectionById)
    (byType : ∀ type, after.ofType type = server.ofType type)
    (replaced : after.replaced = server.replaced) (departed : after.departed = server.departed)
    (turns : after.turns = server.turns) (accepted : after.accepted = server.accepted)
    (loops : after.loops = server.loops) (taps : server.TapsKnown → after.TapsKnown) :
    Alike server after := by
  refine ⟨?_, ?_, byId, byType, replaced, departed, turns, accepted, loops, taps⟩
  · intro conn peer found
    exact ⟨peer, connections ▸ found, .refl peer⟩
  · intro _ peer found
    exact ⟨peer, connections ▸ found, .refl peer⟩

theorem Connection.Own.similar {peer after : Connection} (own : peer.Own after) :
    peer.Similar after := by
  obtain ⟨_, _, _, _, _, _, _, _, _,
    rfl⟩ := own.same
  exact ⟨rfl, rfl, fun _ => ⟨rfl, rfl, rfl⟩, own.steady, fun young => absurd young own.old⟩

theorem not_young (registered : peer.registered = true) : ¬peer.Young :=
  fun young => nomatch young.1.symm.trans registered

theorem not_young_shut (shutsDown : peer.shutsDown = true) : ¬peer.Young :=
  fun young => nomatch young.2.1.symm.trans shutsDown

theorem told_similar (unregistered : peer.registered = false) (shutsDown : peer.shutsDown = true) :
    peer.Similar { peer with toldGone := true, leaving := false } := by
  refine ⟨rfl, rfl, ?_, ?_, ?_⟩
  · intro registered
    cases unregistered.symm.trans registered
  · intro steady
    have dead := (steady.shutsDown shutsDown).1
    exact ⟨fun young => absurd young (not_young_shut shutsDown), fun _ => ⟨dead, .inl rfl⟩, nofun,
      steady.ended, fun _ => dead, fun _ => ⟨shutsDown, rfl, unregistered⟩⟩
  · exact fun young => absurd young (not_young_shut shutsDown)

theorem introduced_similar (young : peer.Young) (id : UInt64) (type : UInt32) (routing : Routing) :
    peer.Similar { peer with peerId := id, peerType := type, routing } := by
  refine ⟨rfl, rfl, ?_, ?_, fun _ => young⟩
  · intro registered
    cases young.1.symm.trans registered
  · intro steady
    exact ⟨steady.young, steady.shutsDown, steady.leaving, steady.ended, steady.told, steady.closed⟩

theorem filtered_similar (filters : List FilterMessage) :
    peer.Similar { peer with keyFilters := filters } :=
  ⟨rfl, rfl, fun _ => ⟨rfl, rfl, rfl⟩,
    fun steady => ⟨steady.young, steady.shutsDown, steady.leaving, steady.ended, steady.told, steady.closed⟩,
    fun young => young⟩

theorem Picked.perm {list eligible after : List Pointer} {chosen : Option Pointer}
    (pick : Picked list eligible chosen after) : after.Perm list := by
  cases chosen with
  | none => exact pick.2 ▸ .refl _
  | some conn =>
    obtain ⟨member, rfl, -⟩ := pick
    exact (perm_append_singleton conn _).trans (perm_cons_erase member).symm

/-! ## Who is in routing after a step -/

theorem Routed.eq {peer other : Connection}
    (routed : server.Routed conn peer) (found : server.connections conn = some other) :
    other = peer := by
  rw [routed.1] at found
  exact (Option.some.inj found).symm

theorem put_connections (conn each : Pointer) (peer : Connection) : (server.put conn peer).connections each =
      if each = conn then some peer else server.connections each := by
  simp only [put, update_apply]

theorem found_put {conn each : Pointer} {now peer : Connection}
    (connections : after.connections = (server.put conn now).connections) :
    after.connections each = some peer ↔
      each = conn ∧ peer = now ∨ each ≠ conn ∧ server.connections each = some peer := by
  rw [connections, put_connections]
  split
  · rename_i same
    simp [same, eq_comm]
  · rename_i differ
    simp [differ]

theorem routed_put_gone {after : Server Regex} {gone : Connection}
    (connections : after.connections = (server.put conn gone).connections)
    (out : gone.registered = false ∨ gone.toldGone = true ∨ conn ∈ after.replaced)
    (replaced : ∀ each, each ≠ conn → (each ∈ after.replaced ↔ each ∈ server.replaced))
    (each : Pointer) (peer : Connection) :
    after.Routed each peer ↔ each ≠ conn ∧ server.Routed each peer := by
  unfold Routed
  rw [connections, put_connections]
  by_cases same : each = conn
  · subst same
    simp only [ne_eq, not_true_eq_false, false_and, iff_false]
    rintro ⟨found, registered, told, present⟩
    cases found
    obtain out | out | out := out
    · cases registered.symm.trans out
    · cases told.symm.trans out
    · exact present out
  · rw [if_neg same, replaced each same]
    exact ⟨fun routed => ⟨same, routed⟩, And.right⟩

theorem gone_steady (steady : peer.Steady) (registered : peer.registered = true) (dead : peer.living = false) :
    peer.gone.Steady := by
  refine ⟨fun young => absurd young (not_young registered), ?_, nofun, steady.ended, fun _ => dead, ?_⟩
  · exact fun _ => ⟨dead, .inl rfl⟩
  · intro closed
    obtain ⟨-, -, unregistered⟩ := steady.closed closed
    cases unregistered.symm.trans registered

theorem ofType_insert (type each : UInt32) (list : List Pointer) :
    ((server.connectionsByType.insert type list)[each]?).getD [] =
      if each = type then list else server.ofType each := by
  rw [Lookup.insert_apply]
  split <;> rfl

theorem ofType_relist {type : UInt32} {list : List Pointer}
    (absent : server.ofType type = [] → list = []) (each : UInt32) :
    (server.relist type list).ofType each = if each = type then list else server.ofType each := by
  simp only [ofType, relist, Lookup.modify_apply]
  split
  · cases found : server.connectionsByType[type]? with
    | none =>
      simp only [ofType, found] at absent
      rw [absent rfl]
      rfl
    | some => rfl
  · rfl

/-! ## Connections that are not registered, come and gone -/

structure Unseen (before after : Server Regex) : Prop where
  same : ∃ connections accepted, after = { before with connections, accepted }
  grows : before.accepted ≤ after.accepted
  still : ∀ conn peer, before.connections conn = some peer →
    peer.registered = true → after.connections conn = some peer
  earlier : ∀ conn peer, after.connections conn = some peer → before.connections conn = some peer ∨
      conn = before.accepted ∧ conn < after.accepted ∧ peer = {}

namespace Unseen

variable {vacated : Option UInt64}

theorem accept (sound : Sound vacated server) : Unseen server server.accepting := by
  refine ⟨⟨_, _, rfl⟩, Nat.le_succ _, ?_, ?_⟩
  · intro conn peer here _
    exact (found_put rfl).mpr (.inr ⟨Nat.ne_of_lt (sound.known conn peer here), here⟩)
  · intro _ _ here
    obtain ⟨rfl, rfl⟩ | ⟨-, here⟩ := (found_put rfl).mp here
    · exact .inr ⟨rfl, Nat.lt_succ_self _, rfl⟩
    · exact .inl here

theorem destroyed (found : server.connections conn = some peer)
    (unregistered : peer.registered = false) : Unseen server
      { server with connections := update server.connections conn none } := by
  refine ⟨⟨_, _, rfl⟩, Nat.le_refl _, ?_, ?_⟩
  · intro each other here registered
    dsimp only
    rw [update_of_ne]
    · exact here
    · rintro rfl
      cases found.symm.trans here
      cases unregistered.symm.trans registered
  · intro _ _ here
    dsimp only at here
    rw [update_apply] at here
    split at here
    · cases here
    · exact .inl here

theorem registered_before (unseen : Unseen before after) {conn : Pointer} {peer : Connection}
    (found : after.connections conn = some peer) (registered : peer.registered = true) :
    before.connections conn = some peer := by
  obtain here | ⟨-, -, rfl⟩ := unseen.earlier conn peer found
  · exact here
  · cases registered

theorem sound (unseen : Unseen before after) (sound : Sound vacated before) :
    Sound vacated after := by
  have routed (conn : Pointer) (peer : Connection) : after.Routed conn peer ↔ before.Routed conn peer := by
    obtain ⟨_, _, rfl⟩ := unseen.same
    constructor
    · rintro ⟨found, registered, rest⟩
      exact ⟨unseen.registered_before found registered, registered, rest⟩
    · rintro ⟨found, registered, rest⟩
      exact ⟨unseen.still conn peer found registered, registered, rest⟩
  obtain ⟨⟨_, _, rfl⟩, grows, still, earlier⟩ := unseen
  refine ⟨?_, ?_, ?_, ?_, sound.nodup, ?_, ?_, ?_, ?_, sound.apart, ?_⟩
  · intro conn peer found
    obtain here | ⟨-, below, -⟩ := earlier conn peer found
    · exact Nat.lt_of_lt_of_le (sound.known conn peer here) grows
    · exact below
  · intro conn peer found
    obtain here | ⟨-, -, rfl⟩ := earlier conn peer found
    · exact sound.steady conn peer here
    · exact ⟨fun _ => ⟨rfl, rfl, rfl, rfl, rfl⟩, nofun, nofun, nofun, nofun, nofun⟩
  · intro id notVacated conn
    simp only [routed]
    exact sound.byId id notVacated conn
  · intro conn peer isRouted
    exact sound.vacant conn peer ((routed _ _).mp isRouted)
  · intro type conn
    simp only [routed]
    exact sound.byType type conn
  · intro conn peer found
    rw [routed]
    obtain here | ⟨-, -, rfl⟩ := earlier conn peer found
    · exact sound.inList conn peer here
    · exact ⟨nofun, fun isRouted => nomatch isRouted.2.1⟩
  · intro conn member
    obtain ⟨peer, found, registered⟩ := sound.replaced conn member
    exact ⟨peer, still conn peer found registered, registered⟩
  · intro conn member
    obtain ⟨peer, found, registered, told⟩ := sound.departed conn member
    exact ⟨peer, still conn peer found registered, registered, told⟩
  · intro tap member
    obtain ⟨below, old⟩ := sound.taps tap member
    refine ⟨Nat.lt_of_lt_of_le below grows, fun peer found => ?_⟩
    obtain here | ⟨same, -⟩ := earlier _ peer found
    · exact old peer here
    · exact absurd below (same ▸ Nat.lt_irrefl _)

theorem recounts (unseen : Unseen before after) (recounts : Recounts vacated before) :
    Recounts vacated after := by
  have earlier := @registered_before _ _ _ unseen
  obtain ⟨⟨_, _, rfl⟩, grows, still, came⟩ := unseen
  refine ⟨?_, ?_, recounts.once, ?_, ?_, ?_, ?_, ?_, ?_⟩
  · intro conn member
    exact Nat.lt_of_lt_of_le (recounts.registeredKnown conn member) grows
  · intro conn member
    exact Nat.lt_of_lt_of_le (recounts.leftKnown conn member) grows
  · intro id type conn turn
    obtain left | ⟨peer, found, registered, rest⟩ := recounts.member id type conn turn
    · exact .inl left
    · exact .inr ⟨peer, still conn peer found registered, registered, rest⟩
  · intro conn peer found registered
    exact recounts.registered conn peer (earlier found registered) registered
  · intro conn peer found registered
    exact recounts.staying conn peer (earlier found registered) registered
  · intro conn peer found young
    obtain here | ⟨rfl, -⟩ := came conn peer found
    · exact recounts.fresh conn peer here young
    · exact ⟨fun member => Nat.lt_irrefl _ (recounts.registeredKnown _ member),
        fun member => Nat.lt_irrefl _ (recounts.leftKnown _ member)⟩
  · intro conn peer routed
    exact recounts.last conn peer ⟨earlier routed.1 routed.2.1, routed.2⟩
  · intro conn member
    obtain replaced | ⟨peer, found, registered, rest⟩ := recounts.replaced conn member
    · exact .inl replaced
    · exact .inr ⟨peer, still conn peer found registered, registered, rest⟩

end Unseen

namespace Sound

variable {vacated : Option UInt64}

section

variable (sound : Sound vacated server)

include sound

theorem unique {first second : Pointer}
    {peer peer' : Connection} (routed : server.Routed first peer)
    (routed' : server.Routed second peer')
    (same : peer.peerId = peer'.peerId) : first = second := by
  have notVacated := sound.vacant first peer routed
  have here := (sound.byId _ notVacated first).mpr ⟨peer, routed, rfl⟩
  have there := (sound.byId _ notVacated second).mpr ⟨peer', routed', same.symm⟩
  rw [here] at there
  exact Option.some.inj there

theorem puts {now : Connection} (connections : after.connections = (server.put conn now).connections)
    (accepted : after.accepted = server.accepted) (known : conn < server.accepted)
    (steady : now.Steady) (old : ¬now.Young) (taps : ∀ tap ∈ after.taps, tap ∈ server.taps) :
    (∀ each peer, after.connections each = some peer → each < after.accepted ∧ peer.Steady) ∧ after.TapsKnown := by
  rw [accepted]
  constructor
  · intro each peer isFound
    obtain ⟨rfl, rfl⟩ | ⟨-, isFound⟩ := (found_put connections).mp isFound
    · exact ⟨known, steady⟩
    · exact ⟨sound.known each peer isFound, sound.steady each peer isFound⟩
  · intro tap member
    obtain ⟨below, old'⟩ := sound.taps tap (taps tap member)
    refine ⟨accepted ▸ below, fun peer isFound => ?_⟩
    obtain ⟨-, rfl⟩ | ⟨-, isFound⟩ := (found_put connections).mp isFound
    · exact old
    · exact old' peer isFound

/-- One that leaves, and is out of both indexes, keeps them sound. -/
theorem exit {vacated' : Option UInt64} {gone : Connection}
    (connections : after.connections = (server.put conn gone).connections)
    (accepted : after.accepted = server.accepted) (known : conn < server.accepted)
    (steady : gone.Steady) (old : ¬gone.Young) (unlisted : gone.inTypeList = false)
    (out : gone.registered = false ∨ gone.toldGone = true ∨ conn ∈ after.replaced)
    (byId : ∀ id, vacated' ≠ some id → vacated ≠ some id ∧ ∀ each, (after.connectionById[id]? = some each ↔
        each ≠ conn ∧ server.connectionById[id]? = some each))
    (vacant : ∀ each peer, each ≠ conn → server.Routed each peer →
      vacated' ≠ some peer.peerId) (lists : ∀ type, (after.ofType type).Nodup ∧
      ∀ each, (each ∈ after.ofType type ↔ each ≠ conn ∧ each ∈ server.ofType type))
    (replaced : ∀ each, each ≠ conn → (each ∈ after.replaced ↔ each ∈ server.replaced))
    (departed : ∀ each, each ≠ conn → (each ∈ after.departed ↔ each ∈ server.departed))
    (ownReplaced : conn ∈ after.replaced → gone.registered = true ∧ conn ∉ after.departed)
    (ownDeparted : conn ∈ after.departed → gone.registered = true ∧ gone.toldGone = true)
    (taps : ∀ tap ∈ after.taps, tap ∈ server.taps) : Sound vacated' after := by
  have routed := routed_put_gone connections out replaced
  have here : after.connections conn = some gone := (found_put connections).mpr (.inl ⟨rfl, rfl⟩)
  obtain ⟨each, tapped⟩ := sound.puts connections accepted known steady old taps
  refine ⟨fun conn peer is => (each conn peer is).1, fun conn peer is => (each conn peer is).2, ?_, ?_,
    fun type => (lists type).1, ?_, ?_, ?_, ?_, ?_, tapped⟩
  · intro id notVacated each
    obtain ⟨notVacated, entries⟩ := byId id notVacated
    rw [entries, sound.byId id notVacated]
    simp only [routed, and_assoc, exists_and_left]
  · intro each peer isRouted
    obtain ⟨differ, isRouted⟩ := (routed each peer).mp isRouted
    exact vacant each peer differ isRouted
  · intro type each
    rw [(lists type).2, sound.byType]
    simp only [routed, and_assoc, exists_and_left]
  · intro each peer isFound
    rw [routed]
    obtain ⟨rfl, rfl⟩ | ⟨differ, isFound⟩ := (found_put connections).mp isFound
    · simp [unlisted]
    · rw [sound.inList each peer isFound]
      exact ⟨fun isRouted => ⟨differ, isRouted⟩, And.right⟩
  · intro each member
    by_cases same : each = conn
    · subst same
      exact ⟨gone, here, (ownReplaced member).1⟩
    · obtain ⟨peer, isFound, registered⟩ :=
        sound.replaced each ((replaced each same).mp member)
      exact ⟨peer, (found_put connections).mpr (.inr ⟨same, isFound⟩), registered⟩
  · intro each member
    by_cases same : each = conn
    · subst same
      exact ⟨gone, here, ownDeparted member⟩
    · obtain ⟨peer, isFound, flags⟩ :=
        sound.departed each ((departed each same).mp member)
      exact ⟨peer, (found_put connections).mpr (.inr ⟨same, isFound⟩), flags⟩
  · intro each member
    by_cases same : each = conn
    · subst same
      exact (ownReplaced member).2
    · rw [departed each same]
      exact sound.apart each ((replaced each same).mp member)

theorem erase_lists (routed : server.Routed conn peer) (ofType : ∀ type, after.ofType type =
      if type = peer.peerType then (server.ofType peer.peerType).erase conn
      else server.ofType type) (type : UInt32) : (after.ofType type).Nodup ∧
      ∀ each, (each ∈ after.ofType type ↔ each ≠ conn ∧ each ∈ server.ofType type) := by
  rw [ofType]
  split
  · rename_i same
    subst same
    exact ⟨(sound.nodup _).erase conn, fun each => (sound.nodup _).mem_erase_iff⟩
  · rename_i differ
    refine ⟨sound.nodup type, fun each => ⟨fun member => ⟨?_, member⟩, And.right⟩⟩
    rintro rfl
    obtain ⟨_, routed', rfl⟩ := (sound.byType type each).mp member
    exact differ (congrArg Connection.peerType (routed.eq routed'.1))

theorem leave (routed : server.Routed conn peer) (dead : peer.living = false) :
    Sound vacated (server.leave conn peer) := by
  obtain ⟨found, registered, told, present⟩ := id routed
  have notVacated := sound.vacant conn peer routed
  refine sound.exit rfl rfl (sound.known conn peer found)
    (gone_steady (sound.steady conn peer found) registered dead) (not_young registered) rfl
    (.inr (.inl rfl)) ?_ (fun each other _ => sound.vacant each other)
    (sound.erase_lists routed (fun type => ofType_insert _ type _)) (fun _ _ => Iff.rfl) ?_
    (fun member => absurd member present) (fun _ => ⟨registered, rfl⟩) ?_
  · intro id isVacated
    refine ⟨isVacated, fun each => ?_⟩
    change (server.connectionById.erase peer.peerId)[id]? = some each ↔ _
    rw [Lookup.erase_apply]
    split
    · rename_i same
      subst same
      constructor
      · nofun
      · rintro ⟨differ, entry⟩
        obtain ⟨other, routed', same⟩ := (sound.byId _ notVacated each).mp entry
        exact absurd (sound.unique routed' routed same) differ
    · rename_i differ
      refine ⟨fun entry => ⟨?_, entry⟩, And.right⟩
      rintro rfl
      obtain ⟨_, routed', rfl⟩ := (sound.byId id isVacated each).mp entry
      exact differ (congrArg Connection.peerId (routed.eq routed'.1))
  · intro each differ
    change each ∈ insert conn server.departed ↔ _
    simp [differ]
  · intro _ member
    exact mem_of_mem_eraseP member

theorem not_listed (out : ∀ peer, ¬server.Routed conn peer) (type : UInt32) : (server.ofType type).Nodup ∧
      ∀ each, (each ∈ server.ofType type ↔ each ≠ conn ∧ each ∈ server.ofType type) := by
  refine ⟨sound.nodup type, fun each => ⟨fun member => ⟨?_, member⟩, And.right⟩⟩
  rintro rfl
  obtain ⟨peer, routed, -⟩ := (sound.byType type each).mp member
  exact out peer routed

theorem not_indexed (out : ∀ peer, ¬server.Routed conn peer) (id : UInt64) (notVacated : vacated ≠ some id) :
    vacated ≠ some id ∧ ∀ each, (server.connectionById[id]? = some each ↔
      each ≠ conn ∧ server.connectionById[id]? = some each) := by
  refine ⟨notVacated, fun each => ⟨fun entry => ⟨?_, entry⟩, And.right⟩⟩
  rintro rfl
  obtain ⟨peer, routed, -⟩ := (sound.byId id notVacated each).mp entry
  exact out peer routed

theorem leaveReplaced (found : server.connections conn = some peer)
    (registered : peer.registered = true) (replaced : conn ∈ server.replaced)
    (dead : peer.living = false) : Sound vacated (server.leaveReplaced conn peer) := by
  have out (other : Connection) : ¬server.Routed conn other := fun routed => routed.2.2.2 replaced
  refine sound.exit rfl rfl (sound.known conn peer found)
    (gone_steady (sound.steady conn peer found) registered dead) (not_young registered) rfl
    (.inr (.inl rfl)) (sound.not_indexed out) (fun each other _ => sound.vacant each other)
    (sound.not_listed out) (fun _ _ => Iff.rfl) (fun _ _ => Iff.rfl)
    (fun member => ⟨registered, sound.apart conn member⟩)
    (fun member => absurd member (sound.apart conn replaced)) ?_
  intro _ member
  exact mem_of_mem_eraseP member

theorem close (found : server.connections conn = some peer) (shutsDown : peer.shutsDown = true)
    (told : peer.toldGone = true) : Sound vacated (server.close conn peer) := by
  have out (other : Connection) : ¬server.Routed conn other := by
    rintro ⟨found', -, notTold, -⟩
    cases found.symm.trans found'
    cases told.symm.trans notTold
  have steady := sound.steady conn peer found
  have unlisted : peer.inTypeList = false := by
    rw [← Bool.not_eq_true, sound.inList conn peer found]
    exact out peer
  refine sound.exit rfl rfl (sound.known conn peer found) ?_
    (fun young => absurd young (not_young_shut shutsDown)) unlisted (.inl rfl)
    (sound.not_indexed out) (fun each other _ => sound.vacant each other) (sound.not_listed out)
    ?_ ?_ ?_ ?_ (fun _ member => member)
  · refine ⟨fun young => absurd young (not_young_shut shutsDown), steady.shutsDown, ?_,
      fun _ => (steady.shutsDown shutsDown).1, steady.told, fun _ => ⟨shutsDown, told, rfl⟩⟩
    intro leaving
    obtain ⟨notTold, dead, -⟩ := steady.leaving leaving
    exact ⟨notTold, dead, .inr shutsDown⟩
  · intro each differ
    change each ∈ server.replaced.erase conn ↔ _
    simp [differ]
  · intro each differ
    change each ∈ server.departed.erase conn ↔ _
    simp [differ]
  · intro member
    change conn ∈ server.replaced.erase conn at member
    simp at member
  · intro member
    change conn ∈ server.departed.erase conn at member
    simp at member

end

theorem displace (sound : Sound none server) (routed : server.Routed conn peer) :
    Sound (some peer.peerId) (server.displace conn peer) := by
  obtain ⟨found, registered, told, _⟩ := id routed
  have steady := sound.steady conn peer found
  refine sound.exit rfl rfl (sound.known conn peer found) ?_ (not_young registered) rfl
    (.inr (.inr (Finset.mem_insert_self conn _))) ?_ ?_
    (sound.erase_lists routed (fun type => ofType_insert _ type _)) ?_ (fun _ _ => Iff.rfl) ?_ ?_
    (fun _ member => member)
  · exact ⟨fun young => absurd young (not_young registered), steady.shutsDown, steady.leaving,
      steady.ended, steady.told, steady.closed⟩
  · intro id isVacated
    refine ⟨nofun, fun each => ⟨fun entry => ⟨?_, entry⟩, And.right⟩⟩
    rintro rfl
    obtain ⟨other, routed', rfl⟩ := (sound.byId id nofun each).mp entry
    rw [routed.eq routed'.1] at isVacated
    exact isVacated rfl
  · intro each other differ routed' same
    exact differ (sound.unique routed' routed (Option.some.inj same).symm)
  · intro each differ
    change each ∈ insert conn server.replaced ↔ _
    simp [differ]
  · intro _
    refine ⟨registered, fun member => ?_⟩
    obtain ⟨other, found', -, told'⟩ := sound.departed conn member
    cases found.symm.trans found'
    cases told.symm.trans told'
  · intro member
    obtain ⟨_, found', -, told'⟩ := sound.departed conn member
    cases found.symm.trans found'
    exact ⟨registered, told'⟩

theorem picked (sound : Sound vacated server) {type : UInt32} {eligible connections : List Pointer}
    {chosen : Option Pointer} (pick : Picked (server.ofType type) eligible chosen connections) :
    Sound vacated
      { server.relist type connections with
        turns := server.turns ++ [.any type eligible chosen] } := by
  have same : connections.Perm (server.ofType type) := pick.perm
  have lists (each : UInt32) : ({ server.relist type connections with
      turns := server.turns ++ [Turn.any type eligible chosen] }).ofType each =
        if each = type then connections else server.ofType each := by
    refine ofType_relist ?_ each
    intro absent
    rw [absent] at same
    exact same.eq_nil
  refine ⟨sound.known, sound.steady, sound.byId, sound.vacant, ?_, ?_, sound.inList,
    sound.replaced, sound.departed, sound.apart, sound.taps⟩
  · intro each
    rw [lists]
    split
    · exact same.nodup_iff.mpr (sound.nodup type)
    · exact sound.nodup each
  · intro each conn
    rw [lists]
    split
    · rename_i equal
      rw [same.mem_iff, equal]
      exact sound.byType type conn
    · exact sound.byType each conn

/-- A registration keeps the indexes. -/
theorem enter (sound : Sound vacated server) {young now : Connection}
    (old : server.connections conn = some young) (isYoung : young.Young)
    (connections : after.connections = (server.put conn now).connections)
    (accepted : after.accepted = server.accepted) (replaced : after.replaced = server.replaced)
    (departed : after.departed = server.departed) (taps : after.taps = server.taps)
    (steady : now.Steady) (registered : now.registered = true) (notTold : now.toldGone = false)
    (listed : now.inTypeList = true) (byId : ∀ id, after.connectionById[id]? =
      if id = now.peerId then some conn else server.connectionById[id]?)
    (byType : ∀ type, after.ofType type =
      if type = now.peerType then conn :: server.ofType now.peerType else server.ofType type)
    (only : ∀ id, id ≠ now.peerId → vacated ≠ some id)
    (free : ∀ each other, server.Routed each other → other.peerId ≠ now.peerId) :
    Sound none after := by
  have unregistered : ¬∃ other, server.connections conn = some other ∧ other.registered = true := by
    rintro ⟨other, found, registered⟩
    cases old.symm.trans found
    exact not_young registered isYoung
  have absent (other : Connection) : ¬server.Routed conn other :=
    fun routed => unregistered ⟨other, routed.1, routed.2.1⟩
  have notReplaced : conn ∉ server.replaced := fun member => unregistered (sound.replaced conn member)
  have notDeparted : conn ∉ server.departed := by
    intro member
    obtain ⟨other, found, registered, -⟩ := sound.departed conn member
    exact unregistered ⟨other, found, registered⟩
  have routed (each : Pointer) (other : Connection) : after.Routed each other ↔
      each = conn ∧ other = now ∨ server.Routed each other := by
    constructor
    · rintro ⟨isFound, rest⟩
      rw [replaced] at rest
      obtain same | ⟨-, isFound⟩ := (found_put connections).mp isFound
      · exact .inl same
      · exact .inr ⟨isFound, rest⟩
    · rintro (⟨rfl, rfl⟩ | isRouted)
      · exact ⟨(found_put connections).mpr (.inl ⟨rfl, rfl⟩), registered, notTold, replaced ▸ notReplaced⟩
      · refine ⟨(found_put connections).mpr (.inr ⟨?_, isRouted.1⟩), isRouted.2.1, isRouted.2.2.1,
          replaced ▸ isRouted.2.2.2⟩
        rintro rfl
        exact absent other isRouted
  have entered {β : Type} (field : Connection → β) (value : β) (each : Pointer) :
      (∃ other, after.Routed each other ∧ field other = value) ↔
        each = conn ∧ field now = value ∨ ∃ other, server.Routed each other ∧ field other = value := by
    simp only [routed, or_and_right, exists_or, and_assoc, exists_and_left, exists_eq_left]
  obtain ⟨each, tapped⟩ := sound.puts connections accepted (sound.known conn young old) steady
    (not_young registered) (fun _ member => taps ▸ member)
  refine ⟨fun conn peer is => (each conn peer is).1, fun conn peer is => (each conn peer is).2, ?_,
    fun _ _ _ => nofun, ?_, ?_, ?_, ?_, ?_, ?_, tapped⟩
  · intro id _ each
    rw [byId, entered Connection.peerId]
    split
    · rename_i same
      subst same
      have nobody : ¬∃ other, server.Routed each other ∧ other.peerId = now.peerId :=
        fun ⟨other, isRouted, same⟩ => free each other isRouted same
      rw [or_iff_left nobody]
      simp [eq_comm]
    · rename_i differ
      rw [sound.byId id (only id differ)]
      simp [Ne.symm differ]
  · intro type
    rw [byType]
    split
    · refine nodup_cons.mpr ⟨?_, sound.nodup _⟩
      intro member
      obtain ⟨other, isRouted, -⟩ := (sound.byType _ conn).mp member
      exact absent other isRouted
    · exact sound.nodup type
  · intro type each
    rw [byType, entered Connection.peerType]
    split
    · rename_i same
      subst same
      simp [sound.byType]
    · rename_i differ
      simp [sound.byType, Ne.symm differ]
  · intro each other isFound
    rw [routed]
    obtain ⟨rfl, rfl⟩ | ⟨differ, isFound⟩ := (found_put connections).mp isFound
    · exact ⟨fun _ => .inl ⟨rfl, rfl⟩, fun _ => listed⟩
    · rw [sound.inList each other isFound]
      constructor
      · exact .inr
      · rintro (⟨rfl, -⟩ | isRouted)
        · exact absurd rfl differ
        · exact isRouted
  · intro each member
    rw [replaced] at member
    obtain ⟨other, isFound, registered⟩ := sound.replaced each member
    refine ⟨other, (found_put connections).mpr (.inr ⟨?_, isFound⟩), registered⟩
    rintro rfl
    exact notReplaced member
  · intro each member
    rw [departed] at member
    obtain ⟨other, isFound, flags⟩ := sound.departed each member
    refine ⟨other, (found_put connections).mpr (.inr ⟨?_, isFound⟩), flags⟩
    rintro rfl
    exact notDeparted member
  · rw [replaced, departed]
    exact sound.apart

theorem join (sound : Sound vacated server) (filters : List FilterMessage) (owner : Owner)
    (found : server.connections conn = some peer) (young : peer.Young)
    (only : ∀ id, id ≠ peer.peerId → vacated ≠ some id)
    (free : ∀ each other, server.Routed each other → other.peerId ≠ peer.peerId) :
    Sound none (server.join conn peer filters owner) := by
  have steady := sound.steady conn peer found
  have notTold := (steady.young young).2.2.2.1
  refine sound.enter found young rfl rfl rfl rfl rfl ?_ rfl notTold rfl ?_ ?_ only free
  · refine ⟨fun young => absurd young (not_young rfl), steady.shutsDown, ?_, steady.ended, steady.told, ?_⟩
    · intro leaving
      obtain ⟨notTold, dead, -⟩ := steady.leaving leaving
      exact ⟨notTold, dead, .inl rfl⟩
    · intro closed
      have shuts := (steady.closed closed).1
      cases young.2.1.symm.trans shuts
  · exact fun id => Lookup.insert_apply _ _ _ id
  · exact fun type => ofType_insert _ type _

end Sound

namespace Recounts

variable {vacated : Option UInt64}

theorem left (recounts : Recounts vacated server) (sound : Sound vacated server)
    {peer gone : Connection} (old : server.connections conn = some peer)
    (wasRegistered : peer.registered = true)
    (connections : after.connections = (server.put conn gone).connections)
    (told : gone.toldGone = true) (registered : gone.registered = true)
    (id : gone.peerId = peer.peerId) (type : gone.peerType = peer.peerType)
    (turns : after.turns = server.turns ++ [.left conn])
    (accepted : after.accepted = server.accepted) (replaced : after.replaced = server.replaced) :
    Recounts vacated after := by
  have registrants_same : registrants after.turns = registrants server.turns := by
    rw [turns, registrants_append]
    exact append_nil _
  have leaves {each : Pointer} :
      .left each ∈ after.turns ↔ .left each ∈ server.turns ∨ each = conn := by
    simp [turns]
  have registers {turn : Turn} {id : UInt64} {type : UInt32} {each : Pointer}
      (same : turn = .registered id type each) : turn ∈ after.turns ↔ turn ∈ server.turns := by
    simp [turns, same]
  refine ⟨?_, ?_, ?_, ?_, ?_, ?_, ?_, ?_, ?_⟩
  · rw [registrants_same, accepted]
    exact recounts.registeredKnown
  · intro each member
    rw [accepted]
    obtain member | rfl := leaves.mp member
    · exact recounts.leftKnown each member
    · exact sound.known each peer old
  · rw [registrants_same]
    exact recounts.once
  · intro id type each turn
    rw [leaves]
    obtain left | ⟨other, isFound, rest⟩ := recounts.member id type each ((registers rfl).mp turn)
    · exact .inl (.inl left)
    · by_cases same : each = conn
      · exact .inl (.inr same)
      · exact .inr ⟨other, (found_put connections).mpr (.inr ⟨same, isFound⟩), rest⟩
  · intro each other isFound isRegistered
    rw [registers rfl]
    obtain ⟨rfl, rfl⟩ | ⟨-, isFound⟩ := (found_put connections).mp isFound
    · rw [id, type]
      exact recounts.registered each peer old wasRegistered
    · exact recounts.registered each other isFound isRegistered
  · intro each other isFound isRegistered notTold
    rw [leaves]
    obtain ⟨-, rfl⟩ | ⟨differ, isFound⟩ := (found_put connections).mp isFound
    · cases told.symm.trans notTold
    · rintro (member | rfl)
      · exact recounts.staying each other isFound isRegistered notTold member
      · exact differ rfl
  · intro each other isFound young
    rw [registrants_same, leaves]
    obtain ⟨-, rfl⟩ | ⟨differ, isFound⟩ := (found_put connections).mp isFound
    · exact absurd young (not_young registered)
    · obtain ⟨notRegistered, notLeft⟩ := recounts.fresh each other isFound young
      exact ⟨notRegistered, not_or.mpr ⟨notLeft, differ⟩⟩
  · intro each other routed
    rw [turns, lastRegistered_snoc _ _ _ (by nofun)]
    obtain ⟨-, routed⟩ := (routed_put_gone connections (.inr (.inl told))
      (fun _ _ => by rw [replaced]) each other).mp routed
    exact recounts.last each other routed
  · intro each member
    rw [replaced] at member
    rw [turns]
    obtain wasReplaced | ⟨other, isFound, isRegistered, rfl⟩ := recounts.replaced each member
    · exact .inl (wasReplaced.append _)
    · by_cases same : each = conn
      · subst same
        cases old.symm.trans isFound
        exact .inr ⟨gone, (found_put connections).mpr (.inl ⟨rfl, rfl⟩), registered, by rw [id]⟩
      · exact .inr ⟨other, (found_put connections).mpr (.inr ⟨same, isFound⟩), isRegistered, rfl⟩

theorem close (recounts : Recounts vacated server)
    (old : server.connections conn = some peer) (shutsDown : peer.shutsDown = true)
    (told : peer.toldGone = true) : Recounts vacated (server.close conn peer) := by
  have registeredBefore {each : Pointer} {other : Connection}
      (isFound : (server.close conn peer).connections each = some other)
      (registered : other.registered = true) : server.connections each = some other := by
    obtain ⟨-, rfl⟩ | ⟨-, isFound⟩ := (found_put rfl).mp isFound
    · cases registered
    · exact isFound
  refine ⟨recounts.registeredKnown, recounts.leftKnown, recounts.once, ?_, ?_, ?_, ?_, ?_, ?_⟩
  · intro id type each turn
    obtain left | ⟨other, isFound, registered, notTold, rest⟩ := recounts.member id type each turn
    · exact .inl left
    · refine .inr ⟨other, (found_put rfl).mpr (.inr ⟨?_, isFound⟩), registered, notTold, rest⟩
      rintro rfl
      cases old.symm.trans isFound
      cases told.symm.trans notTold
  · intro each other isFound registered
    exact recounts.registered each other (registeredBefore isFound registered) registered
  · intro each other isFound registered
    exact recounts.staying each other (registeredBefore isFound registered) registered
  · intro each other isFound young
    obtain ⟨-, rfl⟩ | ⟨-, isFound⟩ := (found_put rfl).mp isFound
    · exact absurd young (not_young_shut shutsDown)
    · exact recounts.fresh each other isFound young
  · rintro each other ⟨isFound, registered, notTold, present⟩
    obtain ⟨-, rfl⟩ | ⟨differ, isFound⟩ := (found_put rfl).mp isFound
    · cases registered
    · refine recounts.last each other ⟨isFound, registered, notTold, fun member => present ?_⟩
      exact Finset.mem_erase.mpr ⟨differ, member⟩
  · intro each member
    obtain ⟨differ, member⟩ := Finset.mem_erase.mp member
    obtain replaced | ⟨other, isFound, rest⟩ := recounts.replaced each member
    · exact .inl replaced
    · exact .inr ⟨other, (found_put rfl).mpr (.inr ⟨differ, isFound⟩), rest⟩

theorem displace (recounts : Recounts none server) (old : server.connections conn = some peer)
    (wasRegistered : peer.registered = true) :
    Recounts (some peer.peerId) (server.displace conn peer) := by
  refine ⟨recounts.registeredKnown, recounts.leftKnown, recounts.once, ?_, ?_, ?_, ?_, ?_, ?_⟩
  · intro id type each turn
    obtain left | ⟨other, isFound, rest⟩ := recounts.member id type each turn
    · exact .inl left
    · by_cases same : each = conn
      · subst same
        cases old.symm.trans isFound
        exact .inr ⟨_, (found_put rfl).mpr (.inl ⟨rfl, rfl⟩), rest⟩
      · exact .inr ⟨other, (found_put rfl).mpr (.inr ⟨same, isFound⟩), rest⟩
  · intro each other isFound registered
    obtain ⟨rfl, rfl⟩ | ⟨-, isFound⟩ := (found_put rfl).mp isFound
    · exact recounts.registered each peer old registered
    · exact recounts.registered each other isFound registered
  · intro each other isFound registered
    obtain ⟨rfl, rfl⟩ | ⟨-, isFound⟩ := (found_put rfl).mp isFound
    · exact recounts.staying each peer old registered
    · exact recounts.staying each other isFound registered
  · intro each other isFound young
    obtain ⟨-, rfl⟩ | ⟨-, isFound⟩ := (found_put rfl).mp isFound
    · exact absurd young (not_young wasRegistered)
    · exact recounts.fresh each other isFound young
  · rintro each other ⟨isFound, registered, notTold, present⟩
    obtain ⟨rfl, rfl⟩ | ⟨-, isFound⟩ := (found_put rfl).mp isFound
    · exact absurd (Finset.mem_insert_self each _) present
    · refine recounts.last each other ⟨isFound, registered, notTold, fun member => present ?_⟩
      exact Finset.mem_insert_of_mem member
  · intro each member
    obtain rfl | member := Finset.mem_insert.mp member
    · exact .inr ⟨_, (found_put rfl).mpr (.inl ⟨rfl, rfl⟩), wasRegistered, rfl⟩
    · obtain replaced | ⟨_, _, _, isVacated⟩ := recounts.replaced each member
      · exact .inl replaced
      · cases isVacated

theorem picked (recounts : Recounts vacated server) (type : UInt32)
    (eligible connections : List Pointer) (chosen : Option Pointer) : Recounts vacated
      { server.relist type connections with
        turns := server.turns ++ [.any type eligible chosen] } := by
  have registrants_same : registrants (server.turns ++ [.any type eligible chosen]) = registrants server.turns := by
    rw [registrants_append]
    exact append_nil _
  have leaves {each : Pointer} : .left each ∈ server.turns ++ [.any type eligible chosen] ↔
      .left each ∈ server.turns := by simp
  have registers {id : UInt64} {type' : UInt32} {each : Pointer} :
      .registered id type' each ∈ server.turns ++ [.any type eligible chosen] ↔
        .registered id type' each ∈ server.turns := by simp
  refine ⟨?_, ?_, ?_, ?_, ?_, ?_, ?_, ?_, ?_⟩
  · rw [registrants_same]
    exact recounts.registeredKnown
  · intro each member
    exact recounts.leftKnown each (leaves.mp member)
  · rw [registrants_same]
    exact recounts.once
  · intro id type each turn
    rw [leaves]
    exact recounts.member id type each (registers.mp turn)
  · intro each other found registered
    exact registers.mpr (recounts.registered each other found registered)
  · intro each other found registered told
    rw [leaves]
    exact recounts.staying each other found registered told
  · intro each other found young
    rw [registrants_same, leaves]
    exact recounts.fresh each other found young
  · intro each other routed
    rw [lastRegistered_snoc _ _ _ (by nofun)]
    exact recounts.last each other routed
  · intro each member
    obtain replaced | rest := recounts.replaced each member
    · exact .inl (replaced.append _)
    · exact .inr rest

theorem join (recounts : Recounts vacated server) (sound : Sound vacated server)
    (filters : List FilterMessage) (owner : Owner)
    (old : server.connections conn = some peer) (young : peer.Young)
    (only : ∀ id, vacated = some id → id = peer.peerId)
    (free : ∀ each other, server.Routed each other → other.peerId ≠ peer.peerId) :
    Recounts none (server.join conn peer filters owner) := by
  obtain ⟨notRegistered, notLeft⟩ := recounts.fresh conn peer old young
  have notTold := ((sound.steady conn peer old).young young).2.2.2.1
  have registrants_join : registrants (server.join conn peer filters owner).turns =
      registrants server.turns ++ [conn] := registrants_append _ _
  have leaves {each : Pointer} : .left each ∈ (server.join conn peer filters owner).turns ↔
      .left each ∈ server.turns := by simp [Server.join]
  refine ⟨?_, ?_, ?_, ?_, ?_, ?_, ?_, ?_, ?_⟩
  · intro each member
    rw [registrants_join, mem_append, mem_singleton] at member
    obtain member | rfl := member
    · exact recounts.registeredKnown each member
    · exact sound.known each peer old
  · intro each member
    exact recounts.leftKnown each (leaves.mp member)
  · rw [registrants_join, nodup_append]
    refine ⟨recounts.once, nodup_singleton conn, ?_⟩
    rintro each member other isConn rfl
    rw [mem_singleton] at isConn
    exact notRegistered (isConn ▸ member)
  · intro id type each turn
    rw [leaves]
    obtain earlier | now := mem_append.mp turn
    · obtain left | ⟨other, isFound, registered, rest⟩ := recounts.member id type each earlier
      · exact .inl left
      · refine .inr ⟨other, (found_put rfl).mpr (.inr ⟨?_, isFound⟩), registered, rest⟩
        rintro rfl
        exact notRegistered (mem_registrants.mpr ⟨id, type, earlier⟩)
    · cases mem_singleton.mp now
      exact .inr ⟨_, (found_put rfl).mpr (.inl ⟨rfl, rfl⟩), rfl, notTold, rfl, rfl⟩
  · intro each other isFound registered
    obtain ⟨rfl, rfl⟩ | ⟨-, isFound⟩ := (found_put rfl).mp isFound
    · exact mem_append_right _ mem_cons_self
    · exact mem_append_left _ (recounts.registered each other isFound registered)
  · intro each other isFound registered told
    rw [leaves]
    obtain ⟨rfl, -⟩ | ⟨-, isFound⟩ := (found_put rfl).mp isFound
    · exact notLeft
    · exact recounts.staying each other isFound registered told
  · intro each other isFound isYoung
    obtain ⟨-, rfl⟩ | ⟨differ, isFound⟩ := (found_put rfl).mp isFound
    · exact absurd isYoung (not_young rfl)
    · rw [registrants_join, leaves, mem_append, mem_singleton, not_or]
      obtain ⟨notRegistered, notLeft⟩ := recounts.fresh each other isFound isYoung
      exact ⟨⟨notRegistered, differ⟩, notLeft⟩
  · rintro each other ⟨isFound, rest⟩
    obtain ⟨rfl, rfl⟩ | ⟨-, isFound⟩ := (found_put rfl).mp isFound
    · exact lastRegistered_registered _ _ _ _
    · have differ := free each other ⟨isFound, rest⟩
      refine (lastRegistered_snoc _ _ _ ?_).trans (recounts.last each other ⟨isFound, rest⟩)
      intro _ _ same
      injection same with same
      exact differ same.symm
  · intro each member
    refine .inl ?_
    obtain replaced | ⟨other, isFound, registered, isVacated⟩ := recounts.replaced each member
    · exact replaced.append _
    · have turn := recounts.registered each other isFound registered
      rw [only _ isVacated] at turn
      exact .of_member turn

end Recounts

/-! ## Every step -/

structure Registry (server : Server Regex) : Prop where
  sound : Sound none server
  recounts : Recounts none server

theorem displaced_young {middle : Server Regex} {conn previous : Pointer}
    {peer earlier : Connection} (found : server.connections conn = some peer)
    (young : peer.Young) (routed : server.Routed previous earlier)
    (gone : Quiet (server.displace previous earlier) middle) :
    middle.connections conn = some peer := by
  refine gone.young conn peer ((found_put rfl).mpr (.inr ⟨?_, found⟩)) young
  rintro rfl
  cases routed.eq found
  exact not_young routed.2.1 young

namespace Registry

theorem alike (registry : Registry before) (alike : Alike before after) : Registry after :=
  ⟨alike.sound registry.sound, alike.recounts registry.recounts⟩

theorem join {vacated : Option UInt64} (sound : Sound vacated server)
    (recounts : Recounts vacated server) (filters : List FilterMessage) (owner : Owner)
    (found : server.connections conn = some peer) (young : peer.Young)
    (only : ∀ id, vacated = some id → id = peer.peerId)
    (free : ∀ each other, server.Routed each other → other.peerId ≠ peer.peerId) :
    Registry (server.join conn peer filters owner) :=
  ⟨sound.join filters owner found young (fun id differ isVacated => differ (only id isVacated)) free,
    recounts.join sound filters owner found young only free⟩

variable {env : Surroundings Regex} {orderly : Prop}

theorem plain (registry : Registry before) (step : Plain env orderly before after) :
    Registry after := by
  obtain ⟨sound, recounts⟩ := id registry
  cases step with
  | quiet quiet => exact registry.alike quiet.alike
  | startRecording path opened => exact registry.alike (startRecording_quiet path opened).alike
  | accept =>
    have unseen := Unseen.accept sound
    exact ⟨unseen.sound sound, unseen.recounts recounts⟩
  | own found own => exact registry.alike (put_alike found own.similar)
  | told found unregistered shutsDown =>
    exact registry.alike (put_alike found (told_similar unregistered shutsDown))
  | left routed dead =>
    obtain ⟨found, registered, -⟩ := id routed
    exact ⟨sound.leave routed dead, recounts.left sound found registered rfl rfl registered rfl rfl rfl rfl rfl⟩
  | leftReplaced found registered _ replaced dead =>
    exact ⟨sound.leaveReplaced found registered replaced dead,
      recounts.left sound found registered rfl rfl registered rfl rfl rfl rfl rfl⟩
  | closed found shutsDown told =>
    exact ⟨sound.close found shutsDown told, recounts.close found shutsDown told⟩
  | closedDeparted found shutsDown told _ _ announced =>
    have closed : Registry _ := ⟨sound.close found shutsDown told, recounts.close found shutsDown told⟩
    exact closed.alike announced.1.alike
  | destroyed found closed =>
    obtain ⟨-, -, unregistered⟩ := (sound.steady _ _ found).closed closed
    have unseen := Unseen.destroyed found unregistered
    exact ⟨unseen.sound sound, unseen.recounts recounts⟩
  | introduced id type routing found young =>
    exact registry.alike (put_alike found (introduced_similar young id type routing))
  | picked type eligible chosen connections pick =>
    exact ⟨sound.picked pick, recounts.picked type eligible connections chosen⟩
  | relisted type =>
    refine registry.alike (alike_of_same rfl rfl (fun each => ?_) rfl rfl rfl rfl rfl id)
    rw [ofType_relist id]
    split
    · rename_i same
      rw [same]
    · rfl
  | filtered found =>
    exact registry.alike (put_alike found (filtered_similar _))
      |>.alike (alike_of_same rfl rfl (fun _ => rfl) rfl rfl rfl rfl rfl id)
  | matched | ruled | reported | stopped =>
    exact registry.alike (alike_of_same rfl rfl (fun _ => rfl) rfl rfl rfl rfl rfl id)
  | tapped _ found registered =>
    refine registry.alike (alike_of_same rfl rfl (fun _ => rfl) rfl rfl rfl rfl rfl fun known => ?_)
    intro each member
    obtain member | isTap := mem_append.mp member
    · exact known each member
    · rw [mem_singleton.mp isTap]
      refine ⟨sound.known _ _ found, fun other found' => ?_⟩
      cases found.symm.trans found'
      exact not_young registered

theorem finished {middle : Server Regex} (registry : Registry server) {conn previous : Pointer}
    {peer earlier : Connection} (filters : List FilterMessage) (owner : Owner)
    (found : middle.connections conn = some peer) (young : peer.Young)
    (routed : server.Routed previous earlier) (same : earlier.peerId = peer.peerId)
    (gone : Quiet (server.displace previous earlier) middle) :
    Registry (middle.join conn peer filters owner) := by
  have sound := gone.alike.sound (registry.sound.displace routed)
  have recounts := gone.alike.recounts (registry.recounts.displace routed.1 routed.2.1)
  refine join sound recounts _ _ found young ?_ ?_
  · intro _ isVacated
    rw [← same]
    exact (Option.some.inj isVacated).symm
  · intro each other routed' equal
    exact sound.vacant each other routed' (congrArg some (same.trans equal.symm))

/-- A step keeps the registry. -/
theorem step {pending pending' : Option Pending} (registry : Registry before)
    (step : Step env orderly (pending, before) (pending', after)) : Registry after := by
  obtain ⟨sound, recounts⟩ := id registry
  cases step with
  | plain _ step => exact registry.plain step
  | took found young | declared set =>
    exact registry.alike (alike_of_same rfl rfl (fun _ => rfl) rfl rfl rfl rfl rfl id)
  | refused found _ own =>
    exact registry.alike (put_alike found own.similar)
      |>.alike (alike_of_same rfl rfl (fun _ => rfl) rfl rfl rfl rfl rfl id)
  | joined found young absent _ announced =>
    refine (join sound recounts _ _ found young nofun ?_).alike announced.1.alike
    intro each other routed same
    have entry := (sound.byId _ nofun each).mpr ⟨other, routed, same⟩
    cases absent.symm.trans entry
  | joinedOver found young routed same _ _ gone announced =>
    have found' := displaced_young found young routed gone.1
    exact (registry.finished _ _ found' young routed same gone.1).alike announced.1.alike

theorem steps {pending pending' : Option Pending} (registry : Registry before)
    (steps : Steps env orderly (pending, before) (pending', after)) : Registry after :=
  steps.keeps (fun _ => Registry) registry fun _ registry step => registry.step step

end Registry

end Multiplexer.Server
