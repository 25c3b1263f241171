import Multiplexer.Server.OwnerInvariants

/-! Whom a message for a peer type goes to: the scans of the type's list as choices from it,
and the keys they ask about as the filters the peers declared. -/

set_option autoImplicit false

namespace Multiplexer.Server

open List Option

variable {Regex : Type} {server before after : Server Regex}
  {env : Surroundings Regex} {handler : MessageMetaHandler}

/-! ## To one connection -/

def fits (handler : MessageMetaHandler) (lastResort : Bool) (server : Server Regex) (conn : Pointer) : Bool :=
  (server.connections conn).any fun peer =>
    peer.free lastResort && (!handler.keyed || server.takesKey handler peer)

def deliver (env : Surroundings Regex) (handler : MessageMetaHandler) (conn : Pointer)
    (server : Server Regex) : Server Regex :=
  match server.connections conn with
  | none => server
  | some peer =>
    (server.modify conn (.push handler.raw false)).recordFor env handler peer .delivered

variable {conn : Pointer} {peer : Connection}

theorem queue_room (frame : Frame) (force : Bool)
    (found : server.connections conn = some peer) (living : peer.living = true)
    (open_ : peer.ended = true → peer.living = false)
    (room : peer.hasRoom force = true) :
    server.queue conn frame force = (.queued, server.modify conn (.push frame false)) := by
  have notEnded : peer.ended = false := by
    by_contra ended
    rw [Bool.not_eq_false] at ended
    cases (open_ ended).symm.trans living
  simp only [queue, found, living, notEnded, room, Bool.not_true, Bool.or_self, Bool.and_false,
    Bool.false_eq_true, if_false, Bool.and_self, if_true]

theorem Connection.free_room {lastResort : Bool} (free : peer.free lastResort = true) :
    peer.living = true ∧ peer.hasRoom false = true := by
  simp only [Connection.free, Bool.and_eq_true, Bool.not_eq_true'] at free
  obtain ⟨⟨room, living⟩, -⟩ := free
  refine ⟨living, ?_⟩
  simp only [Connection.hasRoom, room, Bool.not_false, Bool.true_or]

def Standing (server : Server Regex) (list : List Pointer) : Prop :=
  ∀ conn ∈ list, ∃ peer, server.connections conn = some peer ∧
    (peer.ended = true → peer.living = false)

theorem Sound.standing {vacated : Option UInt64} (sound : Sound vacated server) (type : UInt32) :
    server.Standing (server.ofType type) := by
  intro conn member
  obtain ⟨peer, routed, -⟩ := (sound.byType type conn).mp member
  exact ⟨peer, routed.1, (sound.steady conn peer routed.1).ended⟩

/-- One pass: the first that fits is sent to and goes to the back. -/
theorem sendPass_eq (lastResort : Bool) (list passed : List Pointer)
    (standing : server.Standing list) : sendPass env handler lastResort passed list server =
      match list.find? (server.fits handler lastResort) with
      | none => (none, passed ++ list, server)
      | some conn =>
        (some conn, passed ++ list.erase conn ++ [conn], server.deliver env handler conn) := by
  induction list generalizing passed with
  | nil => simp [sendPass]
  | cons current rest ih =>
    obtain ⟨peer, found, open_⟩ := standing current mem_cons_self
    have ih := fun passed => ih passed fun conn member =>
      standing conn (mem_cons_of_mem _ member)
    have skips (misses : server.fits handler lastResort current = false) :
        (match (current :: rest).find? (server.fits handler lastResort) with
        | none => (none, passed ++ current :: rest, server)
        | some conn => (some conn, passed ++ (current :: rest).erase conn ++ [conn],
            server.deliver env handler conn)) =
          sendPass env handler lastResort (passed ++ [current]) rest server := by
      rw [ih, find?_cons_of_neg (by simp [misses])]
      cases picked : rest.find? (server.fits handler lastResort) with
      | none => simp
      | some conn =>
        have differ : current ≠ conn := by
          rintro rfl
          rw [find?_some picked] at misses
          cases misses
        simp [erase_cons_tail, differ]
    rw [sendPass, found]
    dsimp only
    cases free : peer.free lastResort with
    | false =>
      rw [skips (by simp [fits, found, free])]
      rfl
    | true =>
      cases takes : (handler.keyed && !server.takesKey handler peer) with
      | true =>
        rw [skips]
        · rfl
        · simp only [fits, found, any_some, free, Bool.true_and]
          simpa using takes
      | false =>
        have hits : server.fits handler lastResort current = true := by
          simp only [fits, found, any_some, free, Bool.true_and]
          cases keyed : handler.keyed <;> simp_all
        obtain ⟨living, room⟩ := Connection.free_room free
        rw [queue_room handler.raw false found living open_ room, find?_cons_of_pos hits]
        simp [deliver, found]

def choose (handler : MessageMetaHandler) (list : List Pointer) (server : Server Regex) : Option Pointer :=
  (list.find? (server.fits handler false)).or (list.find? (server.fits handler true))

theorem pickOne_eq (list : List Pointer) (standing : server.Standing list) : server.pickOne env handler list =
      match server.choose handler list with
      | none => (none, list, server)
      | some conn => (some conn, list.erase conn ++ [conn], server.deliver env handler conn) := by
  unfold pickOne choose
  rw [sendPass_eq false list [] standing]
  cases list.find? (server.fits handler false) with
  | some => simp
  | none =>
    simp only [nil_append, none_or]
    rw [sendPass_eq true list [] standing]
    cases list.find? (server.fits handler true) with
    | some | none => simp

theorem choose_mem {list : List Pointer} (chosen : server.choose handler list = some conn) :
    conn ∈ list := by
  unfold choose at chosen
  cases first : list.find? (server.fits handler false) with
  | some =>
    rw [first] at chosen
    cases chosen
    exact mem_of_find?_eq_some first
  | none =>
    rw [first, none_or] at chosen
    exact mem_of_find?_eq_some chosen

/-- The first eligible one, if any is, is chosen and goes to the back. -/
theorem choose_picked (list : List Pointer) :
    Picked list (list.filter (server.fits handler false)) (server.choose handler list)
      (match server.choose handler list with
        | none => list
        | some conn => list.erase conn ++ [conn]) := by
  unfold choose
  cases first : list.find? (server.fits handler false) with
  | some =>
    obtain ⟨hits, passed, rest, shape, misses⟩ := find?_eq_some_iff_append.mp first
    have member := mem_of_find?_eq_some first
    refine ⟨member, rfl, fun _ => ⟨mem_filter.mpr ⟨member, hits⟩, passed, rest, shape, ?_⟩⟩
    intro other isPassed isEligible
    have miss := misses other isPassed
    rw [(mem_filter.mp isEligible).2] at miss
    cases miss
  | none =>
    have nobody : list.filter (server.fits handler false) = [] := by
      rw [filter_eq_nil_iff]
      exact find?_eq_none.mp first
    rw [nobody, none_or]
    cases second : list.find? (server.fits handler true) with
    | none => exact ⟨rfl, rfl⟩
    | some => exact ⟨mem_of_find?_eq_some second, rfl, fun some_ => absurd rfl some_⟩

/-! ## Keys -/

theorem declaresKey_iff {re2 : Re2 Regex} {key : Bytes} (hasKey : handler.msg.key? = some key) :
    declaresKey re2 handler peer = true ↔ KeyPatterns.Takes re2
      (peer.keyFilters.map FilterMessage.filter) handler.keyType.toNat key := by
  simp only [declaresKey, hasKey, KeyPatterns.Takes, Bool.or_eq_true, List.all_eq_true,
    List.any_eq_true, bne_iff_ne, Bool.and_eq_true, beq_iff_eq]

/-- What the last match found of each connection in routing is what its filters say. -/
def Keyed (env : Surroundings Regex) (handler : MessageMetaHandler) (server : Server Regex) : Prop :=
  ∀ conn peer, server.Routed conn peer →
    (!handler.keyed || server.takesKey handler peer) = declaresKey env.re2 handler peer

theorem keyed_of_none (noKey : handler.msg.key? = none) (notKeyed : handler.keyed = false) :
    Keyed env handler server := by
  intro _ _ _
  simp only [notKeyed, declaresKey, noKey, Bool.not_false, Bool.true_or]

theorem matchKey_keyed (owning : Owning env none server) (type : UInt32) (hasKey : handler.msg.key?.isSome = true) :
    Keyed env (server.matchKey env type handler).1 (server.matchKey env type handler).2 := by
  obtain ⟨key, hasKey⟩ := isSome_iff_exists.mp hasKey
  obtain ⟨declared, serves, who⟩ := owning.serves
  intro conn peer routed
  have own : declared peer.keyOwner = some (peer.keyFilters.map FilterMessage.filter) :=
    (who _ _).mpr ⟨conn, .inl ⟨peer, routed.1, routed.2.1, routed.2.2.1, rfl, rfl⟩⟩
  rw [Bool.eq_iff_iff, declaresKey_iff (by exact hasKey)]
  simp only [matchKey, takesKey, hasKey, getD_some]
  cases matched : (server.keyPatterns.matchKey env.re2 type.toNat key
      (setRun env type.toNat key server.keyPatterns)).1 with
  | none =>
    have nobody := (KeyPatterns.matchKey_none serves type.toNat key _).mp matched
    simp only [isSome_none, Bool.not_false, Bool.true_or, true_iff]
    exact .inl (nobody _ _ own)
  | some evaluation =>
    obtain ⟨-, -, takes⟩ := KeyPatterns.matchKey_some serves env.literal
      (exactMatch_setRun env type.toNat key server.keyPatterns) matched
    simp only [isSome_some, Bool.not_true, Bool.false_or, getD_some]
    exact takes _ _ own

theorem Keyed.quiet (keyed : Keyed env handler before) (quiet : Quiet before after) :
    Keyed env handler after := by
  rintro conn _ ⟨found, registered, told, present⟩
  obtain ⟨earlier, found', standing⟩ := quiet.found_before found
  have sameOwner := Connection.standing_field Connection.keyOwner rfl standing
  have sameFilters := Connection.standing_field Connection.keyFilters rfl standing
  have patterns := quiet.field Server.keyPatterns rfl
  have replaced := quiet.field Server.replaced rfl
  have routed : before.Routed conn earlier := by
    refine ⟨found', ?_, ?_, replaced ▸ present⟩
    · rw [Connection.standing_field Connection.registered rfl standing]
      exact registered
    · rw [Connection.standing_field Connection.toldGone rfl standing]
      exact told
  have same := keyed conn earlier routed
  simp only [takesKey, declaresKey, sameOwner, sameFilters] at same ⊢
  rw [patterns]
  exact same

theorem Keyed.fits (keyed : Keyed env handler server) (routed : server.Routed conn peer)
    (lastResort : Bool) : server.fits handler lastResort conn =
      (peer.free lastResort && declaresKey env.re2 handler peer) := by
  simp only [Server.fits, routed.1, any_some, keyed conn peer routed]

theorem Keyed.eligible {vacated : Option UInt64} (keyed : Keyed env handler server)
    (sound : Sound vacated server) (type : UInt32) : server.eligible env handler type =
      (server.ofType type).filter (server.fits handler false) := by
  unfold Server.eligible
  refine filter_congr ?_
  intro conn member
  obtain ⟨peer, routed, -⟩ := (sound.byType type conn).mp member
  rw [keyed.fits routed]
  simp only [routed.1, any_some, Connection.free, Bool.false_eq_true, if_false]
  cases peer.living <;> cases peer.outgoingQueueFull <;> rfl

end Multiplexer.Server
