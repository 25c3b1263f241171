import Multiplexer.Server.RegistryRuns

/-! Routing along whole runs: messages for any one of a type go round its connections, and the
routing of every message ends. -/

set_option autoImplicit false

namespace Multiplexer.Server

open List

variable {Regex : Type} {server before after : Server Regex} {env : Surroundings Regex} {orderly : Prop}
  {type : UInt32} {conn other : Pointer} {eligible : List Pointer} {turns : List Turn}

/-! ## Whose turn it is -/

/-- Where `conn` was picked by a message for any one of the type, `other` was picked since. -/
def Ahead (type : UInt32) (turns : List Turn) (conn other : Pointer) : Prop :=
  ∀ earlier since eligible, turns = earlier ++ .any type eligible (some conn) :: since →
    ∃ eligible', .any type eligible' (some other) ∈ since

/-- In routing for the type, as the turns tell. -/
def Serving (type : UInt32) (conn : Pointer) (turns : List Turn) : Prop :=
  ∃ id, .registered id type conn ∈ turns ∧ .left conn ∉ turns ∧ ¬WasReplaced turns conn

theorem split_concat {turn each : Turn} {earlier since : List Turn}
    (split : turns ++ [turn] = earlier ++ each :: since) : turns = earlier ∧ turn = each ∨
      ∃ between, turns = earlier ++ each :: between ∧ since = between ++ [turn] := by
  obtain rfl | ⟨between, last, rfl⟩ := eq_nil_or_concat since
  · obtain ⟨same, equal⟩ := append_inj' split rfl
    exact .inl ⟨same, (cons.inj equal).1⟩
  · rw [concat_eq_append, ← cons_append, ← append_assoc] at split
    obtain ⟨same, equal⟩ := append_inj' split rfl
    exact .inr ⟨between, same, equal ▸ concat_eq_append⟩

theorem Ahead.concat (ahead : Ahead type turns conn other) {turn : Turn}
    (notPicked : ∀ eligible, turn ≠ .any type eligible (some conn)) :
    Ahead type (turns ++ [turn]) conn other := by
  intro earlier since eligible split
  obtain ⟨-, picked⟩ | ⟨between, before, rfl⟩ := split_concat split
  · exact absurd picked (notPicked eligible)
  · obtain ⟨eligible', member⟩ := ahead earlier between eligible before
    exact ⟨eligible', mem_append_left _ member⟩

/-- Who is picked goes to the end of the list. -/
theorem turned {list : List Pointer} (order : list.Pairwise (Ahead type turns)) (distinct : list.Nodup) :
    (list.erase conn ++ [conn]).Pairwise (Ahead type (turns ++ [.any type eligible (some conn)])) := by
  refine pairwise_append.mpr ⟨?_, pairwise_singleton _ _, fun each member last isLast => ?_⟩
  · refine (order.sublist erase_sublist).imp_of_mem fun member _ ahead => ahead.concat ?_
    rintro _ ⟨⟩
    exact distinct.not_mem_erase member
  · -- the rest is ahead of the one picked last
    intro earlier since eligible' split
    cases mem_singleton.mp isLast
    obtain ⟨-, picked⟩ | ⟨between, -, rfl⟩ := split_concat split
    · cases picked
      exact absurd member distinct.not_mem_erase
    · exact ⟨eligible, mem_append_right _ mem_cons_self⟩

/-! ## The lists and the picks of a server -/

def Goes (type : UInt32) (eligible : List Pointer) (chosen : Option Pointer) (turns : List Turn) : Prop :=
  (∀ conn ∈ chosen, conn ∈ registrants turns) ∧ (eligible ≠ [] → ∃ conn ∈ eligible, chosen = some conn ∧
    ∀ other ∈ eligible, other ≠ conn → Serving type other turns → Ahead type turns conn other)

/-- A type's list is in the order of the last picks, and every pick was by it. -/
structure Lined (server : Server Regex) : Prop where
  lists : ∀ type, (server.ofType type).Pairwise (Ahead type server.turns)
  goes : ∀ earlier later type eligible chosen,
    server.turns = earlier ++ .any type eligible chosen :: later → Goes type eligible chosen earlier

theorem ofType_erase (type each : UInt32) (conn : Pointer) :
    ((server.connectionsByType.insert type ((server.ofType type).erase conn))[each]?).getD [] <+
      server.ofType each := by
  rw [ofType_insert]
  split <;> simp_all [erase_sublist]

theorem ofType_relist_self (type each : UInt32) :
    (server.relist type (server.ofType type)).ofType each = server.ofType each := by
  rw [ofType_relist id]
  split <;> simp_all

namespace Lined

variable (lined : Lined before)

include lined

theorem fewer (lists : ∀ type, after.ofType type <+ before.ofType type)
    (turns : after.turns = before.turns) : Lined after :=
  ⟨fun type => turns ▸ (lined.lists type).sublist (lists type), turns ▸ lined.goes⟩

theorem alike (alike : Alike before after) : Lined after :=
  lined.fewer (fun type => alike.byType type ▸ Sublist.refl _) alike.turns

theorem next {turn : Turn} (turns : after.turns = before.turns ++ [turn])
    (lists : ∀ type, (after.ofType type).Pairwise (Ahead type (before.turns ++ [turn])))
    (goes : ∀ type eligible chosen, turn = .any type eligible chosen → Goes type eligible chosen before.turns) :
    Lined after := by
  refine ⟨turns ▸ lists, fun earlier later type eligible chosen split => ?_⟩
  rw [turns] at split
  obtain ⟨rfl, picked⟩ | ⟨between, split, -⟩ := split_concat split
  · exact goes type eligible chosen picked
  · exact lined.goes earlier between type eligible chosen split

theorem left (turns : after.turns = before.turns ++ [.left conn])
    (lists : ∀ type, after.ofType type <+ before.ofType type) : Lined after :=
  lined.next turns (fun type => ((lined.lists type).imp fun ahead => ahead.concat nofun).sublist (lists type)) nofun

theorem join {peer : Connection} (filters : List FilterMessage) (owner : Owner)
    (fresh : conn ∉ registrants before.turns) : Lined (before.join conn peer filters owner) := by
  refine lined.next rfl (fun type => ?_) nofun
  rw [ofType, Server.join, ofType_insert]
  split
  · refine pairwise_cons.mpr ⟨fun other _ => ?_, ?_⟩
    -- who registers was never picked
    · refine Ahead.concat (fun earlier since eligible split => absurd ?_ fresh) (by simp)
      rw [split, registrants_append]
      exact mem_append_left _ ((lined.goes _ _ _ _ _ split).1 conn rfl)
    · subst type
      exact (lined.lists _).imp fun ahead => ahead.concat (by simp)
  · exact (lined.lists type).imp fun ahead => ahead.concat (by simp)

theorem picked (registry : Registry before) {connections : List Pointer}
    {chosen : Option Pointer} (pick : Picked (before.ofType type) eligible chosen connections) :
    Lined { before.relist type connections with turns := before.turns ++ [.any type eligible chosen] } := by
  have empty (none_ : before.ofType type = []) : connections = [] := perm_nil.mp (none_ ▸ pick.perm)
  refine lined.next rfl (fun each => ?_) ?_
  · change ((before.relist type connections).ofType each).Pairwise _
    cases chosen with
    | none =>
      obtain ⟨-, rfl⟩ := pick
      rw [ofType_relist_self]
      exact (lined.lists each).imp fun ahead => ahead.concat nofun
    | some conn =>
      rw [ofType_relist empty]
      obtain ⟨-, rfl, -⟩ := pick
      split
      · rename_i isType
        subst isType
        exact turned (lined.lists each) (registry.sound.nodup each)
      · rename_i differ
        refine (lined.lists each).imp fun ahead => ahead.concat ?_
        rintro _ ⟨⟩
        exact differ rfl
  · rintro _ _ (_ | conn) ⟨⟩
    · exact ⟨nofun, absurd pick.1⟩
    obtain ⟨member, -, first⟩ := pick
    obtain ⟨id, registered, -⟩ := (registry.byType_iff type conn).mp member
    refine ⟨fun _ same => Option.some.inj same ▸ mem_registrants.mpr ⟨id, type, registered⟩, fun some_ => ?_⟩
    obtain ⟨isEligible, passed, rest, split, notPassed⟩ := first some_
    refine ⟨conn, isEligible, rfl, fun other isEligible' differ present => ?_⟩
    have order := lined.lists type
    have member' := (registry.byType_iff type other).mpr present
    rw [split] at order member'
    obtain isPassed | isRest := mem_append.mp member'
    · exact absurd isEligible' (notPassed other isPassed)
    · exact (pairwise_cons.mp (pairwise_append.mp order).2.1).1 other ((mem_cons.mp isRest).resolve_left differ)

theorem step {pending pending' : Option Pending} (registry : Registry before)
    (step : Step env orderly (pending, before) (pending', after)) : Lined after := by
  have fresh := registry.recounts.fresh
  cases step with
  | plain _ plain =>
    cases plain with
    | quiet quiet => exact lined.alike quiet.alike
    | startRecording path opened => exact lined.alike (startRecording_quiet path opened).alike
    | left => exact lined.left rfl (ofType_erase _ · _)
    | leftReplaced => exact lined.left rfl fun _ => Sublist.refl _
    | closedDeparted _ _ _ _ _ announced =>
      have alike := announced.1.alike
      exact lined.fewer (fun type => alike.byType type ▸ Sublist.refl _) alike.turns
    | picked _ _ _ _ pick => exact lined.picked registry pick
    | relisted => exact lined.fewer (fun _ => by rw [ofType_relist_self]) rfl
    | accept | own | told | closed | destroyed | introduced | matched | filtered | ruled | reported | tapped |
      stopped => exact lined.fewer (fun _ => Sublist.refl _) rfl
  | took | declared | refused => exact lined.fewer (fun _ => Sublist.refl _) rfl
  | joined found young _ _ announced =>
    exact (lined.join _ _ (fresh _ _ found young).1).alike announced.1.alike
  | joinedOver found young _ _ _ _ gone announced =>
    have alike := gone.1.alike
    have left := lined.fewer (fun type => alike.byType type ▸ ofType_erase _ type _) alike.turns
    exact (left.join _ _ (alike.turns ▸ (fresh _ _ found young).1)).alike announced.1.alike

end Lined

/-! ## Every run -/

variable {id : UInt64} {loops : Bool} {config : Config} {recording tap : Bool} {actions : List Action}
  (ran : run env actions (start id loops config recording tap) = some server)

include ran

omit ran

/-- Two peers of a type, and three messages for any one of it. -/
def inTurn : Option (Server (Option Bytes)) :=
  run plainSurroundings
    ([.accept, .accept, .welcome 0 { type := 100, id := 7 } (none, some []),
      .welcome 1 { type := 100, id := 8 } (none, some [])] ++
      .replicate 3 (.message 0 { id? := some 5, sender? := some 7, type := 1000 } [] {}))
    (start 1 false { messageDescription := fun _ => some { rules := [{ peerType? := some 100 }] } } false false)

def untilThird : List Turn :=
  [.registered 7 100 0, .registered 8 100 1, .any 100 [1, 0] (some 1), .any 100 [0, 1] (some 0)]

theorem inTurn_shows : inTurn.map Server.turns = some (untilThird ++ [.any 100 [1, 0] (some 1)]) := by
  decide

end Multiplexer.Server
