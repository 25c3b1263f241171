import Multiplexer.Server.RegistryInvariants

/-! The key filter owners over whole runs: a connection holds the number it took until it
leaves, the index serves exactly the filters of those that hold one, and what was taken is
given back once. -/

set_option autoImplicit false

namespace Multiplexer.Server

open List Function

variable {Regex : Type} {server before after : Server Regex}

/-! ## The log -/

def takers (owned : List OwnerTurn) : List Pointer :=
  owned.filterMap fun
    | .taken conn _ => some conn
    | .released _ _ => none

def releasers (owned : List OwnerTurn) : List Pointer :=
  owned.filterMap fun
    | .taken _ _ => none
    | .released conn _ => some conn

theorem takers_append (first second : List OwnerTurn) :
    takers (first ++ second) = takers first ++ takers second := filterMap_append

theorem releasers_append (first second : List OwnerTurn) :
    releasers (first ++ second) = releasers first ++ releasers second := filterMap_append

theorem takers_released (owned : List OwnerTurn) (conn : Pointer) (owner : Owner) :
    takers (owned ++ [.released conn owner]) = takers owned := by
  rw [takers_append]
  exact append_nil _

theorem releasers_released (owned : List OwnerTurn) (conn : Pointer) (owner : Owner) :
    releasers (owned ++ [.released conn owner]) = releasers owned ++ [conn] :=
  releasers_append _ _

theorem takers_taken (owned : List OwnerTurn) (conn : Pointer) (owner : Owner) :
    takers (owned ++ [.taken conn owner]) = takers owned ++ [conn] := takers_append _ _

theorem releasers_taken (owned : List OwnerTurn) (conn : Pointer) (owner : Owner) :
    releasers (owned ++ [.taken conn owner]) = releasers owned := by
  rw [releasers_append]
  exact append_nil _

variable {owned : List OwnerTurn}

theorem mem_takers {conn : Pointer} : conn ∈ takers owned ↔ ∃ owner, .taken conn owner ∈ owned := by
  simp only [takers, mem_filterMap]
  constructor
  · rintro ⟨turn, member, found⟩
    cases turn with
    | taken _ owner =>
      cases found
      exact ⟨owner, member⟩
    | released => cases found
  · rintro ⟨_, member⟩
    exact ⟨_, member, rfl⟩

theorem mem_releasers {conn : Pointer} :
    conn ∈ releasers owned ↔ ∃ owner, .released conn owner ∈ owned := by
  simp only [releasers, mem_filterMap]
  constructor
  · rintro ⟨turn, member, found⟩
    cases turn with
    | taken => cases found
    | released _ owner =>
      cases found
      exact ⟨owner, member⟩
  · rintro ⟨_, member⟩
    exact ⟨_, member, rfl⟩

theorem count_le_count_filterMap {α β : Type} [DecidableEq α] [DecidableEq β] {f : α → Option β}
    {each : α} {image : β} (same : f each = some image) (list : List α) :
    list.count each ≤ (list.filterMap f).count image := by
  rw [count_filterMap, List.count]
  refine countP_mono_left ?_
  intro _ _ equal
  rw [eq_of_beq equal, same]
  exact beq_self_eq_true _

theorem count_taken (once : (takers owned).Nodup) (conn : Pointer) (owner : Owner) :
    owned.count (.taken conn owner) ≤ 1 := by
  refine le_trans ?_ (nodup_iff_count_le_one.mp once conn)
  refine count_le_count_filterMap ?_ owned
  rfl

theorem count_released (once : (releasers owned).Nodup) (conn : Pointer) (owner : Owner) :
    owned.count (.released conn owner) ≤ 1 := by
  refine le_trans ?_ (nodup_iff_count_le_one.mp once conn)
  refine count_le_count_filterMap ?_ owned
  rfl

/-! ## Who holds a number -/

theorem exactMatch_setRun (env : Surroundings Regex) (type : Nat) (key : Bytes) (patterns : KeyPatterns Regex) :
    patterns.exactMatch env.re2 type key (setRun env type key patterns) = true := by
  unfold KeyPatterns.exactMatch setRun
  dsimp only
  cases lookup : patterns.types.lookup type with
  | none => rfl
  | some filtered =>
    have same (hits : Option (List Nat)) (compiles : Nat → Bool) :
        KeyPatterns.fetch env.re2 ⟨compiles, hits⟩ filtered =
          KeyPatterns.fetch env.re2 ⟨compiles, none⟩ filtered := rfl
    simp only [Option.bind_some, same]
    cases texts : (KeyPatterns.fetch env.re2 ⟨env.setCompiles (patterns.evaluations + 1), none⟩ filtered).set with
    | none => rfl
    | some texts => exact env.exact _ _ _

theorem matchKey_serves (env : Surroundings Regex) {patterns : KeyPatterns Regex}
    {declared : KeyPatterns.Declared} (type : Nat) (key : Bytes)
    (serves : KeyPatterns.Serves env.re2 patterns declared) :
    KeyPatterns.Serves env.re2 (patterns.matchKey env.re2 type key (setRun env type key patterns)).2 declared := by
  cases matched : (patterns.matchKey env.re2 type key (setRun env type key patterns)).1 with
  | none =>
    unfold KeyPatterns.matchKey at matched ⊢
    split at matched
    · exact serves
    · split at matched <;> cases matched
  | some =>
    exact (KeyPatterns.matchKey_some serves env.literal (exactMatch_setRun env type key patterns) matched).2.1

/-- A connection holds an owner number with filters under it. -/
def Holds (pending : Option Pending) (server : Server Regex) (conn : Pointer) (owner : Owner)
    (own : List KeyFilter) : Prop :=
  (∃ peer, server.connections conn = some peer ∧ peer.registered = true ∧
      peer.toldGone = false ∧ peer.keyOwner = owner ∧
      peer.keyFilters.map FilterMessage.filter = own) ∨
    pending = some ⟨conn, owner, own⟩

structure Owning (env : Surroundings Regex) (pending : Option Pending) (server : Server Regex) : Prop where
  serves : ∃ declared, KeyPatterns.Serves env.re2 server.keyPatterns declared ∧
    ∀ owner own, declared owner = some own ↔ ∃ conn, Holds pending server conn owner own
  alone : ∀ first second owner own own', Holds pending server first owner own →
    Holds pending server second owner own' → first = second
  known : ∀ conn ∈ takers server.owned, conn < server.accepted
  takenOnce : (takers server.owned).Nodup
  releasedOnce : (releasers server.owned).Nodup
  paired : ∀ conn owner, .released conn owner ∈ server.owned → .taken conn owner ∈ server.owned
  balanced : ∀ conn owner, .taken conn owner ∈ server.owned →
    conn ∈ releasers server.owned ∨ ∃ own, Holds pending server conn owner own
  held : ∀ conn owner own, Holds pending server conn owner own →
    .taken conn owner ∈ server.owned ∧ conn ∉ releasers server.owned
  fresh : ∀ conn peer, server.connections conn = some peer → peer.Young →
    conn ∈ takers server.owned → ∃ owner own, pending = some ⟨conn, owner, own⟩
  underWay : ∀ conn owner own, pending = some ⟨conn, owner, own⟩ →
    ∀ peer, server.connections conn = some peer → peer.registered = false

namespace Owning

variable {env : Surroundings Regex} {orderly : Prop} {pending pending' : Option Pending}

variable {conn : Pointer} {peer : Connection} {owner : Owner}

theorem unheld (owning : Owning env pending server)
    (found : server.connections conn = some peer) (registered : peer.registered = true)
    (held : Pending) (isPending : pending = some held) : held.conn ≠ conn := by
  rintro rfl
  have unregistered := owning.underWay _ _ _ isPending peer found
  cases registered.symm.trans unregistered

theorem one (owning : Owning env pending server) {owner' : Owner} {own own' : List KeyFilter}
    (holds : Holds pending server conn owner own) (holds' : Holds pending server conn owner' own') :
    owner = owner' ∧ own = own' := by
  obtain ⟨peer, found, registered, _, rfl, rfl⟩ | isPending := holds
  · obtain ⟨_, found', -, -, rfl, rfl⟩ | isPending := holds'
    · cases found.symm.trans found'
      exact ⟨rfl, rfl⟩
    · exact absurd rfl (owning.unheld found registered _ isPending)
  · obtain ⟨_, found, registered, -⟩ | isPending' := holds'
    · exact absurd rfl (owning.unheld found registered _ isPending)
    · cases isPending.symm.trans isPending'
      exact ⟨rfl, rfl⟩

theorem same (owning : Owning env pending before) (holds : ∀ conn owner own,
      Holds pending' after conn owner own ↔ Holds pending before conn owner own)
    (patterns : ∀ declared, KeyPatterns.Serves env.re2 before.keyPatterns declared →
      KeyPatterns.Serves env.re2 after.keyPatterns declared)
    (owned : after.owned = before.owned) (accepted : before.accepted ≤ after.accepted)
    (young : ∀ conn peer, after.connections conn = some peer → peer.Young → conn ∈ takers before.owned →
        (∃ peer', before.connections conn = some peer' ∧ peer'.Young) ∧
          ∀ owner own, pending = some ⟨conn, owner, own⟩ → pending' = some ⟨conn, owner, own⟩)
    (underWay : ∀ conn owner own, pending' = some ⟨conn, owner, own⟩ →
      ∀ peer, after.connections conn = some peer → peer.registered = false) :
    Owning env pending' after := by
  refine ⟨?_, ?_, ?_, ?_, ?_, ?_, ?_, ?_, ?_, underWay⟩
  · obtain ⟨declared, serves, who⟩ := owning.serves
    refine ⟨declared, patterns declared serves, fun owner own => ?_⟩
    simp only [holds]
    exact who owner own
  · intro first second owner own own' one two
    rw [holds] at one two
    exact owning.alone first second owner own own' one two
  · intro conn member
    rw [owned] at member
    exact (owning.known conn member).trans_le accepted
  · rw [owned]
    exact owning.takenOnce
  · rw [owned]
    exact owning.releasedOnce
  · rw [owned]
    exact owning.paired
  · intro conn owner member
    simp only [holds]
    rw [owned] at member ⊢
    exact owning.balanced conn owner member
  · intro conn owner own isHolder
    rw [owned]
    exact owning.held conn owner own ((holds conn owner own).mp isHolder)
  · intro conn peer found isYoung member
    rw [owned] at member
    obtain ⟨⟨peer', found', wasYoung⟩, stays⟩ := young conn peer found isYoung member
    obtain ⟨owner, own, isPending⟩ := owning.fresh conn peer' found' wasYoung member
    exact ⟨owner, own, stays owner own isPending⟩

theorem alike (owning : Owning env pending before) (alike : Alike before after)
    (keys : ∀ conn peer peer', before.connections conn = some peer →
      after.connections conn = some peer' → peer.registered = true → peer'.keyOwner = peer.keyOwner ∧
          peer'.keyFilters = peer.keyFilters)
    (patterns : ∀ declared, KeyPatterns.Serves env.re2 before.keyPatterns declared →
      KeyPatterns.Serves env.re2 after.keyPatterns declared)
    (owned : after.owned = before.owned) : Owning env pending after := by
  refine owning.same ?_ patterns owned (Nat.le_of_eq alike.accepted.symm) ?_ ?_
  · intro conn owner own
    refine or_congr_left ?_
    constructor
    · rintro ⟨peer', found', registered, told, rfl, rfl⟩
      obtain ⟨peer, found, similar⟩ := alike.back conn peer' found'
      rw [similar.registered] at registered
      obtain ⟨sameOwner, sameFilters⟩ := keys conn peer peer' found found' registered
      exact ⟨peer, found, registered, (similar.member registered).1 ▸ told, sameOwner.symm, by rw [sameFilters]⟩
    · rintro ⟨peer, found, registered, told, rfl, rfl⟩
      obtain ⟨peer', found', similar⟩ := alike.forth conn peer found
      obtain ⟨sameOwner, sameFilters⟩ := keys conn peer peer' found found' registered
      exact ⟨peer', found', similar.registered.trans registered,
        (similar.member registered).1.trans told, sameOwner, by rw [sameFilters]⟩
  · intro conn peer' found' young _
    obtain ⟨peer, found, similar⟩ := alike.back conn peer' found'
    exact ⟨⟨peer, found, similar.young young⟩, fun _ _ isPending => isPending⟩
  · intro conn owner own isPending peer' found'
    obtain ⟨peer, found, similar⟩ := alike.back conn peer' found'
    exact similar.registered.trans (owning.underWay conn owner own isPending peer found)

theorem quiet (owning : Owning env pending before) (quiet : Quiet before after) :
    Owning env pending after := by
  refine owning.alike quiet.alike ?_ ?_ ?_
  · intro _ _ _ found found' _
    obtain ⟨_, isFound, standing⟩ := quiet.found found
    cases found'.symm.trans isFound
    exact ⟨Connection.standing_field Connection.keyOwner rfl standing,
      Connection.standing_field Connection.keyFilters rfl standing⟩
  · obtain ⟨_, _, _, _, _, rfl⟩ := quiet.same
    exact fun _ serves => serves
  · obtain ⟨_, _, _, _, _, rfl⟩ := quiet.same
    rfl

theorem put (owning : Owning env pending server) {peer' : Connection}
    (found : server.connections conn = some peer) (similar : peer.Similar peer')
    (keys : peer.registered = true → peer'.keyOwner = peer.keyOwner ∧ peer'.keyFilters = peer.keyFilters) :
    Owning env pending (server.put conn peer') := by
  refine owning.alike (put_alike found similar) ?_ (fun _ serves => serves) rfl
  intro _ _ _ isFound isFound' registered
  obtain ⟨rfl, rfl⟩ | ⟨_, isFound'⟩ := (found_put rfl).mp isFound'
  · cases found.symm.trans isFound
    exact keys registered
  · cases isFound.symm.trans isFound'
    exact ⟨rfl, rfl⟩

theorem release (owning : Owning env pending before) {own : List KeyFilter}
    (was : Holds pending before conn owner own)
    (holds : ∀ each owner own, Holds pending' after each owner own ↔
      each ≠ conn ∧ Holds pending before each owner own)
    (pendings : ∀ held : Pending, pending' = some held ↔ held.conn ≠ conn ∧ pending = some held)
    (patterns : after.keyPatterns = before.keyPatterns.removeOwner owner)
    (owned : after.owned = before.owned ++ [.released conn owner])
    (accepted : after.accepted = before.accepted)
    (young : ∀ each peer, after.connections each = some peer → peer.Young →
      each ≠ conn ∧ before.connections each = some peer)
    (others : ∀ each, each ≠ conn → after.connections each = before.connections each) :
    Owning env pending' after := by
  obtain ⟨taken, notReleased⟩ := owning.held conn owner own was
  have released_only {each : Pointer} {number : Owner} :
      .taken each number ∈ after.owned ↔ .taken each number ∈ before.owned := by
    rw [owned]
    simp
  have releasers_now : releasers after.owned = releasers before.owned ++ [conn] := by
    rw [owned, releasers_released]
  refine ⟨?_, ?_, ?_, ?_, ?_, ?_, ?_, ?_, ?_, ?_⟩
  · obtain ⟨declared, serves, who⟩ := owning.serves
    refine ⟨_, patterns ▸ KeyPatterns.removeOwner_serves serves owner, fun number list => ?_⟩
    simp only [holds, update_apply]
    split
    · rename_i same
      subst same
      constructor
      · nofun
      · rintro ⟨each, differ, isHolder⟩
        exact absurd (owning.alone each conn number list own isHolder was) differ
    · rename_i differ
      rw [who]
      constructor
      · rintro ⟨each, isHolder⟩
        refine ⟨each, ?_, isHolder⟩
        rintro rfl
        exact differ (owning.one isHolder was).1
      · rintro ⟨each, -, isHolder⟩
        exact ⟨each, isHolder⟩
  · intro first second number list list' one two
    rw [holds] at one two
    exact owning.alone first second number list list' one.2 two.2
  · intro each member
    rw [owned, takers_released] at member
    rw [accepted]
    exact owning.known each member
  · rw [owned, takers_released]
    exact owning.takenOnce
  · rw [releasers_now, nodup_append]
    refine ⟨owning.releasedOnce, nodup_singleton conn, ?_⟩
    rintro each member _ isConn rfl
    rw [mem_singleton] at isConn
    exact notReleased (isConn ▸ member)
  · intro each number member
    rw [released_only]
    rw [owned, mem_append, mem_singleton] at member
    obtain member | same := member
    · exact owning.paired each number member
    · cases same
      exact taken
  · intro each number member
    rw [releasers_now, mem_append, mem_singleton]
    simp only [holds]
    by_cases same : each = conn
    · exact .inl (.inr same)
    · obtain member | ⟨list, isHolder⟩ := owning.balanced each number (released_only.mp member)
      · exact .inl (.inl member)
      · exact .inr ⟨list, same, isHolder⟩
  · intro each number list isHolder
    obtain ⟨differ, isHolder⟩ := (holds each number list).mp isHolder
    obtain ⟨taken, notReleased⟩ := owning.held each number list isHolder
    rw [released_only, releasers_now, mem_append, mem_singleton]
    exact ⟨taken, not_or.mpr ⟨notReleased, differ⟩⟩
  · intro each peer found isYoung member
    obtain ⟨differ, found⟩ := young each peer found isYoung
    rw [owned, takers_released] at member
    obtain ⟨number, list, isPending⟩ := owning.fresh each peer found isYoung member
    exact ⟨number, list, (pendings _).mpr ⟨differ, isPending⟩⟩
  · intro each number list isPending
    obtain ⟨differ, isPending⟩ := (pendings _).mp isPending
    rw [others each differ]
    exact owning.underWay each number list isPending

theorem redeclare (owning : Owning env pending before) {old new : List KeyFilter}
    (was : Holds pending before conn owner old)
    (holds : ∀ each number list, Holds pending' after each number list ↔
      each = conn ∧ number = owner ∧ list = new ∨ each ≠ conn ∧ Holds pending before each number list)
    (pendings : ∀ each number, (∃ list, pending = some ⟨each, number, list⟩) ↔
      ∃ list, pending' = some ⟨each, number, list⟩)
    (set : before.keyPatterns.setFilters env.re2 owner new = (.ok (), after.keyPatterns))
    (owned : after.owned = before.owned) (accepted : after.accepted = before.accepted)
    (young : ∀ each peer, after.connections each = some peer → peer.Young → before.connections each = some peer)
    (unregistered : ∀ each number list, pending = some ⟨each, number, list⟩ →
      after.connections each = before.connections each) : Owning env pending' after := by
  refine ⟨?_, ?_, ?_, ?_, ?_, ?_, ?_, ?_, ?_, ?_⟩
  · obtain ⟨declared, serves, who⟩ := owning.serves
    have served := KeyPatterns.setFilters_serves serves ((who owner old).mpr ⟨conn, was⟩) (congrArg Prod.fst set)
    rw [set] at served
    refine ⟨_, served, fun number list => ?_⟩
    simp only [holds, update_apply]
    split
    · rename_i same
      subst same
      constructor
      · rintro ⟨⟩
        exact ⟨conn, .inl ⟨rfl, rfl, rfl⟩⟩
      · rintro ⟨each, ⟨-, -, rfl⟩ | ⟨differ, isHolder⟩⟩
        · rfl
        · exact absurd (owning.alone each conn number list old isHolder was) differ
    · rename_i differ
      rw [who]
      constructor
      · rintro ⟨each, isHolder⟩
        refine ⟨each, .inr ⟨?_, isHolder⟩⟩
        rintro rfl
        exact differ (owning.one isHolder was).1
      · rintro ⟨each, ⟨-, same, -⟩ | ⟨-, isHolder⟩⟩
        · exact absurd same differ
        · exact ⟨each, isHolder⟩
  · have holder {each : Pointer} {number : Owner} {list : List KeyFilter}
        (isHolder : Holds pending' after each number list) :
        ∃ list, Holds pending before each number list := by
      obtain ⟨rfl, rfl, -⟩ | ⟨-, isHolder⟩ := (holds each number list).mp isHolder
      · exact ⟨old, was⟩
      · exact ⟨list, isHolder⟩
    intro first second number list _ one two
    obtain ⟨_, one⟩ := holder one
    obtain ⟨_, two⟩ := holder two
    exact owning.alone first second number _ _ one two
  · rw [owned, accepted]
    exact owning.known
  · rw [owned]
    exact owning.takenOnce
  · rw [owned]
    exact owning.releasedOnce
  · rw [owned]
    exact owning.paired
  · intro each number member
    rw [owned] at member ⊢
    obtain member | ⟨list, isHolder⟩ := owning.balanced each number member
    · exact .inl member
    · by_cases same : each = conn
      · subst same
        exact .inr ⟨new, (holds _ _ _).mpr (.inl ⟨rfl, (owning.one isHolder was).1, rfl⟩)⟩
      · exact .inr ⟨list, (holds _ _ _).mpr (.inr ⟨same, isHolder⟩)⟩
  · intro each number list isHolder
    rw [owned]
    obtain ⟨rfl, rfl, -⟩ | ⟨-, isHolder⟩ := (holds each number list).mp isHolder
    · exact owning.held each number old was
    · exact owning.held each number list isHolder
  · intro each peer found isYoung member
    rw [owned] at member
    obtain ⟨number, list, isPending⟩ :=
      owning.fresh each peer (young each peer found isYoung) isYoung member
    obtain ⟨list, isPending⟩ := (pendings each number).mp ⟨list, isPending⟩
    exact ⟨number, list, isPending⟩
  · intro each number list isPending
    obtain ⟨list, isPending⟩ := (pendings each number).mpr ⟨list, isPending⟩
    rw [unregistered each number list isPending]
    exact owning.underWay each number list isPending

theorem left (owning : Owning env pending server)
    (found : server.connections conn = some peer) (registered : peer.registered = true)
    (told : peer.toldGone = false)
    (connections : after.connections = (server.put conn peer.gone).connections)
    (patterns : after.keyPatterns = server.keyPatterns.removeOwner peer.keyOwner)
    (owned : after.owned = server.owned ++ [.released conn peer.keyOwner])
    (accepted : after.accepted = server.accepted) : Owning env pending after := by
  have member := owning.unheld found registered
  have others (each : Pointer) (differ : each ≠ conn) : after.connections each = server.connections each := by
    rw [connections, put_connections, if_neg differ]
  refine owning.release (.inl ⟨peer, found, registered, told, rfl, rfl⟩) ?_ ?_ patterns owned accepted ?_ others
  · intro each _ _
    constructor
    · rintro (⟨other, isFound, isRegistered, notTold, rest⟩ | isPending)
      · obtain ⟨-, rfl⟩ | ⟨differ, isFound⟩ := (found_put connections).mp isFound
        · cases notTold
        · exact ⟨differ, .inl ⟨other, isFound, isRegistered, notTold, rest⟩⟩
      · exact ⟨member _ isPending, .inr isPending⟩
    · rintro ⟨differ, ⟨other, isFound, rest⟩ | isPending⟩
      · exact .inl ⟨other, (others each differ).trans isFound, rest⟩
      · exact .inr isPending
  · intro held
    exact ⟨fun isPending => ⟨member held isPending, isPending⟩, And.right⟩
  · intro _ _ isFound young
    obtain ⟨-, rfl⟩ | ⟨differ, isFound⟩ := (found_put connections).mp isFound
    · exact absurd young (not_young registered)
    · exact ⟨differ, isFound⟩

theorem unaffected (owning : Owning env pending server)
    (forth : ∀ conn peer, server.connections conn = some peer → peer.registered = true → peer.toldGone = false →
        ∃ peer', after.connections conn = some peer' ∧ peer'.registered = true ∧ peer'.toldGone = false ∧
          peer'.keyOwner = peer.keyOwner ∧
          peer'.keyFilters = peer.keyFilters)
    (back : ∀ conn peer', after.connections conn = some peer' →
      peer'.registered = true → peer'.toldGone = false → ∃ peer, server.connections conn = some peer ∧
          peer.registered = true ∧ peer.toldGone = false ∧
          peer'.keyOwner = peer.keyOwner ∧
          peer'.keyFilters = peer.keyFilters)
    (patterns : after.keyPatterns = server.keyPatterns) (owned : after.owned = server.owned)
    (accepted : server.accepted ≤ after.accepted)
    (young : ∀ conn peer, after.connections conn = some peer → peer.Young →
      conn < server.accepted → server.connections conn = some peer)
    (registered : ∀ conn peer', after.connections conn = some peer' →
      peer'.registered = true → ∃ peer, server.connections conn = some peer ∧
        peer.registered = true) : Owning env pending after := by
  refine owning.same ?_ (fun _ serves => patterns ▸ serves) owned accepted ?_ ?_
  · intro conn owner own
    refine or_congr_left ?_
    constructor
    · rintro ⟨peer', found, registered, told, rfl, rfl⟩
      obtain ⟨peer, found, registered, told, sameOwner, sameFilters⟩ :=
        back conn peer' found registered told
      exact ⟨peer, found, registered, told, sameOwner.symm, by rw [sameFilters]⟩
    · rintro ⟨peer, found, registered, told, rfl, rfl⟩
      obtain ⟨peer', found, registered, told, sameOwner, sameFilters⟩ :=
        forth conn peer found registered told
      exact ⟨peer', found, registered, told, sameOwner, by rw [sameFilters]⟩
  · intro conn peer found isYoung member
    exact ⟨⟨peer, young conn peer found isYoung (owning.known conn member), isYoung⟩,
      fun _ _ isPending => isPending⟩
  · intro conn _ _ isPending peer' found'
    by_contra isRegistered
    rw [Bool.not_eq_false] at isRegistered
    obtain ⟨_, found, isRegistered⟩ := registered conn peer' found' isRegistered
    exact owning.unheld found isRegistered _ isPending rfl

theorem unseen (owning : Owning env pending before) (unseen : Unseen before after) :
    Owning env pending after := by
  have earlier := @Unseen.registered_before _ _ _ unseen
  obtain ⟨⟨_, _, rfl⟩, grows, still, came⟩ := unseen
  refine owning.unaffected ?_ ?_ rfl rfl grows ?_ ?_
  · intro conn peer found registered told
    exact ⟨peer, still conn peer found registered, registered, told, rfl, rfl⟩
  · intro conn peer found registered told
    exact ⟨peer, earlier found registered, registered, told, rfl, rfl⟩
  · intro conn peer found _ below
    obtain here | ⟨rfl, -⟩ := came conn peer found
    · exact here
    · exact absurd below (Nat.lt_irrefl _)
  · intro _ peer found registered
    exact ⟨peer, earlier found registered, registered⟩

theorem close (owning : Owning env pending server)
    (found : server.connections conn = some peer) (shutsDown : peer.shutsDown = true)
    (told : peer.toldGone = true) : Owning env pending (server.close conn peer) := by
  refine owning.unaffected ?_ ?_ rfl rfl (Nat.le_refl _) ?_ ?_
  · intro each other isFound registered notTold
    refine ⟨other, (found_put rfl).mpr (.inr ⟨?_, isFound⟩), registered, notTold, rfl, rfl⟩
    rintro rfl
    cases found.symm.trans isFound
    cases told.symm.trans notTold
  · intro each other isFound registered notTold
    obtain ⟨-, rfl⟩ | ⟨-, isFound⟩ := (found_put rfl).mp isFound
    · cases registered
    · exact ⟨other, isFound, registered, notTold, rfl, rfl⟩
  · intro each other isFound young _
    obtain ⟨-, rfl⟩ | ⟨-, isFound⟩ := (found_put rfl).mp isFound
    · exact absurd young (not_young_shut shutsDown)
    · exact isFound
  · intro _ other isFound registered
    obtain ⟨-, rfl⟩ | ⟨-, isFound⟩ := (found_put rfl).mp isFound
    · cases registered
    · exact ⟨other, isFound, registered⟩

theorem kept (owning : Owning env pending before) (connections : after.connections = before.connections)
    (patterns : ∀ declared, KeyPatterns.Serves env.re2 before.keyPatterns declared →
      KeyPatterns.Serves env.re2 after.keyPatterns declared)
    (owned : after.owned = before.owned) (accepted : after.accepted = before.accepted) :
    Owning env pending after := by
  refine owning.same ?_ patterns owned (Nat.le_of_eq accepted.symm) ?_ ?_
  · intro conn _ _
    rw [Holds, connections, Holds]
  · intro _ peer found young _
    rw [connections] at found
    exact ⟨⟨peer, found, young⟩, fun _ _ isPending => isPending⟩
  · rw [connections]
    exact owning.underWay

theorem plain (owning : Owning env pending before) (sound : Sound none before)
    (step : Plain env orderly before after) : Owning env pending after := by
  cases step with
  | quiet quiet => exact owning.quiet quiet
  | startRecording path opened => exact owning.quiet (startRecording_quiet path opened)
  | accept => exact owning.unseen (.accept sound)
  | own found own =>
    obtain ⟨_, _, _, _, _, _, _, _, _, rfl⟩ := own.same
    exact owning.put found own.similar (fun _ => ⟨rfl, rfl⟩)
  | told found unregistered shutsDown =>
    exact owning.put found (told_similar unregistered shutsDown) (fun _ => ⟨rfl, rfl⟩)
  | left routed => exact owning.left routed.1 routed.2.1 routed.2.2.1 rfl rfl rfl rfl
  | leftReplaced found registered told =>
    exact owning.left found registered told rfl rfl rfl rfl
  | closed found shutsDown told => exact owning.close found shutsDown told
  | closedDeparted found shutsDown told _ _ announced =>
    exact (owning.close found shutsDown told).quiet announced.1
  | destroyed found closed =>
    obtain ⟨-, -, unregistered⟩ := (sound.steady _ _ found).closed closed
    exact owning.unseen (.destroyed found unregistered)
  | introduced id type routing found young =>
    exact owning.put found (introduced_similar young id type routing) (fun _ => ⟨rfl, rfl⟩)
  | matched type key =>
    exact owning.kept rfl (fun _ serves => matchKey_serves env type key serves) rfl rfl
  | picked | relisted => exact owning.kept rfl (fun _ serves => serves) rfl rfl
  | @filtered conn peer filters keyPatterns found registered told set =>
    have member := owning.unheld found registered
    refine owning.redeclare (.inl ⟨peer, found, registered, told, rfl, rfl⟩) ?_
      (fun _ _ => Iff.rfl) set rfl rfl ?_ ?_
    · intro each number list
      constructor
      · rintro (⟨other, isFound, isRegistered, notTold, rfl, rfl⟩ | isPending)
        · obtain ⟨rfl, rfl⟩ | ⟨differ, isFound⟩ := (found_put rfl).mp isFound
          · exact .inl ⟨rfl, rfl, rfl⟩
          · exact .inr ⟨differ, .inl ⟨other, isFound, isRegistered, notTold, rfl, rfl⟩⟩
        · exact .inr ⟨member _ isPending, .inr isPending⟩
      · rintro (⟨rfl, rfl, rfl⟩ | ⟨differ, ⟨other, isFound, rest⟩ | isPending⟩)
        · exact .inl ⟨_, (found_put rfl).mpr (.inl ⟨rfl, rfl⟩), registered, told, rfl, rfl⟩
        · exact .inl ⟨other, (found_put rfl).mpr (.inr ⟨differ, isFound⟩), rest⟩
        · exact .inr isPending
    · intro each _ isFound young
      obtain ⟨-, rfl⟩ | ⟨-, isFound⟩ := (found_put rfl).mp isFound
      · exact absurd young (not_young registered)
      · exact isFound
    · intro _ _ _ isPending
      exact update_of_ne (member _ isPending) _ _
  | ruled | reported | tapped | stopped => exact owning.kept rfl (fun _ serves => serves) rfl rfl

theorem took (owning : Owning env none server) (found : server.connections conn = some peer) (young : peer.Young)
    (known : conn < server.accepted) :
    Owning env (some ⟨conn, server.keyPatterns.addOwner.1, []⟩)
      { server with
        keyPatterns := server.keyPatterns.addOwner.2
        owned := server.owned ++ [.taken conn server.keyPatterns.addOwner.1] } := by
  obtain ⟨declared, serves, who⟩ := owning.serves
  obtain ⟨isNobodys, serves', -⟩ := KeyPatterns.addOwner_serves serves
  generalize server.keyPatterns.addOwner = handed at *
  obtain ⟨owner, keyPatterns⟩ := handed
  dsimp only at isNobodys serves' ⊢
  have holds (each : Pointer) (number : Owner) (list : List KeyFilter) : Holds (some ⟨conn, owner, []⟩)
          { server with keyPatterns, owned := server.owned ++ [OwnerTurn.taken conn owner] } each
          number list ↔
        each = conn ∧ number = owner ∧ list = [] ∨ Holds none server each number list := by
    simp only [Holds]
    constructor
    · rintro (member | isPending)
      · exact .inr (.inl member)
      · cases isPending
        exact .inl ⟨rfl, rfl, rfl⟩
    · rintro (⟨rfl, rfl, rfl⟩ | member | isPending)
      · exact .inr rfl
      · exact .inl member
      · cases isPending
  have unheld (each : Pointer) (list : List KeyFilter) : ¬Holds none server each owner list := by
    intro isHolder
    have isSome := (who owner list).mpr ⟨each, isHolder⟩
    cases isNobodys.symm.trans isSome
  have untaken : conn ∉ takers server.owned := by
    intro member
    obtain ⟨_, _, isPending⟩ := owning.fresh conn peer found young member
    cases isPending
  refine ⟨⟨_, serves', ?_⟩, ?_, ?_, ?_, ?_, ?_, ?_, ?_, ?_, ?_⟩
  · intro number list
    simp only [holds, update_apply]
    split
    · rename_i same
      subst same
      constructor
      · rintro ⟨⟩
        exact ⟨conn, .inl ⟨rfl, rfl, rfl⟩⟩
      · rintro ⟨each, ⟨-, -, rfl⟩ | isHolder⟩
        · rfl
        · exact absurd isHolder (unheld each list)
    · rename_i differ
      rw [who]
      constructor
      · rintro ⟨each, isHolder⟩
        exact ⟨each, .inr isHolder⟩
      · rintro ⟨each, ⟨-, same, -⟩ | isHolder⟩
        · exact absurd same differ
        · exact ⟨each, isHolder⟩
  · intro first second number list list' one two
    rw [holds] at one two
    obtain ⟨rfl, rfl, -⟩ | one := one
    · obtain ⟨rfl, -⟩ | two := two
      · rfl
      · exact absurd two (unheld second list')
    · obtain ⟨-, rfl, -⟩ | two := two
      · exact absurd one (unheld first list)
      · exact owning.alone first second number list list' one two
  · intro each member
    dsimp only at member
    rw [takers_taken, mem_append, mem_singleton] at member
    obtain member | rfl := member
    · exact owning.known each member
    · exact known
  · dsimp only
    rw [takers_taken, nodup_append]
    refine ⟨owning.takenOnce, nodup_singleton conn, ?_⟩
    rintro each member other isConn rfl
    rw [mem_singleton] at isConn
    exact untaken (isConn ▸ member)
  · dsimp only
    rw [releasers_taken]
    exact owning.releasedOnce
  · intro each number member
    refine mem_append_left _ (owning.paired each number ?_)
    simpa using member
  · intro each number member
    simp only [holds]
    rw [releasers_taken]
    obtain member | same := mem_append.mp member
    · obtain member | ⟨list, isHolder⟩ := owning.balanced each number member
      · exact .inl member
      · exact .inr ⟨list, .inr isHolder⟩
    · cases mem_singleton.mp same
      exact .inr ⟨[], .inl ⟨rfl, rfl, rfl⟩⟩
  · intro each number list isHolder
    rw [holds] at isHolder
    dsimp only
    rw [releasers_taken]
    obtain ⟨rfl, rfl, -⟩ | isHolder := isHolder
    · refine ⟨mem_append_right _ mem_cons_self, fun member => ?_⟩
      obtain ⟨number', released⟩ := mem_releasers.mp member
      exact untaken (mem_takers.mpr ⟨number', owning.paired _ _ released⟩)
    · obtain ⟨taken, notReleased⟩ := owning.held each number list isHolder
      exact ⟨mem_append_left _ taken, notReleased⟩
  · intro each other isFound isYoung member
    dsimp only at member isFound
    rw [takers_taken, mem_append, mem_singleton] at member
    obtain member | rfl := member
    · obtain ⟨_, _, isPending⟩ := owning.fresh each other isFound isYoung member
      cases isPending
    · exact ⟨owner, [], rfl⟩
  · intro _ _ _ isPending _ isFound
    cases isPending
    dsimp only at isFound
    cases found.symm.trans isFound
    exact young.1

theorem joined (owning : Owning env pending server) {filters : List FilterMessage}
    (found : server.connections conn = some peer) (notTold : peer.toldGone = false)
    (isPending : pending = some ⟨conn, owner, filters.map FilterMessage.filter⟩) :
    Owning env none (server.join conn peer filters owner) := by
  refine owning.same ?_ (fun _ serves => serves) rfl (Nat.le_refl _) ?_ (fun _ _ _ => nofun)
  · intro each number list
    constructor
    · rintro (⟨other, isFound, registered, told, rfl, rfl⟩ | isPending)
      · obtain ⟨rfl, rfl⟩ | ⟨-, isFound⟩ := (found_put rfl).mp isFound
        · exact .inr isPending
        · exact .inl ⟨other, isFound, registered, told, rfl, rfl⟩
      · cases isPending
    · rintro (⟨other, isFound, registered, rest⟩ | isPending')
      · refine .inl ⟨other, (found_put rfl).mpr (.inr ⟨?_, isFound⟩), registered, rest⟩
        exact (owning.unheld isFound registered _ isPending).symm
      · cases isPending.symm.trans isPending'
        exact .inl ⟨_, (found_put rfl).mpr (.inl ⟨rfl, rfl⟩), rfl, notTold, rfl, rfl⟩
  · intro _ other isFound young _
    obtain ⟨-, rfl⟩ | ⟨differ, isFound⟩ := (found_put rfl).mp isFound
    · exact absurd young (not_young rfl)
    · refine ⟨⟨other, isFound, young⟩, fun number list isPending' => ?_⟩
      cases isPending.symm.trans isPending'
      exact absurd rfl differ

theorem displace (owning : Owning env pending server) (routed : server.Routed conn peer) :
    Owning env pending (server.displace conn peer) := by
  refine owning.unaffected ?_ ?_ rfl rfl (Nat.le_refl _) ?_ ?_
  · intro each other isFound registered told
    by_cases same : each = conn
    · subst same
      cases routed.eq isFound
      exact ⟨_, (found_put rfl).mpr (.inl ⟨rfl, rfl⟩), registered, told, rfl, rfl⟩
    · exact ⟨other, (found_put rfl).mpr (.inr ⟨same, isFound⟩), registered, told, rfl, rfl⟩
  · intro each other isFound registered told
    obtain ⟨rfl, rfl⟩ | ⟨-, isFound⟩ := (found_put rfl).mp isFound
    · exact ⟨peer, routed.1, registered, told, rfl, rfl⟩
    · exact ⟨other, isFound, registered, told, rfl, rfl⟩
  · intro each other isFound young _
    obtain ⟨-, rfl⟩ | ⟨-, isFound⟩ := (found_put rfl).mp isFound
    · exact absurd young (not_young routed.2.1)
    · exact isFound
  · intro _ other isFound registered
    obtain ⟨rfl, rfl⟩ | ⟨-, isFound⟩ := (found_put rfl).mp isFound
    · exact ⟨peer, routed.1, registered⟩
    · exact ⟨other, isFound, registered⟩

/-- A step keeps who owns which filters. -/
theorem step (owning : Owning env pending before) (sound : Sound none before)
    (step : Step env orderly (pending, before) (pending', after)) : Owning env pending' after := by
  cases step with
  | plain _ step => exact owning.plain sound step
  | took found young => exact owning.took found young (sound.known _ _ found)
  | @declared _ conn owner filters keyPatterns set =>
    refine owning.redeclare (.inr rfl) ?_ ?_ set rfl rfl (fun _ _ found _ => found) (fun _ _ _ _ => rfl)
    · intro each number list
      constructor
      · rintro (⟨other, isFound, registered, rest⟩ | isPending)
        · exact .inr ⟨(owning.unheld isFound registered _ rfl).symm, .inl ⟨other, isFound, registered, rest⟩⟩
        · cases isPending
          exact .inl ⟨rfl, rfl, rfl⟩
      · rintro (⟨rfl, rfl, rfl⟩ | ⟨differ, member | isPending⟩)
        · exact .inr rfl
        · exact .inl member
        · cases isPending
          exact absurd rfl differ
    · intro each number
      constructor
      · rintro ⟨list, isPending⟩
        cases isPending
        exact ⟨filters, rfl⟩
      · rintro ⟨list, isPending⟩
        cases isPending
        exact ⟨[], rfl⟩
  | @refused _ conn peer after owner filters found unregistered own =>
    obtain ⟨_, _, _, _, _, _, _, _, _, same⟩ := own.same
    have still : after.registered = false := by
      rw [same]
      exact unregistered
    refine owning.release (.inr rfl) ?_ ?_ rfl rfl rfl ?_ ?_
    · intro each _ _
      constructor
      · rintro (⟨other, isFound, registered, rest⟩ | isPending)
        · obtain ⟨-, rfl⟩ | ⟨differ, isFound⟩ := (found_put rfl).mp isFound
          · cases still.symm.trans registered
          · exact ⟨differ, .inl ⟨other, isFound, registered, rest⟩⟩
        · cases isPending
      · rintro ⟨differ, ⟨other, isFound, rest⟩ | isPending⟩
        · exact .inl ⟨other, (found_put rfl).mpr (.inr ⟨differ, isFound⟩), rest⟩
        · cases isPending
          exact absurd rfl differ
    · intro _
      constructor
      · nofun
      · rintro ⟨differ, isPending⟩
        cases isPending
        exact absurd rfl differ
    · intro each _ isFound young
      obtain ⟨-, rfl⟩ | ⟨differ, isFound⟩ := (found_put rfl).mp isFound
      · exact absurd young own.old
      · exact ⟨differ, isFound⟩
    · intro _ differ
      exact update_of_ne differ _ _
  | joined found young _ _ announced =>
    have notTold := ((sound.steady _ _ found).young young).2.2.2.1
    exact (owning.joined found notTold rfl).quiet announced.1
  | joinedOver found young routed _ _ _ gone announced =>
    have found' := displaced_young found young routed gone.1
    have notTold := ((sound.steady _ _ found).young young).2.2.2.1
    exact (((owning.displace routed).quiet gone.1).joined found' notTold rfl).quiet announced.1

theorem steps (owning : Owning env pending before) (registry : Registry before)
    (steps : Steps env orderly (pending, before) (pending', after)) : Owning env pending' after :=
  steps.keeps (Owning env) owning fun taken owning step =>
    owning.step (registry.steps taken).sound step

end Owning

end Multiplexer.Server
