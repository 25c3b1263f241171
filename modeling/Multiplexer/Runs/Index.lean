import Multiplexer.Runs.Moves

/-! The index of registered connections: `byPeerId` and the round robin name the same
connections, each once, each living and registered under the id it is named by. -/

set_option autoImplicit false

namespace Multiplexer

open Program List Std

def Conn.footing (conn : Conn) : Bool × Bool × Bool × Bool × Bool × Nat :=
  (conn.living, conn.registered, conn.toldGone, conn.shutsDown, conn.reading, conn.peerId)

structure Conn.Recorded (state : Conn) (id : Nat) : Prop where
  living : state.living = true
  registered : state.registered = true
  untold : state.toldGone = false
  stays : state.shutsDown = false
  named : state.peerId = id

/-- The client hears of a connection's end while it reads on only once it registered, and one
that reads and did not register lives. -/
structure Conn.Orderly (state : Conn) : Prop where
  told : state.toldGone = true → state.shutsDown = false → state.registered = true
  reads : state.reading = true → state.registered = false → state.shutsDown = false → state.living = true

structure Core.Indexed (core : Core) : Prop where
  known : ∀ (conn : ConnId) (state : Conn), core.conns[conn]? = some state → conn ≤ core.nextConn
  orderly : ∀ (conn : ConnId) (state : Conn), core.conns[conn]? = some state → state.Orderly
  entry : ∀ (id : Nat) (conn : ConnId), core.byPeerId[id]? = some conn →
    ∃ state : Conn, core.conns[conn]? = some state ∧ state.Recorded id
  complete : ∀ (conn : ConnId) (state : Conn), core.conns[conn]? = some state →
    state.registered = true → state.toldGone = false → core.byPeerId[state.peerId]? = some conn
  members : ∀ conn : ConnId, conn ∈ core.roundRobin ↔ ∃ id : Nat, core.byPeerId[id]? = some conn
  once : core.roundRobin.Nodup

theorem Conn.footing_of_beatless {state next : Conn} (same : next.beatless = state.beatless) :
    next.footing = state.footing :=
  show next.beatless.footing = state.beatless.footing by rw [same]

theorem Conn.footing_of_bearing {state next : Conn} (same : next.bearing = state.bearing) :
    next.footing = state.footing :=
  show next.bearing.footing = state.bearing.footing by rw [same]

namespace Conn

variable {state next : Conn} (same : next.footing = state.footing)

include same in
theorem Recorded.of_footing {id : Nat} (recorded : state.Recorded id) : next.Recorded id := by
  simp only [footing, Prod.mk.injEq] at same
  obtain ⟨living, registered, told, shut, -, named⟩ := same
  exact ⟨living.trans recorded.living, registered.trans recorded.registered,
    told.trans recorded.untold, shut.trans recorded.stays, named.trans recorded.named⟩

include same in
theorem Orderly.of_footing (orderly : state.Orderly) : next.Orderly := by
  simp only [footing, Prod.mk.injEq] at same
  obtain ⟨living, registered, told, shut, reading, -⟩ := same
  constructor
  · rw [told, shut, registered]
    exact orderly.told
  · rw [reading, registered, shut, living]
    exact orderly.reads

end Conn

/-! ## What leaves the index alone -/

structure Core.Stands (core after : Core) : Prop where
  each : core.Each (fun state next => next.footing = state.footing) after
  index : after.byPeerId = core.byPeerId
  order : after.roundRobin.Perm core.roundRobin
  nextConn : after.nextConn = core.nextConn

namespace Core.Stands

variable {core after : Core}

theorem of_conns (conns : after.conns = core.conns) (index : after.byPeerId = core.byPeerId)
    (order : after.roundRobin.Perm core.roundRobin) (nextConn : after.nextConn = core.nextConn) :
    core.Stands after :=
  ⟨.of_conns (fun _ => rfl) conns, index, order, nextConn⟩

theorem of_aloof (aloof : Aloof core after) : core.Stands after :=
  .of_conns aloof.conns aloof.byPeerId aloof.roundRobin aloof.nextConn

theorem of_insert {conn : ConnId} {state next : Conn} (found : core.conns[conn]? = some state)
    (inserted : after.conns = core.conns.insert conn next) (same : next.footing = state.footing)
    (index : after.byPeerId = core.byPeerId) (order : after.roundRobin.Perm core.roundRobin)
    (nextConn : after.nextConn = core.nextConn) : core.Stands after :=
  ⟨.of_insert (fun _ => rfl) found inserted same, index, order, nextConn⟩

theorem trans {last : Core} (one : core.Stands after) (two : after.Stands last) :
    core.Stands last :=
  ⟨one.each.trans (fun first second => second.trans first) two.each, two.index.trans one.index,
    two.order.trans one.order, two.nextConn.trans one.nextConn⟩

theorem of_steady (steady : Steady core after) (serves : core.Serves after) : core.Stands after :=
  ⟨serves.mono fun serves => Conn.footing_of_bearing serves.bearing, steady.byPeerId,
    steady.roundRobin, steady.nextConn⟩

end Core.Stands

theorem WayIn.stands {α : Type} {program : Client α} (way : WayIn program) (core : Core) :
    core.Stands (program.after core) :=
  .of_steady (way.steady core) (way.serves core)

namespace Core.Indexed

variable {core after : Core} {conn : ConnId} {state : Conn}

section

variable (held : core.Indexed)

include held

theorem stands (stands : core.Stands after) : after.Indexed where
  known conn _ found := by
    obtain ⟨state, before, -⟩ := stands.each.before found
    rw [stands.nextConn]
    exact held.known conn state before
  orderly conn _ found := by
    obtain ⟨state, before, same⟩ := stands.each.before found
    exact (held.orderly conn state before).of_footing same
  entry id conn listed := by
    rw [stands.index] at listed
    obtain ⟨state, found, recorded⟩ := held.entry id conn listed
    obtain ⟨next, read, same⟩ := stands.each.next found
    exact ⟨next, read, recorded.of_footing same⟩
  complete conn _ found registered untold := by
    obtain ⟨state, before, same⟩ := stands.each.before found
    simp only [Conn.footing, Prod.mk.injEq] at same
    obtain ⟨-, wasRegistered, told, -, -, named⟩ := same
    rw [stands.index, named]
    exact held.complete conn state before (wasRegistered.symm.trans registered) (told.symm.trans untold)
  members conn := by
    rw [stands.order.mem_iff, stands.index]
    exact held.members conn
  once := stands.order.nodup_iff.mpr held.once

theorem unique {one two : Nat} (first : core.byPeerId[one]? = some conn)
    (second : core.byPeerId[two]? = some conn) : one = two := by
  obtain ⟨_, found, recorded⟩ := held.entry one conn first
  obtain ⟨_, read, other⟩ := held.entry two conn second
  cases found.symm.trans read
  exact recorded.named.symm.trans other.named

theorem entry_eq (found : core.conns[conn]? = some state) {id : Nat}
    (listed : core.byPeerId[id]? = some conn) : state.Recorded id := by
  obtain ⟨_, read, recorded⟩ := held.entry id conn listed
  cases found.symm.trans read
  exact recorded

theorem put {next : Conn} (bounded : conn ≤ core.nextConn)
    (absent : ∀ id : Nat, core.byPeerId[id]? ≠ some conn)
    (conns : ∀ each : ConnId, after.conns[each]? =
      if each = conn then some next else core.conns[each]?)
    (orderly : next.Orderly) (ended : next.registered = true → next.toldGone = true)
    (index : after.byPeerId = core.byPeerId) (order : after.roundRobin = core.roundRobin)
    (nextConn : after.nextConn = core.nextConn) : after.Indexed where
  known each last found := by
    rw [conns] at found
    rw [nextConn]
    split at found
    · rename_i same
      exact same ▸ bounded
    · exact held.known each last found
  orderly each last found := by
    rw [conns] at found
    split at found
    · cases found
      exact orderly
    · exact held.orderly each last found
  entry id each listed := by
    rw [index] at listed
    have other : each ≠ conn := fun same => absent id (same ▸ listed)
    obtain ⟨last, found, recorded⟩ := held.entry id each listed
    refine ⟨last, ?_, recorded⟩
    rw [conns, if_neg other, found]
  complete each last found registered untold := by
    rw [conns] at found
    rw [index]
    split at found
    · cases found
      cases (ended registered).symm.trans untold
    · exact held.complete each last found registered untold
  members each := by
    rw [order, index]
    exact held.members each
  once := order ▸ held.once

section

variable (found : core.conns[conn]? = some state)

include found

theorem takenOut (listed : core.byPeerId[state.peerId]? = some conn) : { core with
      byPeerId := core.byPeerId.erase state.peerId
      roundRobin := core.roundRobin.filter (· ≠ conn)
      conns := core.conns.insert conn { state with toldGone := true } }.Indexed := by
  have only : ∀ {id : Nat} {each : ConnId}, (core.byPeerId.erase state.peerId)[id]? = some each →
      core.byPeerId[id]? = some each ∧ each ≠ conn := by
    intro id each kept
    rw [Lookup.erase_apply] at kept
    split at kept
    · cases kept
    · rename_i other
      exact ⟨kept, fun same => other (held.unique (same ▸ kept) listed)⟩
  have recorded := held.entry_eq found listed
  constructor
  case known =>
    intro each last read
    change (core.conns.insert conn { state with toldGone := true })[each]? = _ at read
    rw [Lookup.insert_apply] at read
    split at read
    · rename_i same
      exact same ▸ held.known conn state found
    · exact held.known each last read
  case orderly =>
    intro each last read
    change (core.conns.insert conn { state with toldGone := true })[each]? = _ at read
    rw [Lookup.insert_apply] at read
    split at read
    · cases read
      exact ⟨fun _ _ => recorded.registered, (held.orderly conn state found).reads⟩
    · exact held.orderly each last read
  case entry =>
    intro id each kept
    obtain ⟨kept, other⟩ := only kept
    obtain ⟨last, read, stands⟩ := held.entry id each kept
    exact ⟨last, (Lookup.insert_apply _ _ _ _).trans ((if_neg other).trans read), stands⟩
  case complete =>
    intro each last read registered untold
    change (core.conns.insert conn { state with toldGone := true })[each]? = _ at read
    rw [Lookup.insert_apply] at read
    split at read
    · cases read
      cases untold
    · rename_i other
      have kept := held.complete each last read registered untold
      change (core.byPeerId.erase state.peerId)[last.peerId]? = _
      rw [Lookup.erase_apply, if_neg, kept]
      intro same
      rw [same, listed] at kept
      exact other (Option.some.inj kept).symm
  case members =>
    intro each
    change each ∈ core.roundRobin.filter (· ≠ conn) ↔
      ∃ id : Nat, (core.byPeerId.erase state.peerId)[id]? = some each
    rw [mem_filter, decide_eq_true_eq, held.members each]
    constructor
    · rintro ⟨⟨id, kept⟩, other⟩
      refine ⟨id, ?_⟩
      rw [Lookup.erase_apply, if_neg, kept]
      intro same
      rw [same, listed] at kept
      exact other (Option.some.inj kept).symm
    · rintro ⟨id, kept⟩
      exact ⟨⟨id, (only kept).1⟩, (only kept).2⟩
  case once => exact held.once.filter _

theorem leave {gone : Conn} (orderly : gone.Orderly) (told : gone.toldGone = true)
    (conns : ∀ each : ConnId, after.conns[each]? =
      if each = conn then some gone else core.conns[each]?) (index : after.byPeerId =
      if core.lists conn state then core.byPeerId.erase state.peerId else core.byPeerId)
    (order : after.roundRobin =
      if core.lists conn state then core.roundRobin.filter (· ≠ conn) else core.roundRobin)
    (nextConn : after.nextConn = core.nextConn) : after.Indexed := by
  cases lists : core.lists conn state with
  | false =>
    rw [lists, if_neg Bool.false_ne_true] at index order
    refine held.put (held.known conn state found) (fun id listed => ?_) conns orderly
      (fun _ => told) index order nextConn
    have recorded := held.entry_eq found listed
    simp [Core.lists, recorded.registered, recorded.named, listed] at lists
  | true =>
    rw [lists, if_pos rfl] at index order
    simp only [Core.lists, Bool.and_eq_true, decide_eq_true_eq] at lists
    have out := held.takenOut found lists.2
    refine out.put (held.known conn state found) (fun id listed => ?_) (fun each => ?_) orderly
      (fun _ => told) index order nextConn
    · change (core.byPeerId.erase state.peerId)[id]? = some conn at listed
      rw [Lookup.erase_apply] at listed
      split at listed
      · cases listed
      · rename_i other
        exact other (held.unique listed lists.2)
    · rw [conns]
      change _ = if each = conn then some gone else
        (core.conns.insert conn { state with toldGone := true })[each]?
      rw [Lookup.insert_apply]
      split <;> rfl

theorem left {gone : Conn} {between : Core} (orderly : { gone with toldGone := true }.Orderly)
    (conns : between.conns = core.conns.insert conn gone)
    (registered : gone.registered = state.registered) (named : gone.peerId = state.peerId)
    (index : between.byPeerId = core.byPeerId) (order : between.roundRobin = core.roundRobin)
    (nextConn : between.nextConn = core.nextConn) : (between.left conn gone).Indexed := by
  have lists : between.lists conn gone = core.lists conn state := by
    unfold Core.lists
    rw [registered, named, index]
  refine held.leave found orderly rfl (fun each => ?_) ?_ ?_ nextConn
  · change (between.conns.insert conn { gone with toldGone := true })[each]? = _
    rw [Lookup.insert_apply, conns, Lookup.insert_apply]
    split <;> rfl
  · change (if between.lists conn gone then between.byPeerId.erase gone.peerId
      else between.byPeerId) = _
    rw [lists, index, named]
  · change (if between.lists conn gone then between.roundRobin.filter (· ≠ conn)
      else between.roundRobin) = _
    rw [lists, order]

theorem dying : ((Multiplexer.dying conn state).after core).Indexed := by
  have orderly : ∀ told : Bool, { state.dead with toldGone := told }.Orderly := fun _ =>
    ⟨fun _ => nofun, fun _ _ => nofun⟩
  rw [dying_eq]
  split
  · rename_i told
    refine held.put (held.known conn state found) (fun id listed => ?_)
      (Lookup.insert_apply _ _ _) (orderly state.toldGone) (fun _ => told) rfl rfl rfl
    cases (held.entry_eq found listed).untold.symm.trans told
  · exact held.left found (orderly true) rfl rfl rfl rfl rfl rfl

theorem readingOn (registered : state.registered = true) (deliver : Bool) :
    ((Multiplexer.readingOn conn state deliver).after core).Indexed := by
  rw [readingOn_eq]
  refine held.left found ⟨fun _ _ => registered, fun _ unregistered => ?_⟩ rfl rfl rfl rfl rfl rfl
  cases registered.symm.trans unregistered

end

theorem enlisting (enlists : core.Enlists conn state) : (core.enlisting conn state).Indexed := by
  have bounded := held.known conn state enlists.found
  have orderly := held.orderly conn state enlists.found
  have living := orderly.reads enlists.reads enlists.unregistered enlists.stays
  have untold : state.toldGone = false := by
    by_contra told
    cases (orderly.told (Bool.eq_true_of_not_eq_false told) enlists.stays).symm.trans enlists.unregistered
  have absent : ∀ id : Nat, core.byPeerId[id]? ≠ some conn := by
    intro id listed
    cases (held.entry_eq enlists.found listed).registered.symm.trans enlists.unregistered
  have vacant : core.byPeerId[state.peerId]? = none := by
    cases entry : core.byPeerId[state.peerId]? with
    | none => rfl
    | some previous =>
      rcases enlists.vacant previous entry with same | shut
      · exact absurd (same ▸ entry) (absent state.peerId)
      · obtain ⟨last, found, recorded⟩ := held.entry _ previous entry
        cases recorded.stays.symm.trans (shut last found)
  have conns : ∀ each : ConnId, (core.enlisting conn state).conns[each]? =
      if each = conn then some state.enlisted else core.conns[each]? := by
    intro each
    change ((core.conns.insert conn _).insert conn _)[each]? = _
    rw [Lookup.insert_apply, Lookup.insert_apply]
    split <;> rfl
  have index : ∀ id : Nat, (core.enlisting conn state).byPeerId[id]? =
      if id = state.peerId then some conn else core.byPeerId[id]? :=
    Lookup.insert_apply _ _ _
  constructor
  case known =>
    intro each last read
    rw [conns] at read
    split at read
    · rename_i same
      exact same ▸ bounded
    · exact held.known each last read
  case orderly =>
    intro each last read
    rw [conns] at read
    split at read
    · cases read
      exact ⟨fun _ _ => rfl, fun _ => nofun⟩
    · exact held.orderly each last read
  case entry =>
    intro id each listed
    rw [index] at listed
    split at listed
    · rename_i same
      cases listed
      exact ⟨_, (conns conn).trans (if_pos rfl), living, rfl, untold, enlists.stays, same.symm⟩
    · have other : each ≠ conn := fun same => absent id (same ▸ listed)
      obtain ⟨last, found, recorded⟩ := held.entry id each listed
      exact ⟨last, (conns each).trans ((if_neg other).trans found), recorded⟩
  case complete =>
    intro each last read registered untold
    rw [conns] at read
    rw [index]
    split at read
    · rename_i same
      cases read
      exact (if_pos rfl).trans (congrArg some same.symm)
    · have kept := held.complete each last read registered untold
      rw [if_neg, kept]
      intro same
      rw [same, vacant] at kept
      cases kept
  case members =>
    intro each
    change each ∈ conn :: core.roundRobin ↔ _
    rw [mem_cons, held.members each]
    constructor
    · rintro (rfl | ⟨id, listed⟩)
      · exact ⟨state.peerId, (index _).trans (if_pos rfl)⟩
      · refine ⟨id, (index id).trans ((if_neg ?_).trans listed)⟩
        rintro rfl
        cases vacant.symm.trans listed
    · rintro ⟨id, listed⟩
      rw [index] at listed
      split at listed
      · exact .inl (Option.some.inj listed).symm
      · exact .inr ⟨id, listed⟩
  case once =>
    refine nodup_cons.mpr ⟨fun member => ?_, held.once⟩
    obtain ⟨id, listed⟩ := (held.members conn).mp member
    exact absent id listed

theorem absent_of_shut (found : core.conns[conn]? = some state)
    (shut : state.shutsDown = true) (id : Nat) : core.byPeerId[id]? ≠ some conn := by
  intro listed
  cases (held.entry_eq found listed).stays.symm.trans shut

theorem forget (absent : ∀ id : Nat, core.byPeerId[id]? ≠ some conn) :
    { core with conns := core.conns.erase conn }.Indexed := by
  have kept : ∀ {each : ConnId} {last : Conn}, (core.conns.erase conn)[each]? = some last →
      core.conns[each]? = some last := by
    intro each last read
    rw [Lookup.erase_apply] at read
    split at read
    · cases read
    · exact read
  constructor
  case known => exact fun each last read => held.known each last (kept read)
  case orderly => exact fun each last read => held.orderly each last (kept read)
  case entry =>
    intro id each listed
    have other : each ≠ conn := fun same => absent id (same ▸ listed)
    obtain ⟨last, found, recorded⟩ := held.entry id each listed
    exact ⟨last, (Lookup.erase_apply _ _ _).trans ((if_neg other).trans found), recorded⟩
  case complete => exact fun each last read => held.complete each last (kept read)
  case members => exact held.members
  case once => exact held.once

end

variable {event : Event}

theorem change (held : core.Indexed) {leave : Leave} (change : Change event leave core after) :
    after.Indexed := by
  cases change with
  | shift shift => exact held.stands (.of_aloof shift.aloof)
  | told told => exact held.stands (.of_aloof told.shifts.aloof)
  | mark mark => cases mark <;> exact held.stands (.of_conns rfl rfl (.refl _) rfl)
  | enter way => exact held.stands (way.stands core)
  | put _ _ _ found same =>
    exact held.stands (.of_insert found rfl
      (Conn.footing_of_bearing (Conn.Serves.of_stance same).bearing) rfl (.refl _) rfl)
  | ask | version => exact held.stands (.of_conns rfl rfl (.refl _) rfl)
  | die _ _ _ found => exact held.dying found
  | stop conn state _ found shut =>
    exact held.put (held.known conn state found) (held.absent_of_shut found shut) (Lookup.insert_apply _ _ _)
      ⟨fun _ stays => (nomatch shut.symm.trans stays), nofun⟩ nofun rfl rfl rfl
  | orphan conn state _ found =>
    rw [orphanOutgoingMessages_eq found]
    have emptied : core.Stands (core.putting conn state.emptied) :=
      .of_insert found rfl rfl rfl (.refl _) rfl
    exact held.stands (emptied.trans ((WayIn.giveUp _ _).stands _))
  | close _ _ _ found | welcomed _ _ _ found | request _ _ found =>
    exact held.stands (.of_insert found rfl rfl rfl (.refl _) rfl)
  | forget _ state _ found finished =>
    have shut : state.shutsDown = true := by
      simp only [Conn.finished, Bool.and_eq_true] at finished
      exact finished.1
    exact held.forget (held.absent_of_shut found shut)
  | readOn _ _ deliver _ found _ _ registered =>
    exact held.readingOn found registered deliver
  | bound _ _ _ _ found | acknowledge _ _ _ _ _ found =>
    exact held.stands (.of_insert found rfl rfl rfl (.refl _) rfl)
  | meet conn state id _ _ found unregistered =>
    refine held.put (held.known conn state found) (fun id listed => ?_) (Lookup.insert_apply _ _ _)
      ⟨(held.orderly conn state found).told, (held.orderly conn state found).reads⟩
      (fun registered => ?_) rfl rfl rfl
    · cases (held.entry_eq found listed).registered.symm.trans unregistered
    · cases unregistered.symm.trans registered
  | enlist _ _ _ enlists => exact held.enlisting enlists
  | quit =>
    rw [quitting_eq]
    exact held.stands (.of_conns rfl rfl (.refl _) rfl)
  | drop =>
    have stirs := dropOutbox_stirs core
    exact held.stands (.of_steady stirs.steady stirs.serves)
  | confirm | unconfirm | push | take | owe | paid =>
    exact held.stands (.of_conns rfl rfl (.refl _) rfl)

/-! ## Moves -/

section

variable (held : core.Indexed)

include held

theorem adding (fresh : Conn) (orderly : fresh.Orderly) (unregistered : fresh.registered = false) :
    (core.adding (core.nextConn + 1) fresh).Indexed := by
  have absent : ∀ id : Nat, core.byPeerId[id]? ≠ some (core.nextConn + 1) := by
    intro id listed
    obtain ⟨state, found, -⟩ := held.entry id _ listed
    exact absurd (held.known _ state found) (Nat.not_succ_le_self _)
  have later : { core with nextConn := core.nextConn + 1 }.Indexed :=
    { held with known := fun conn state found => (held.known conn state found).trans (Nat.le_succ _) }
  refine later.put le_rfl absent (Lookup.insert_apply _ _ _) orderly (fun registered => ?_) rfl rfl
    rfl
  cases unregistered.symm.trans registered

theorem starting (found : core.conns[conn]? = some state) : (core.starting conn state).Indexed := by
  let started : Conn :=
    { state.tried with
      routingInWelcome := core.client.routingVersion, living := true, reading := true }
  have conns : ∀ each : ConnId, (core.starting conn state).conns[each]? =
      if each = conn then some started else core.conns[each]? := by
    intro each
    change ((core.conns.insert conn _).insert conn _)[each]? = _
    rw [Lookup.insert_apply, Lookup.insert_apply]
    split <;> rfl
  constructor
  case known =>
    intro each last read
    rw [conns] at read
    split at read
    · rename_i same
      exact same ▸ held.known conn state found
    · exact held.known each last read
  case orderly =>
    intro each last read
    rw [conns] at read
    split at read
    · cases read
      exact ⟨(held.orderly conn state found).told, fun _ _ _ => rfl⟩
    · exact held.orderly each last read
  case entry =>
    intro id each listed
    obtain ⟨last, read, recorded⟩ := held.entry id each listed
    rw [conns]
    split
    · rename_i same
      subst same
      cases found.symm.trans read
      exact ⟨started, rfl, rfl, recorded.registered, recorded.untold, recorded.stays, recorded.named⟩
    · exact ⟨last, read, recorded⟩
  case complete =>
    intro each last read registered untold
    rw [conns] at read
    split at read
    · rename_i same
      subst same
      cases read
      exact held.complete each state found registered untold
    · exact held.complete each last read registered untold
  case members => exact held.members
  case once => exact held.once

theorem move (move : Move event core after) : after.Indexed := by
  cases move with
  | fine fine =>
    cases fine with
    | change change => exact held.change change
    | queries | note | arm | cancel => exact held.stands (.of_conns rfl rfl (.refl _) rfl)
  | add => exact held.adding _ ⟨nofun, nofun⟩ rfl
  | resolve | unsilence => exact held.stands (.of_conns rfl rfl (.refl _) rfl)
  | reopen _ _ _ found | giveUp _ _ _ found =>
    exact held.stands (.of_insert found rfl rfl rfl (.refl _) rfl)
  | fail _ _ found => exact held.stands (.of_insert found rfl rfl rfl (.refl _) rfl)
  | start _ _ found => exact held.starting found
  | forsake | unwant | reconnect => exact held.stands (.of_conns rfl rfl (.refl _) rfl)
  | beat conn state next deadline found same
  | silence _ _ _ _ _ _ found same | pulse _ _ _ found same =>
    exact held.stands (.of_insert found rfl (Conn.footing_of_beatless same) rfl (.refl _) rfl)
  | queue _ _ _ _ found same =>
    exact held.stands (.of_insert found rfl (Conn.footing_of_bearing same) rfl (.refl _) rfl)
  | fired | failed | work => exact held.stands (.of_conns rfl rfl (.refl _) rfl)

theorem moves (moves : Moves event core after) : after.Indexed := by
  induction moves with
  | refl => exact held
  | tail _ move ih => exact ih.move move

theorem step (now : Instant) (event : Event) : (Multiplexer.step now event core).Indexed := by
  have begun : { core with now, actions := [] }.Indexed :=
    held.stands (.of_conns rfl rfl (.refl _) rfl)
  exact begun.moves (handle_moves event _)

end

theorem start (settings : Settings) (now : Instant) : (settings.start now).Indexed := by
  have nobody : ∀ (conn : ConnId) (state : Conn), (settings.start now).conns[conn]? ≠ some state := by
    intro conn state found
    change (∅ : TreeMap ConnId Conn)[conn]? = some state at found
    rw [TreeMap.getElem?_emptyc] at found
    cases found
  have nothing : ∀ (id : Nat) (conn : ConnId), (settings.start now).byPeerId[id]? ≠ some conn := by
    intro id conn found
    change (∅ : TreeMap Nat ConnId)[id]? = some conn at found
    rw [TreeMap.getElem?_emptyc] at found
    cases found
  constructor
  case known => exact fun conn state found => absurd found (nobody conn state)
  case orderly => exact fun conn state found => absurd found (nobody conn state)
  case entry => exact fun id conn listed => absurd listed (nothing id conn)
  case complete => exact fun conn state found => absurd found (nobody conn state)
  case members => exact fun conn => ⟨nofun, fun ⟨id, listed⟩ => absurd listed (nothing id conn)⟩
  case once => exact nodup_nil

theorem run (settings : Settings) (now : Instant) (history : History) :
    ((settings.start now).run history).Indexed :=
  Core.run_keeps (fun now event held => held.step now event) (start settings now) history

end Core.Indexed

/-! ## Along every run -/

/-- At every event boundary the round robin is a permutation of the values of `byPeerId`, without
repeats: the registered connections that were not told gone, each living and under its id. -/
theorem index_of_registered_connections (settings : Settings) (now : Instant) (history : History) :
    let core := (settings.start now).run history
    core.roundRobin.Perm core.byPeerId.values ∧ core.roundRobin.Nodup ∧
      (∀ (id : Nat) (conn : ConnId), core.byPeerId[id]? = some conn →
        ∃ state : Conn, core.conns[conn]? = some state ∧ state.living = true ∧
          state.registered = true ∧ state.toldGone = false ∧ state.peerId = id) ∧
      ∀ (conn : ConnId) (state : Conn), core.conns[conn]? = some state →
        state.registered = true → state.toldGone = false → core.byPeerId[state.peerId]? = some conn := by
  intro core
  have held : core.Indexed := .run settings now history
  refine ⟨?_, held.once, fun id conn listed => ?_, held.complete⟩
  · have values : core.byPeerId.values.Nodup :=
      Lookup.nodup_values _ fun one two conn => held.unique
    rw [perm_ext_iff_of_nodup held.once values]
    intro conn
    rw [held.members conn, Lookup.mem_values]
  · obtain ⟨state, found, recorded⟩ := held.entry id conn listed
    exact ⟨state, found, recorded.living, recorded.registered, recorded.untold, recorded.named⟩

end Multiplexer
