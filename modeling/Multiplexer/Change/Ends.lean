import Multiplexer.Change.Basic

/-! What an end leaves: a connection that goes is out of the index and of its target's entry, what
waited for it is put aside, and nothing else is touched. Changes let a connection only age. -/

set_option autoImplicit false

namespace Multiplexer

open Program Std

/-! ## A connection goes -/

def Outbox.displacing (outbox : Outbox) (conn : ConnId) : Outbox :=
  match outbox.backlog conn with
  | none => outbox
  | some backlog =>
    backlog.waiting.foldl
      (fun outbox key =>
        if outbox.waits key then { outbox with displaced := outbox.displaced ++ [key] }
        else outbox.release key)
      { outbox with backlogs := outbox.backlogs.eraseP (·.conn = conn) }

theorem Outbox.displacing_stays (outbox : Outbox) (conn : ConnId) :
    (outbox.displacing conn).stays = outbox.stays := by
  have each : ∀ (keys : List WaitKey) (outbox : Outbox), (keys.foldl (fun outbox key =>
          if outbox.waits key then { outbox with displaced := outbox.displaced ++ [key] }
          else outbox.release key) outbox).stays = outbox.stays := by
    intro keys
    induction keys with
    | nil => exact fun _ => rfl
    | cons key _ ih =>
      intro outbox
      rw [List.foldl_cons, ih]
      split
      · rfl
      · exact outbox.release_stays key
  unfold Outbox.displacing
  split
  · rfl
  · exact each _ _

def Core.lists (core : Core) (conn : ConnId) (state : Conn) : Bool :=
  state.registered && core.byPeerId[state.peerId]? = some conn

def Core.wants (core : Core) (conn : ConnId) (state : Conn) : Bool :=
  core.client.byTarget[state.target]? = some conn

def Core.heard (core : Core) (conn : ConnId) (shut : Bool) : ClientState :=
  { core.client with
    closing := if shut then core.client.closing else core.client.closing ++ [conn] }

def Core.clientLeft (core : Core) (conn : ConnId) (state : Conn) : ClientState :=
  let heard := core.heard conn state.shutsDown
  if core.wants conn state then
    { heard with
      byTarget := heard.byTarget.erase state.target
      firstConnectionOver := heard.firstConnectionOver.insert state.target
      nextReconnect :=
        if core.client.shutsDown then heard.nextReconnect else heard.nextReconnect + 1
      reconnects :=
        if core.client.shutsDown then heard.reconnects
        else heard.reconnects.insert (heard.nextReconnect + 1) (core.timers.nextKey + 1, state.target) }
  else heard

/-- The core once `conn`, in `state`, is gone: out of the index, what waited for it put aside,
and a reconnect armed in its place while the client runs. -/
def Core.left (core : Core) (conn : ConnId) (state : Conn) : Core :=
  { core with
    conns := core.conns.insert conn { state with toldGone := true }
    byPeerId := if core.lists conn state then core.byPeerId.erase state.peerId else core.byPeerId
    roundRobin :=
      if core.lists conn state then core.roundRobin.filter (· ≠ conn) else core.roundRobin
    outbox := core.outbox.displacing conn
    timers :=
      if core.wants conn state && !core.client.shutsDown then
        core.timers.arm (core.now + AUTO_RECONNECT_TIME) (.reconnect (core.client.nextReconnect + 1))
      else core.timers
    client := core.clientLeft conn state }

theorem displace_after (conn : ConnId) (core : Core) :
    (displace conn).after core = { core with outbox := core.outbox.displacing conn } := by
  have each : ∀ (keys : List WaitKey) (core : Core), (forEach keys fun key => modifyOutbox fun outbox =>
        if outbox.waits key then { outbox with displaced := outbox.displaced ++ [key] }
        else outbox.release key).after core =
      { core with
        outbox := keys.foldl (fun outbox key =>
            if outbox.waits key then { outbox with displaced := outbox.displaced ++ [key] }
            else outbox.release key) core.outbox } := by
    intro keys
    induction keys with
    | nil => exact fun _ => rfl
    | cons _ _ ih =>
      intro core
      rw [forEach_cons, after_bind, ih]
      rfl
  unfold displace Outbox.displacing
  rw [after_get_bind]
  cases core.outbox.backlog conn with
  | none => rfl
  | some => exact each _ _

variable {core after : Core} {conn : ConnId} {state : Conn} {event : Event} {leave : Leave}

theorem unregisterConnection_after (found : core.conns[conn]? = some state)
    (registered : state.registered = true) : (unregisterConnection conn).after core =
      { core with
        byPeerId := if core.lists conn state then core.byPeerId.erase state.peerId else core.byPeerId
        roundRobin :=
          if core.lists conn state then core.roundRobin.filter (· ≠ conn) else core.roundRobin } := by
  unfold unregisterConnection Core.lists
  rw [after_get_bind, found, registered]
  dsimp only
  cases decide (core.byPeerId[state.peerId]? = some conn) with
  | true | false => rfl

theorem closing_after (conn : ConnId) (shut : Bool) (core : Core) : (when (!shut) do
      modifyClient fun client => { client with closing := client.closing ++ [conn] }).after core =
      { core with client := core.heard conn shut } := by
  cases shut with
  | true | false => rfl

theorem unwanted_after (target : Target) (wanted down : Bool) (core : Core) : (when wanted do
      modifyClient fun client =>
        { client with
          byTarget := client.byTarget.erase target
          firstConnectionOver := client.firstConnectionOver.insert target }
      when (!down) (armReconnect target)).after core =
      { core with
        timers :=
          if wanted && !down then
            core.timers.arm (core.now + AUTO_RECONNECT_TIME) (.reconnect (core.client.nextReconnect + 1))
          else core.timers
        client :=
          if wanted then
            { core.client with
              byTarget := core.client.byTarget.erase target
              firstConnectionOver := core.client.firstConnectionOver.insert target
              nextReconnect :=
                if down then core.client.nextReconnect else core.client.nextReconnect + 1
              reconnects :=
                if down then core.client.reconnects
                else core.client.reconnects.insert (core.client.nextReconnect + 1)
                  (core.timers.nextKey + 1, target) }
          else core.client } := by
  cases wanted with
  | false => rfl
  | true =>
    cases down with
    | true | false => rfl

theorem leaving_eq (core : Core) (conn : ConnId) (state : Conn) :
    (leaving conn state).after core = core.left conn state := by
  let put : Core := { core with conns := core.conns.insert conn { state with toldGone := true } }
  have read : put.conns[conn]? = some { state with toldGone := true } :=
    TreeMap.getElem?_insert_self
  have unregisters : (when state.registered (unregisterConnection conn)).after put =
      { put with
        byPeerId := if core.lists conn state then core.byPeerId.erase state.peerId else core.byPeerId
        roundRobin :=
          if core.lists conn state then core.roundRobin.filter (· ≠ conn) else core.roundRobin } := by
    cases registered : state.registered with
    | true =>
      have after := unregisterConnection_after read registered
      exact after
    | false =>
      have unlisted : core.lists conn state = false := by
        unfold Core.lists
        rw [registered, Bool.false_and]
      rw [unlisted]
      rfl
  have puts : (putConn conn { state with toldGone := true }).after core = put := rfl
  unfold leaving
  rw [after_bind, after_bind, puts, unregisters, after_get_bind, after_bind, closing_after,
    after_bind, displace_after, after_bind, unwanted_after]
  rfl

def Core.deadening (core : Core) (conn : ConnId) (state : Conn) : Core :=
  { core with
    conns := core.conns.insert conn state.dead
    client :=
      { core.client with
        readDrainsWanted :=
          if state.notifyWhenReadDrained then core.client.readDrainsWanted - 1
          else core.client.readDrainsWanted } }

theorem deadening_eq (core : Core) (conn : ConnId) (state : Conn) : (when state.notifyWhenReadDrained do
      modifyClient fun client =>
        { client with readDrainsWanted := client.readDrainsWanted - 1 }).after
        ((putConn conn state.dead).after core) = core.deadening conn state := by
  unfold Core.deadening
  cases notify : state.notifyWhenReadDrained with
  | true | false => rfl

theorem dying_eq (core : Core) (conn : ConnId) (state : Conn) : (dying conn state).after core =
      if state.toldGone then core.deadening conn state
      else (core.deadening conn state).left conn state.dead := by
  unfold dying leavingOnce
  rw [after_bind, after_bind, deadening_eq]
  change (if state.toldGone then _ else _ : Client Unit).after _ = _
  split
  · rfl
  · exact leaving_eq _ _ _

theorem readingOn_eq (core : Core) (conn : ConnId) (state : Conn) (deliver : Bool) :
    (readingOn conn state deliver).after core =
      { core with conns := core.conns.insert conn (state.readsOn deliver) }.left conn
        (state.readsOn deliver) :=
  leaving_eq _ _ _

def Core.withoutReconnects (core : Core) : Timers :=
  core.client.reconnects.values.foldl (fun timers slot => timers.cancel (some slot.1)) core.timers

theorem quitting_eq (core : Core) : quitting.after core =
      { core with
        client := { core.client with shutsDown := true, reconnects := ∅ }
        actions := core.actions ++ [.cancelResolves]
        timers := core.withoutReconnects } := by
  have cancels : ∀ (cancel : TimerKey × Target → Client Unit) (_ : ∀ slot core,
      (cancel slot).after core = { core with timers := core.timers.cancel (some slot.1) })
      (slots : List (TimerKey × Target)) (core : Core),
      (forEach slots cancel).after core =
        { core with
          timers := slots.foldl (fun timers slot => timers.cancel (some slot.1)) core.timers } := by
    intro _ one slots
    induction slots with
    | nil => exact fun _ => rfl
    | cons _ _ ih =>
      intro _
      rw [forEach_cons, after_bind, ih, one]
      rfl
  exact cancels _ (fun _ _ => rfl) _ _

def Conn.handsOver (state : Conn) : List QueueEntry :=
  if state.writeInFlight then state.outgoing.drop 1 else state.outgoing

def Conn.emptied (state : Conn) : Conn :=
  { state with
    outgoing := []
    setAside := state.setAside ++ if state.writeInFlight then state.outgoing.take 1 else [] }

theorem orphanOutgoingMessages_eq (found : core.conns[conn]? = some state) :
    (orphanOutgoingMessages conn).after core = (giveUp conn state.handsOver).after
        { core with conns := core.conns.insert conn state.emptied } := by
  unfold orphanOutgoingMessages getConn
  rw [after_gets_bind, found]
  rfl

/-! ## The queue of a connection in use -/

def Conn.bearing (conn : Conn) : Conn :=
  { conn.stance with outgoing := [], out := .free, writeInFlight := false }

structure Conn.Serves (state next : Conn) : Prop where
  bearing : next.bearing = state.bearing
  broken : state.out = .broken → next.out = .broken
  still : state.living = false → next.stance = state.stance

namespace Conn.Serves

theorem refl (state : Conn) : state.Serves state := ⟨rfl, id, fun _ => rfl⟩

theorem living {state next : Conn} (serves : state.Serves next) : next.living = state.living :=
  show next.bearing.living = state.bearing.living from congrArg _ serves.bearing

theorem trans {first second third : Conn} (one : first.Serves second) (two : second.Serves third) :
    first.Serves third where
  bearing := two.bearing.trans one.bearing
  broken := two.broken ∘ one.broken
  still dead := (two.still (one.living.trans dead)).trans (one.still dead)

end Conn.Serves

def Core.Each (Relates : Conn → Conn → Prop) (core after : Core) : Prop :=
  ∀ conn : ConnId, Option.Rel Relates core.conns[conn]? after.conns[conn]?

namespace Core.Each

variable {Relates : Conn → Conn → Prop} {core after : Core}

theorem of_conns (refl : ∀ state, Relates state state) (same : after.conns = core.conns) :
    core.Each Relates after := by
  intro conn
  rw [same]
  cases core.conns[conn]? with
  | none => exact .none
  | some state => exact .some (refl state)

variable {conn : ConnId}

theorem of_insert {state next : Conn} (refl : ∀ state, Relates state state)
    (found : core.conns[conn]? = some state) (inserted : after.conns = core.conns.insert conn next)
    (relates : Relates state next) : core.Each Relates after := by
  intro each
  rw [inserted, Lookup.insert_apply]
  split
  · rename_i same
    rw [same, found]
    exact .some relates
  · cases core.conns[each]? with
    | none => exact .none
    | some state => exact .some (refl state)

theorem trans {last : Core}
    (transitive : ∀ {first second third}, Relates first second → Relates second third →
      Relates first third)
    (one : core.Each Relates after) (two : after.Each Relates last) : core.Each Relates last := by
  intro conn
  have first := one conn
  have second := two conn
  generalize core.conns[conn]? = begin at first ⊢
  generalize after.conns[conn]? = middle at first second
  generalize last.conns[conn]? = final at second ⊢
  cases first with
  | none =>
    cases second with
    | none => exact .none
  | some relates =>
    cases second with
    | some onward => exact .some (transitive relates onward)

theorem next {state : Conn} (each : core.Each Relates after)
    (found : core.conns[conn]? = some state) :
    ∃ next, after.conns[conn]? = some next ∧ Relates state next := by
  have here := each conn
  rw [found] at here
  generalize after.conns[conn]? = found at here
  cases here with
  | some relates => exact ⟨_, rfl, relates⟩

theorem before {next : Conn} (each : core.Each Relates after)
    (found : after.conns[conn]? = some next) :
    ∃ state, core.conns[conn]? = some state ∧ Relates state next := by
  have here := each conn
  rw [found] at here
  generalize core.conns[conn]? = found at here
  cases here with
  | some relates => exact ⟨_, rfl, relates⟩

theorem mono {Weaker : Conn → Conn → Prop} (weaker : ∀ {one two}, Relates one two → Weaker one two)
    (each : core.Each Relates after) : core.Each Weaker after := by
  intro conn
  have here := each conn
  generalize core.conns[conn]? = one at here ⊢
  generalize after.conns[conn]? = two at here ⊢
  cases here with
  | none => exact .none
  | some relates => exact .some (weaker relates)

end Core.Each

abbrev Core.Serves (core after : Core) : Prop := core.Each Conn.Serves after

theorem processSendQueue_serves (found : core.conns[conn]? = some state)
    (living : state.living = true) : core.Serves ((processSendQueue conn).after core) := by
  rcases processSendQueue_cases found with ⟨same, -⟩ | ⟨_, free, -, -, begun⟩
  · rw [same]
    exact .of_conns .refl rfl
  · rw [begun]
    refine .of_insert .refl found rfl ⟨rfl, fun broken => ?_, fun dead => ?_⟩
    · cases free.symm.trans broken
    · cases living.symm.trans dead

theorem queueing_serves {between : Core} {outgoing : List QueueEntry}
    (found : core.conns[conn]? = some state) (living : state.living = true)
    (put : between.conns = core.conns.insert conn { state with outgoing }) :
    core.Serves ((processSendQueue conn).after between) := by
  have queued : core.Serves between := by
    refine .of_insert .refl found put ⟨rfl, id, fun dead => ?_⟩
    cases living.symm.trans dead
  have here : between.conns[conn]? = some { state with outgoing } := by
    rw [put, TreeMap.getElem?_insert_self]
  exact queued.trans .trans (processSendQueue_serves here living)

theorem Shift.aloof {strict : Bool} (shift : Shift strict core after) : Aloof core after := by
  cases shift with
  | silent same | arm _ _ same => exact same.toAloof
  | cancel => exact { Aloof.refl core with }

instance : Refl Aloof := ⟨Aloof.refl⟩

instance : IsTrans Core Aloof := ⟨fun _ _ _ => Aloof.trans⟩

theorem Shifts.aloof {strict : Bool} (shifts : Shifts strict core after) : Aloof core after :=
  shifts.within Shift.aloof

theorem Stow.serves {may : Nat → Prop} (stow : Stow may core after) : core.Serves after := by
  cases stow with
  | settle settle => exact .of_conns .refl settle.loose.aloof.conns
  | line | arm | cancel => exact .of_conns .refl rfl
  | queue conn state entry found living => exact queueing_serves found living rfl
  | idle _ _ _ found => exact .of_insert .refl found rfl ⟨rfl, id, fun _ => rfl⟩

theorem Stirs.serves (stirs : Stirs core after) : core.Serves after := by
  induction stirs with
  | refl => exact .of_conns .refl rfl
  | tail _ taken ih =>
    refine ih.trans .trans ?_
    cases taken with
    | stow stow => exact stow.serves
    | own own =>
      cases own with
      | put conn state entry outgoing found living => exact queueing_serves found living rfl
    | shift shift => exact .of_conns .refl shift.aloof.conns
    | owe owe => exact .of_conns .refl owe.aloof.conns
    | _ => exact .of_conns .refl rfl

theorem WayIn.serves {α : Type} {program : Client α} (way : WayIn program) (core : Core) :
    core.Serves (program.after core) :=
  Stirs.serves (way.stirring core)

theorem WayIn.steady {α : Type} {program : Client α} (way : WayIn program) (core : Core) :
    Steady core (program.after core) :=
  Stirs.steady (way.stirring core)

theorem dropOutbox_stirs (core : Core) : Stirs core (dropOutbox.after core) :=
  dropOutbox_stowing.stirring core

/-! ## What lasts -/

structure Conn.Ages (state next : Conn) : Prop where
  target : next.target = state.target
  shut : state.shutsDown = true → next.shutsDown = true
  told : state.toldGone = true → next.toldGone = true
  broken : state.out = .broken → next.out = .broken
  dead : state.living = false → next.living = false
  rests : state.living = false → state.writeInFlight = false → next.writeInFlight = false

theorem Conn.Ages.refl (state : Conn) : state.Ages state := ⟨rfl, id, id, id, id, fun _ => id⟩

theorem Conn.Ages.trans {first second third : Conn} (one : first.Ages second)
    (two : second.Ages third) : first.Ages third :=
  ⟨two.target.trans one.target, two.shut ∘ one.shut, two.told ∘ one.told, two.broken ∘ one.broken,
    two.dead ∘ one.dead, fun dead => two.rests (one.dead dead) ∘ one.rests dead⟩

theorem Conn.Serves.ages {next : Conn} (serves : state.Serves next) : state.Ages next where
  target := show next.bearing.target = state.bearing.target from congrArg _ serves.bearing
  shut := (show next.bearing.shutsDown = state.bearing.shutsDown from
    congrArg _ serves.bearing).trans
  told := (show next.bearing.toldGone = state.bearing.toldGone from congrArg _ serves.bearing).trans
  broken := serves.broken
  dead := serves.living.trans
  rests dead := (show next.stance.writeInFlight = state.stance.writeInFlight from
    congrArg _ (serves.still dead)).trans

theorem Conn.Serves.of_stance {next : Conn} (same : next.stance = state.stance) :
    state.Serves next where
  bearing := show { next.stance with outgoing := [], out := .free, writeInFlight := false } = _ by
    rw [same]; rfl
  broken := (show next.stance.out = state.stance.out from congrArg _ same).trans
  still _ := same

structure Lasts (core after : Core) : Prop where
  ages : ∀ (conn : ConnId) (next : Conn), after.conns[conn]? = some next →
    ∃ state : Conn, core.conns[conn]? = some state ∧ state.Ages next
  down : core.client.shutsDown = true → after.client.shutsDown = true

namespace Lasts

theorem refl (core : Core) : Lasts core core := ⟨fun _ next found => ⟨next, found, .refl next⟩, id⟩

theorem trans {first second third : Core} (one : Lasts first second) (two : Lasts second third) :
    Lasts first third where
  ages conn next found := by
    obtain ⟨between, also, later⟩ := two.ages conn next found
    obtain ⟨state, before, sooner⟩ := one.ages conn between also
    exact ⟨state, before, sooner.trans later⟩
  down := two.down ∘ one.down

variable {core after : Core} {conn : ConnId}

theorem of_serves (serves : core.Serves after)
    (down : after.client.shutsDown = core.client.shutsDown) : Lasts core after where
  ages _ _ found := by
    obtain ⟨state, before, serves⟩ := serves.before found
    exact ⟨state, before, serves.ages⟩
  down := down.trans

theorem of_conns (same : after.conns = core.conns)
    (down : core.client.shutsDown = true → after.client.shutsDown = true) : Lasts core after where
  ages _ next found := ⟨next, same ▸ found, .refl next⟩
  down := down

theorem of_insert {state next : Conn} (found : core.conns[conn]? = some state)
    (inserted : after.conns = core.conns.insert conn next) (ages : state.Ages next)
    (down : core.client.shutsDown = true → after.client.shutsDown = true) : Lasts core after where
  ages _ last read := by
    rw [inserted] at read
    obtain ⟨rfl, rfl⟩ | ⟨-, read⟩ := Lookup.of_insert read
    · exact ⟨state, found, ages⟩
    · exact ⟨last, read, .refl last⟩
  down := down

theorem of_erase (erased : after.conns = core.conns.erase conn)
    (down : core.client.shutsDown = true → after.client.shutsDown = true) : Lasts core after where
  ages _ last read := by
    rw [erased, Lookup.erase_apply] at read
    split at read
    · cases read
    · exact ⟨last, read, .refl last⟩
  down := down

end Lasts

theorem view_shutsDown {one two : ClientState} (same : two.view = one.view) :
    two.shutsDown = one.shutsDown :=
  show two.view.shutsDown = one.view.shutsDown from congrArg _ same

theorem clientLeft_shutsDown (core : Core) (conn : ConnId) (state : Conn) :
    (core.clientLeft conn state).shutsDown = core.client.shutsDown := by
  unfold Core.clientLeft
  dsimp only
  split <;> rfl

theorem Stirs.lasts (stirs : Stirs core after) : Lasts core after :=
  .of_serves stirs.serves (view_shutsDown stirs.steady.client)

section

variable (found : core.conns[conn]? = some state)

include found

theorem left_lasts : Lasts core (core.left conn state) :=
  .of_insert found rfl ⟨rfl, id, fun _ => rfl, id, id, fun _ => id⟩ (clientLeft_shutsDown core conn state).trans

theorem deadening_lasts : Lasts core (core.deadening conn state) :=
  .of_insert found rfl ⟨rfl, fun _ => rfl, id, id, fun _ => rfl, fun _ => id⟩ id

theorem dying_lasts : Lasts core ((dying conn state).after core) := by
  have put := deadening_lasts found
  rw [dying_eq]
  split
  · exact put
  · exact put.trans (left_lasts TreeMap.getElem?_insert_self)

end

/-- No change adds a connection or revives one. -/
theorem Change.lasts (change : Change event leave core after) : Lasts core after := by
  cases change with
  | shift shift => exact .of_conns shift.aloof.conns (view_shutsDown shift.steady.client).trans
  | told told =>
    have aloof := told.shifts.aloof
    exact .of_conns aloof.conns (view_shutsDown aloof.client).trans
  | mark mark => cases mark <;> exact .of_conns rfl id
  | enter way => exact Stirs.lasts (way.stirring core)
  | put _ _ _ found same => exact .of_insert found rfl (Conn.Serves.of_stance same).ages id
  | ask | version => exact .of_conns rfl id
  | die _ _ _ found => exact dying_lasts found
  | stop _ _ _ found => exact .of_insert found rfl ⟨rfl, id, id, fun _ => rfl, id, fun _ => id⟩ id
  | orphan conn state _ found =>
    rw [orphanOutgoingMessages_eq found]
    have emptied : Lasts core { core with conns := core.conns.insert conn state.emptied } :=
      .of_insert found rfl ⟨rfl, id, id, id, id, fun _ => id⟩ id
    exact emptied.trans (Stirs.lasts ((WayIn.giveUp _ _).stirring _))
  | close _ _ _ found | bound _ _ _ _ found | welcomed _ _ _ found | request _ _ found =>
    exact .of_insert found rfl ⟨rfl, id, id, id, id, fun _ => id⟩ id
  | forget => exact .of_erase rfl id
  | readOn conn state deliver _ found =>
    have put : Lasts core { core with conns := core.conns.insert conn (state.readsOn deliver) } :=
      .of_insert found rfl ⟨rfl, id, id, fun _ => rfl, fun _ => rfl, fun _ => id⟩ id
    rw [readingOn_eq]
    exact put.trans (left_lasts TreeMap.getElem?_insert_self)
  | meet _ _ _ _ _ found =>
    exact .of_insert found rfl ⟨rfl, fun is => is, fun is => is, fun is => is, fun is => is,
      fun _ is => is⟩ fun is => is
  | enlist conn state _ enlists =>
    have widened : Lasts core { core with conns := core.conns.insert conn state.widened } :=
      .of_insert enlists.found rfl ⟨rfl, id, id, id, id, fun _ => id⟩ id
    exact widened.trans (.of_insert TreeMap.getElem?_insert_self rfl ⟨rfl, id, id, id, id, fun _ => id⟩ id)
  | quit =>
    rw [quitting_eq]
    exact .of_conns rfl fun _ => rfl
  | drop => exact Stirs.lasts (dropOutbox_stirs core)
  | acknowledge _ _ _ _ _ found =>
    exact .of_insert found rfl ⟨rfl, id, id, id, id, fun _ => id⟩ id
  | confirm | unconfirm | push | take | owe | paid => exact .of_conns rfl id

theorem Fine.lasts (fine : Fine event leave core after) : Lasts core after := by
  cases fine with
  | change change => exact change.lasts
  | queries | note | arm | cancel => exact .of_conns rfl id

theorem Turns.lasts (turns : Turns event leave core after) : Lasts core after :=
  turns.fines.keep (fun fine held => held.trans fine.lasts) (.refl core)

/-! ## The other connections -/

def Conn.character (conn : Conn) : Conn :=
  { conn.bearing with routingAcknowledged := 0, routingRequestId := 0 }

theorem Conn.character_of_bearing {next : Conn} (same : next.bearing = state.bearing) :
    next.character = state.character :=
  congrArg (fun bearing : Conn => { bearing with routingAcknowledged := 0, routingRequestId := 0 })
    same

def Conn.mien (conn : Conn) : Conn :=
  { conn.stance with routingAcknowledged := 0, routingRequestId := 0 }

/-- What a connection left alone may become: only its queue and its routing change, and the queue
only while it lives. -/
structure Conn.Bides (state next : Conn) : Prop where
  character : next.character = state.character
  still : state.living = false → next.mien = state.mien

namespace Conn.Bides

theorem refl (state : Conn) : state.Bides state := ⟨rfl, fun _ => rfl⟩

theorem living {state next : Conn} (bides : state.Bides next) : next.living = state.living :=
  show next.character.living = state.character.living from congrArg _ bides.character

theorem trans {first second third : Conn} (one : first.Bides second) (two : second.Bides third) :
    first.Bides third where
  character := two.character.trans one.character
  still dead := (two.still (one.living.trans dead)).trans (one.still dead)

end Conn.Bides

theorem Conn.Serves.bides {next : Conn} (serves : state.Serves next) : state.Bides next where
  character := Conn.character_of_bearing serves.bearing
  still dead := congrArg
    (fun stance : Conn => { stance with routingAcknowledged := 0, routingRequestId := 0 })
    (serves.still dead)

/-- The connections that may neither end nor register are what they were, and without leave to
register the index only loses entries. -/
structure Spares (leave : Leave) (core after : Core) : Prop where
  bides : ∀ (conn : ConnId) (state : Conn), ¬leave.falls conn → ¬leave.joins conn →
    core.conns[conn]? = some state → ∃ next, after.conns[conn]? = some next ∧ state.Bides next
  index : (∀ conn, ¬leave.joins conn) → ∀ (id : Nat) (conn : ConnId),
    after.byPeerId[id]? = some conn → core.byPeerId[id]? = some conn

namespace Spares

variable {leave : Leave} {core after : Core} {conn : ConnId} {state next : Conn}

theorem refl (leave : Leave) (core : Core) : Spares leave core core :=
  ⟨fun _ state _ _ found => ⟨state, found, .refl state⟩, fun _ _ _ => id⟩

theorem trans {last : Core} (one : Spares leave core after) (two : Spares leave after last) :
    Spares leave core last where
  bides conn state stays keeps found := by
    obtain ⟨between, also, bides⟩ := one.bides conn state stays keeps found
    obtain ⟨last, read, still⟩ := two.bides conn between stays keeps also
    exact ⟨last, read, bides.trans still⟩
  index none id conn found := one.index none id conn (two.index none id conn found)

theorem of_each (each : core.Each Conn.Bides after) (index : after.byPeerId = core.byPeerId) :
    Spares leave core after :=
  ⟨fun _ _ _ _ found => each.next found, fun _ _ _ found => index ▸ found⟩

theorem of_serves (serves : core.Serves after) (index : after.byPeerId = core.byPeerId) :
    Spares leave core after :=
  of_each (serves.mono Conn.Serves.bides) index

theorem of_conns (same : after.conns = core.conns) (index : after.byPeerId = core.byPeerId) :
    Spares leave core after :=
  of_each (.of_conns .refl same) index

theorem of_insert (found : core.conns[conn]? = some state)
    (inserted : after.conns = core.conns.insert conn next) (bides : state.Bides next)
    (index : after.byPeerId = core.byPeerId) : Spares leave core after :=
  of_each (.of_insert .refl found inserted bides) index

theorem of_may (may : leave.falls conn ∨ leave.joins conn)
    (others : ∀ each, each ≠ conn → after.conns[each]? = core.conns[each]?)
    (index : (∀ conn, ¬leave.joins conn) → ∀ (id : Nat) (conn : ConnId),
      after.byPeerId[id]? = some conn → core.byPeerId[id]? = some conn) :
    Spares leave core after where
  bides each state stays keeps found := by
    refine ⟨state, (others each fun is => ?_).trans found, .refl state⟩
    subst is
    exact may.elim stays keeps
  index := index

theorem of_fall (may : leave.falls conn) (inserted : after.conns = core.conns.insert conn next)
    (index : after.byPeerId = core.byPeerId) : Spares leave core after := by
  refine of_may (.inl may) (fun each other => ?_) fun _ _ _ found => index ▸ found
  rw [inserted, Lookup.insert_apply, if_neg other]

end Spares

theorem left_index {id : Nat} {each : ConnId}
    (found : (core.left conn state).byPeerId[id]? = some each) :
    core.byPeerId[id]? = some each := by
  change (if core.lists conn state then core.byPeerId.erase state.peerId else core.byPeerId)[id]? =
    some each at found
  split at found
  · rw [Lookup.erase_apply] at found
    split at found
    · cases found
    · exact found
  · exact found

theorem left_spares (may : leave.falls conn) : Spares leave core (core.left conn state) :=
  .of_may (.inl may) (fun _ other => (Lookup.insert_apply _ _ _ _).trans (if_neg other)) fun _ _ _ => left_index

theorem dying_spares (may : leave.falls conn) : Spares leave core ((dying conn state).after core) := by
  have put : Spares leave core (core.deadening conn state) := .of_fall may rfl rfl
  rw [dying_eq]
  split
  · exact put
  · exact put.trans (left_spares may)

/-- A change touches only the connections its leave lets end or register. -/
theorem Change.spares (change : Change event leave core after) : Spares leave core after := by
  cases change with
  | shift shift => exact .of_conns shift.aloof.conns shift.steady.byPeerId
  | told told => exact .of_conns told.shifts.aloof.conns told.shifts.aloof.byPeerId
  | mark mark => cases mark <;> exact .of_conns rfl rfl
  | enter way => exact .of_serves (way.serves core) (way.steady core).byPeerId
  | put _ _ _ found same =>
    exact .of_insert found rfl (Conn.Serves.of_stance same).bides rfl
  | ask | version => exact .of_conns rfl rfl
  | die _ _ may => exact dying_spares may
  | stop _ _ may | close _ _ may | bound _ _ _ may => exact .of_fall may rfl rfl
  | orphan conn state may found =>
    rw [orphanOutgoingMessages_eq found]
    have emptied : Spares leave core { core with conns := core.conns.insert conn state.emptied } :=
      .of_fall may rfl rfl
    exact emptied.trans (.of_serves ((WayIn.giveUp _ _).serves _) ((WayIn.giveUp _ _).steady _).byPeerId)
  | forget _ _ may =>
    refine .of_may (.inl may) (fun each other => ?_) fun _ _ _ => id
    exact (Lookup.erase_apply _ _ _).trans (if_neg other)
  | readOn conn state deliver may =>
    have put : Spares leave core
        { core with conns := core.conns.insert conn (state.readsOn deliver) } := .of_fall may rfl rfl
    rw [readingOn_eq]
    exact put.trans (left_spares may)
  | meet conn _ _ _ may | welcomed conn _ may =>
    refine .of_may (.inr may) (fun each other => ?_) fun none => absurd may (none conn)
    exact (Lookup.insert_apply _ _ _ _).trans (if_neg other)
  | enlist conn _ may =>
    refine .of_may (.inr may) (fun each other => ?_) fun none => absurd may (none conn)
    change ((core.conns.insert conn _).insert conn _)[each]? = _
    rw [Lookup.insert_apply, if_neg other, Lookup.insert_apply, if_neg other]
  | quit =>
    rw [quitting_eq]
    exact .of_conns rfl rfl
  | drop =>
    have stirs := dropOutbox_stirs core
    exact .of_serves (Stirs.serves stirs) (Stirs.steady stirs).byPeerId
  | request _ _ found => exact .of_insert found rfl ⟨rfl, fun _ => rfl⟩ rfl
  | acknowledge _ _ _ _ _ found =>
    exact .of_insert found rfl ⟨rfl, fun _ => rfl⟩ rfl
  | confirm | unconfirm | push | take | owe | paid => exact .of_conns rfl rfl

theorem Turns.spares (turns : Turns event leave core after) : Spares leave core after := by
  refine turns.fines.keep (fun fine held => held.trans ?_) (.refl leave core)
  cases fine with
  | change change => exact change.spares
  | queries | note | arm | cancel => exact .of_conns rfl rfl

end Multiplexer
