import Multiplexer.Runs.Openings

/-! The write channel of every connection along whole runs: from the onset of each event on, the
write in flight is of the queue's front. -/

set_option autoImplicit false

namespace Multiplexer

open Program List

structure Core.Ferries (owed : Asked) (core after : Core) : Prop where
  lasts : Lasts core after
  carries : core.Channels (core.asked owed) → core.Carries after owed

namespace Core.Ferries

variable {owed : Asked} {core after : Core} {conn : ConnId} {state next : Conn}

theorem refl (core : Core) : core.Ferries owed core := ⟨.refl core, .refl⟩

theorem trans {last : Core} (one : core.Ferries owed after) (two : after.Ferries owed last) :
    core.Ferries owed last where
  lasts := one.lasts.trans two.lasts
  carries channels :=
    have first := one.carries channels
    first.trans two.lasts (two.carries first.channels)

theorem of_turns {event : Event} {leave : Leave} (turns : Turns event leave core after) :
    core.Ferries owed after :=
  ⟨turns.lasts, turns.carries⟩

theorem of_conns (same : after.conns = core.conns) (down : after.client.shutsDown = core.client.shutsDown)
    (writes : (after.asked owed).writes = (core.asked owed).writes) : core.Ferries owed after :=
  ⟨.of_conns same down.trans, fun channels => .of_conns channels same writes⟩

theorem of_tube (found : core.conns[conn]? = some state) (inserted : after.conns = core.conns.insert conn next)
    (down : after.client.shutsDown = core.client.shutsDown)
    (writes : (after.asked owed).writes = (core.asked owed).writes)
    (target : next.target = state.target) (same : next.tube = state.tube) :
    core.Ferries owed after := by
  obtain ⟨living, shut, told, -, out, flight, -⟩ := Conn.tube_eq same
  refine ⟨.of_insert found inserted ⟨target, shut.trans, told.trans, out.trans, living.trans, ?_⟩
    down.trans, fun channels => .of_tube channels found inserted writes same⟩
  exact fun _ => flight.trans

end Core.Ferries

theorem Core.Ferries.ticks {owed : Asked} : Ticks (Core.Ferries owed) where
  refl := .refl
  trans := .trans
  pulse {core _ state} next timers found same := by
    have target : next.still.target = state.still.target := congrArg Conn.target same
    have tube : next.still.tube = state.still.tube := congrArg Conn.tube same
    exact .of_tube found rfl rfl rfl target tube
  way way core := by
    have turns : Turns .timer .still core _ := way.turning core
    exact .of_turns turns
  falls {core after _ _} falls := by
    have turns : Turns .timer .all core after := falls.turns trivial
    exact .of_turns turns
  aside _ _ _ := .of_conns rfl rfl rfl
  cancels _ _ := .of_conns rfl rfl (Core.asked_writes rfl (fun _ => rfl) _)

/-! ## Connects -/

section Connects

variable {core after : Core} {owed : Asked} {conn : ConnId} {state : Conn}

theorem adding_carries {added : Conn} (channels : core.Channels (core.asked owed))
    (known : ∀ (conn : ConnId) (state : Conn), core.conns[conn]? = some state →
      conn ≤ core.nextConn) (fresh : added.Fresh) :
    core.Carries (core.adding (core.nextConn + 1) added) owed := by
  have missing : core.conns[core.nextConn + 1]? = none := by
    cases found : core.conns[core.nextConn + 1]? with
    | none => rfl
    | some state => exact absurd (known _ state found) (Nat.not_succ_le_self _)
  refine ⟨⟨fun each state found => ?_, fun each none => ?_⟩, fun each before next also found _ => ?_⟩
  · obtain ⟨rfl, rfl⟩ | ⟨-, found⟩ := Lookup.of_insert found
    · have nothing : (core.asked owed).on (core.nextConn + 1) = [] := channels.unknown _ missing
      refine ⟨?_, ?_, fun lives => nomatch fresh.dead.symm.trans lives⟩
      · rw [fresh.rests]
        exact congrArg List.length nothing
      · rw [fresh.limit]
        decide
    · exact channels.known each state found
  · change (core.conns.insert (core.nextConn + 1) added)[each]? = _ at none
    rw [Lookup.insert_apply] at none
    split at none
    · cases none
    · exact channels.unknown each none
  · change (core.conns.insert (core.nextConn + 1) added)[each]? = _ at found
    rw [Lookup.insert_apply, if_neg (Nat.ne_of_lt (Nat.lt_succ_of_le (known each before also)))]
      at found
    cases also.symm.trans found
    exact .refl

theorem reopening_ferries {address : SocketAddr} (found : core.conns[conn]? = some state) :
    core.Ferries owed (core.reopening conn state address) :=
  .of_tube found rfl rfl (Core.asked_writes rfl (fun _ => rfl) owed) rfl rfl

theorem Connects.carries {target : Target} (connects : Connects target core after)
    (channels : core.Channels (core.asked owed))
    (known : ∀ (conn : ConnId) (state : Conn), core.conns[conn]? = some state →
      conn ≤ core.nextConn) : core.Carries after owed := by
  cases connects with
  | kept => exact .refl channels
  | anew =>
    unfold Core.opening
    dsimp only
    split
    · rename_i ip address
      let fresh : Conn := { target, candidates := [⟨ip, target.port⟩] }
      have adds : core.Carries (core.adding (core.nextConn + 1) fresh) owed :=
        adding_carries channels known ⟨rfl, rfl, rfl, rfl, rfl, rfl, rfl, rfl, rfl⟩
      have opens : (core.adding (core.nextConn + 1) fresh).Ferries owed
          ((core.adding (core.nextConn + 1) fresh).reopening (core.nextConn + 1) fresh ⟨ip, target.port⟩) :=
        reopening_ferries Std.TreeMap.getElem?_insert_self
      exact adds.trans opens.lasts (opens.carries adds.channels)
    · let added := core.adding (core.nextConn + 1) { target }
      have adds : core.Carries added owed :=
        adding_carries channels known ⟨rfl, rfl, rfl, rfl, rfl, rfl, rfl, rfl, rfl⟩
      have asks : added.Ferries owed
          { added with actions := added.actions ++ [.resolve (core.nextConn + 1) target] } :=
        .of_conns rfl rfl (Core.asked_writes rfl (fun _ => rfl) owed)
      exact adds.trans asks.lasts (asks.carries adds.channels)

theorem starting_carries (channels : core.Channels (core.asked owed))
    (found : core.conns[conn]? = some state) (fresh : state.Fresh) :
    core.Carries (core.starting conn state) owed := by
  let started : Conn :=
    { state.tried with
      routingInWelcome := core.client.routingVersion, living := true, reading := true }
  have reads : ∀ each : ConnId, (core.starting conn state).conns[each]? =
      if each = conn then some started else core.conns[each]? := by
    intro each
    change ((core.conns.insert conn _).insert conn started)[each]? = _
    rw [Lookup.insert_apply, Lookup.insert_apply]
    split
    · rfl
    · rfl
  refine .of_reads channels found reads (Core.asked_writes rfl (fun _ => rfl) owed)
    (fun writes held => ?_) fun _ => .refl
  have nothing : writes = [] := by
    have count := held.count
    rw [fresh.rests] at count
    exact eq_nil_of_length_eq_zero count
  have empty : started.outgoing = [] := fresh.empty
  subst nothing
  refine ⟨held.count, held.limit, fun _ => ⟨fresh.stays, fresh.untold, .idle fresh.free empty, ?_⟩⟩
  rw [empty]
  exact Nat.zero_le _

end Connects

/-! ## The end of a write -/

theorem eraseP_filter (listed : List (ConnId × FrameBytes)) (conn each : ConnId) :
    (listed.eraseP (·.1 = conn)).filter (·.1 = each) =
      if each = conn then (listed.filter (·.1 = each)).tail else listed.filter (·.1 = each) := by
  induction listed with
  | nil => split <;> rfl
  | cons entry listed ih =>
    by_cases first : entry.1 = conn
    · rw [eraseP_cons_of_pos (by simpa using first)]
      split
      · rename_i same
        rw [filter_cons_of_pos (by simpa [same] using first), tail_cons]
      · rename_i other
        rw [filter_cons_of_neg (by simpa [first] using Ne.symm other)]
    · rw [eraseP_cons_of_neg (by simpa using first)]
      split
      · rename_i same
        rw [if_pos same] at ih
        rw [filter_cons_of_neg (by simpa [same] using first), filter_cons_of_neg (by simpa [same] using first), ih]
      · rename_i other
        rw [if_neg other] at ih
        rw [filter_cons, filter_cons, ih]

theorem Asked.on_answered (asked : Asked) (conn : ConnId) (written : Nat) (failed : Bool)
    (each : ConnId) : (asked.answered (.writeDone conn written failed)).on each =
      if each = conn then (asked.on each).tail else asked.on each :=
  eraseP_filter asked.writes conn each

section WriteEnds

variable {core after : Core} {owed : Asked} {conn : ConnId} {state : Conn}

theorem Core.Channels.answered {asked : Asked} {written : Nat} {failed : Bool}
    (channels : core.Channels asked) (allowed : asked.Allows (.writeDone conn written failed)) :
    core.ChannelsBut (asked.answered (.writeDone conn written failed)) conn ∧
      (asked.answered (.writeDone conn written failed)).on conn = [] ∧
      ∃ state : Conn, core.conns[conn]? = some state := by
  have some_ : asked.on conn ≠ [] := by
    obtain ⟨_, member⟩ := allowed
    exact ne_nil_of_mem (mem_filter.mpr ⟨member, by simp⟩)
  have known : ∃ state : Conn, core.conns[conn]? = some state := by
    cases found : core.conns[conn]? with
    | none => exact absurd (channels.unknown conn found) some_
    | some state => exact ⟨state, rfl⟩
  refine ⟨⟨fun each state other found => ?_, fun each none => ?_⟩, ?_, known⟩
  · rw [Asked.on_answered, if_neg other]
    exact channels.known each state found
  · obtain ⟨state, found⟩ := known
    have other : each ≠ conn := by
      intro same
      rw [same, found] at none
      cases none
    rw [Asked.on_answered, if_neg other]
    exact channels.unknown each none
  · obtain ⟨state, found⟩ := known
    have count := (channels.known conn state found).count
    rw [Asked.on_answered, if_pos rfl]
    apply eq_nil_of_length_eq_zero
    rw [length_tail, count]
    split <;> rfl

theorem dying_others (core : Core) (conn : ConnId) (state : Conn) {each : ConnId}
    (other : each ≠ conn) : ((dying conn state).after core).conns[each]? = core.conns[each]? := by
  have dies : (core.deadening conn state).conns[each]? = core.conns[each]? :=
    (Lookup.insert_apply _ _ _ _).trans (if_neg other)
  rw [dying_eq]
  split
  · exact dies
  · exact ((Lookup.insert_apply _ _ _ _).trans (if_neg other)).trans dies

theorem dying_here (core : Core) (conn : ConnId) (state : Conn) :
    ∃ next : Conn, ((dying conn state).after core).conns[conn]? = some next ∧
      next.living = false ∧ next.writeInFlight = state.writeInFlight ∧
      next.outgoingMax = state.outgoingMax := by
  rw [dying_eq]
  split
  · exact ⟨state.dead, Std.TreeMap.getElem?_insert_self, rfl, rfl, rfl⟩
  · exact ⟨{ state.dead with toldGone := true }, Std.TreeMap.getElem?_insert_self,
      rfl, rfl, rfl⟩

theorem sendHeartbitLater_tube (conn : ConnId) (core : Core) (found : core.conns[conn]? = some state) :
    ((sendHeartbitLater conn).after core).actions = core.actions ∧
      ∃ next : Conn, next.tube = state.tube ∧ ∀ each : ConnId, ((sendHeartbitLater conn).after core).conns[each]? =
          if each = conn then some next else core.conns[each]? := by
  have stays : ∀ each : ConnId, core.conns[each]? =
      if each = conn then some state else core.conns[each]? := by
    intro each
    split
    · rename_i same
      rw [same, found]
    · rfl
  unfold sendHeartbitLater
  rw [after_get_bind, found]
  dsimp only
  split
  · exact ⟨rfl, state, rfl, stays⟩
  · split
    · exact ⟨rfl, { state with quietSince := some core.now
                               sendHeartbitTimer := some (core.timers.nextKey + 1) }, rfl,
        fun each => Lookup.insert_apply _ _ _ each⟩
    · exact ⟨rfl, { state with quietSince := some core.now }, rfl,
        fun each => Lookup.insert_apply _ _ _ each⟩

theorem popping_eq (core : Core) (conn : ConnId) (state : Conn) (front : QueueEntry) :
    ∃ (quiet : Core) (next : Conn), quiet.actions = core.actions ∧ next.tube = state.popped.tube ∧
      (∀ each : ConnId, quiet.conns[each]? = if each = conn then some next else core.conns[each]?) ∧
      (popping conn state front).after core = (processSendQueue conn).after quiet := by
  let popped := core.putting conn state.popped
  let noted := (wroteEntry conn front).after popped
  have wrote : Shifts true popped noted := wroteEntry_shifting conn front popped
  have conns := wrote.aloof.conns
  have actions := wrote.aloof.actions
  have here : noted.conns[conn]? = some state.popped := by
    change ((wroteEntry conn front).after popped).conns[conn]? = _
    rw [conns]
    exact Std.TreeMap.getElem?_insert_self
  obtain ⟨acts, next, same, reads⟩ := sendHeartbitLater_tube conn noted here
  refine ⟨(sendHeartbitLater conn).after noted, next, acts.trans actions, same, fun each => ?_, ?_⟩
  · refine (reads each).trans ?_
    split
    · rfl
    · rename_i other
      change ((wroteEntry conn front).after popped).conns[each]? = _
      rw [conns]
      exact (Lookup.insert_apply _ _ _ _).trans (if_neg other)
  · unfold popping
    rw [after_bind, after_bind, after_bind]
    rfl

theorem processSendQueue_outgoing {conn each : ConnId} {next last : Conn} {core : Core}
    (found : core.conns[conn]? = some next)
    (read : ((processSendQueue conn).after core).conns[each]? = some last) :
    ∃ before : Conn, core.conns[each]? = some before ∧ last.outgoing = before.outgoing ∧
      last.living = before.living := by
  rcases processSendQueue_cases found with ⟨same, -⟩ | ⟨_, -, -, -, begun⟩
  · rw [same] at read
    exact ⟨last, read, rfl, rfl⟩
  · rw [begun] at read
    obtain ⟨rfl, rfl⟩ | ⟨-, read⟩ := Lookup.of_insert read
    · exact ⟨next, found, rfl, rfl⟩
    · exact ⟨last, read, rfl, rfl⟩

theorem processSendQueue_here {conn : ConnId} {state : Conn} {core : Core}
    (found : core.conns[conn]? = some state) :
    ∃ next : Conn, ((processSendQueue conn).after core).conns[conn]? = some next ∧
      next.outgoing = state.outgoing ∧ next.living = state.living := by
  rcases processSendQueue_cases found with ⟨same, -⟩ | ⟨_, -, -, -, begun⟩
  · rw [same]
    exact ⟨state, found, rfl, rfl⟩
  · rw [begun]
    exact ⟨_, Std.TreeMap.getElem?_insert_self, rfl, rfl⟩

theorem popping_channels {writes : List (ConnId × FrameBytes)} (front : QueueEntry)
    (but : core.ChannelsBut (core.asked owed) conn) (nothing : (core.asked owed).on conn = [])
    (channeled : state.Channeled conn writes) : ((popping conn state front).after core).Channels
        (((popping conn state front).after core).asked owed) ∧
      ∀ (each : ConnId) (before next : Conn), core.conns[each]? = some before →
        ((popping conn state front).after core).conns[each]? = some next →
          next.outgoing = if each = conn then state.outgoing.tail else before.outgoing := by
  obtain ⟨quiet, next, acts, same, reads, result⟩ := popping_eq core conn state front
  have asked : quiet.asked owed = core.asked owed := by
    unfold Core.asked
    rw [acts]
  have there : quiet.conns[conn]? = some next := (reads conn).trans (if_pos rfl)
  obtain ⟨living, shut, told, max, out, flight, outgoing⟩ := Conn.tube_eq same
  have ready : next.Ready := by
    refine ⟨out, flight, max ▸ channeled.limit, fun lives => ?_⟩
    have alive := channeled.alive (living.symm.trans lives)
    refine ⟨shut.trans alive.stays, told.trans alive.untold, ?_⟩
    rw [outgoing, max]
    refine le_trans ?_ alive.fits
    change state.outgoing.tail.length ≤ _
    rw [length_tail]
    exact Nat.sub_le _ _
  rw [result]
  constructor
  · refine processSendQueue_channels ⟨fun each last other read => ?_, fun each none => ?_⟩ there
      (asked ▸ nothing) ready
    · rw [asked]
      exact but.known each last other ((reads each).trans (if_neg other) ▸ read)
    · rw [asked]
      have other : each ≠ conn := by
        intro same
        rw [same, there] at none
        cases none
      exact but.unknown each ((reads each).trans (if_neg other) ▸ none)
  · intro each _ _ also read
    obtain ⟨_, known, same, -⟩ := processSendQueue_outgoing there read
    rw [reads] at known
    rw [same]
    by_cases is : each = conn
    · rw [if_pos is] at known ⊢
      cases known
      exact outgoing
    · rw [if_neg is] at known ⊢
      cases also.symm.trans known
      rfl

theorem popping_lives (core : Core) (conn : ConnId) (state : Conn) (front : QueueEntry) :
    ∃ next : Conn, ((popping conn state front).after core).conns[conn]? = some next ∧
      next.outgoing = state.outgoing.tail ∧ next.living = state.living := by
  obtain ⟨quiet, next, -, same, reads, result⟩ := popping_eq core conn state front
  have there : quiet.conns[conn]? = some next := (reads conn).trans (if_pos rfl)
  obtain ⟨living, -, -, -, -, -, outgoing⟩ := Conn.tube_eq same
  obtain ⟨last, read, queue, still⟩ := processSendQueue_here there
  rw [result]
  exact ⟨last, read, queue.trans outgoing, still.trans living⟩

end WriteEnds

/-! ## Onsets -/

/-- What the driver's word leaves of the queue of `conn`, in `state`: all but a front that went
whole. -/
def Conn.remains (conn : ConnId) (state : Conn) : Event → List QueueEntry
  | .writeDone each written failed =>
    if each = conn && !failed && written ≠ 0 &&
        state.outgoing.head?.any (·.frame.wireLength = written) then state.outgoing.tail
    else state.outgoing
  | _ => state.outgoing

/-- The channels are as they should be after, and the queues of those that live only filled, but
for a front that went whole. -/
structure Core.Ushers (core after : Core) (event : Event) (asked : Asked) : Prop where
  channels : after.Channels (after.asked (asked.answered event))
  fills : ∀ (conn : ConnId) (state next : Conn), core.conns[conn]? = some state →
    after.conns[conn]? = some next → next.living = true → Fills (state.remains conn event) next.outgoing

namespace Core.Ushers

variable {core after : Core} {event : Event} {asked : Asked}

theorem of_carries (other : ∀ conn written failed, event ≠ .writeDone conn written failed)
    (carries : core.Carries after (asked.answered event)) : core.Ushers after event asked where
  channels := carries.channels
  fills conn state next found read lives := by
    have same : state.remains conn event = state.outgoing := by
      cases event with
      | writeDone each written failed => exact absurd rfl (other each written failed)
      | _ => rfl
    rw [same]
    exact carries.fills conn state next found read lives

theorem trans {last : Core} (one : core.Ushers after event asked)
    (two : after.Ferries (asked.answered event) last) : core.Ushers last event asked where
  channels := (two.carries one.channels).channels
  fills conn state next found read lives := by
    obtain ⟨between, also, ages⟩ := two.lasts.ages conn next read
    have alive : between.living = true := by
      by_contra dead
      cases (ages.dead (Bool.eq_false_of_not_eq_true dead)).symm.trans lives
    exact (one.fills conn state between found also alive).trans
      ((two.carries one.channels).fills conn between next also read lives)

end Core.Ushers

theorem Asked.answered_writes {event : Event}
    (other : ∀ conn written failed, event ≠ .writeDone conn written failed) (asked : Asked) :
    (asked.answered event).writes = asked.writes := by
  cases event with
  | writeDone conn written failed => exact absurd rfl (other conn written failed)
  | _ => rfl

section Onsets

variable {core after : Core} {owed : Asked}

theorem forsaking_ferries (target : Target) (core : Core) : core.Ferries owed ((forsaking target).after core) := by
  obtain ⟨_, _, eq⟩ := forsaking_only target core
  rw [eq]
  exact .of_conns rfl rfl rfl

variable {conn : ConnId} {written : Nat} {failed : Bool} {asked : Asked}

theorem Onset.carries_connected {up : Bool} (onset : Onset (.connected conn up) core after)
    (channels : core.Channels (core.asked owed))
    (never : ∀ state : Conn, core.conns[conn]? = some state → state.Fresh) :
    core.Carries after owed := by
  cases onset with
  | plain plain => cases plain
  | unknown => exact .refl channels
  | up conn state _ found own =>
    have starts := starting_carries channels found (never state found)
    have greets : (core.starting conn state).Ferries owed _ :=
      Core.Ferries.ticks.greeting conn own _
    exact starts.trans greets.lasts (greets.carries starts.channels)
  | swamped _ state found => exact starting_carries channels found (never state found)
  | failed _ _ found => exact .of_tube channels found rfl rfl rfl
  | retried conn state address found =>
    have fails : core.Carries (core.failing conn state) owed := .of_tube channels found rfl rfl rfl
    have tries : (core.failing conn state).Ferries owed
        ((core.failing conn state).reopening conn state.tried address) :=
      reopening_ferries Std.TreeMap.getElem?_insert_self
    exact fails.trans tries.lasts (tries.carries fails.channels)

theorem Fires.carries {fired : Timers.Fired} (fires : Fires core fired after)
    (channels : core.Channels (core.asked owed))
    (known : ∀ (conn : ConnId) (state : Conn), core.conns[conn]? = some state →
      conn ≤ core.nextConn) : core.Carries after owed := by
  rcases Core.Ferries.ticks.fires fires with ferries | ⟨_, timers, reconnects, connects⟩
  · exact ferries.carries channels
  · have carried := (Core.Ferries.ticks.aside core timers reconnects).carries channels
    have onward := connects.carries carried.channels known
    exact ⟨onward.channels, onward.fills⟩

theorem Conn.remains_other {each : ConnId} (other : each ≠ conn) (state : Conn) (written : Nat)
    (failed : Bool) : state.remains each (.writeDone conn written failed) = state.outgoing :=
  if_neg (by simp [Ne.symm other])

theorem WentOut.remains {state : Conn} {front : QueueEntry}
    (went : WentOut state front written failed) :
    state.remains conn (.writeDone conn written failed) = state.outgoing.tail :=
  if_pos (by simp [went.right, went.some_, went.first, went.whole])

theorem Core.Ushers.of_dead {between : Core}
    (but : core.ChannelsBut (asked.answered (.writeDone conn written failed)) conn)
    (nothing : (asked.answered (.writeDone conn written failed)).on conn = [])
    (asks : between.asked (asked.answered (.writeDone conn written failed)) =
      asked.answered (.writeDone conn written failed))
    (others : ∀ each, each ≠ conn → between.conns[each]? = core.conns[each]?)
    (here : ∀ next : Conn, between.conns[conn]? = some next →
      next.living = false ∧ next.writeInFlight = false ∧
        next.outgoingMax ≤ DEFAULT_OUT_QUEUE_SIZE) :
    core.Ushers between (.writeDone conn written failed) asked := by
  refine ⟨?_, fun each state next found read lives => ?_⟩
  · rw [asks]
    refine ⟨fun each next read => ?_, fun each none => ?_⟩
    · by_cases same : each = conn
      · subst same
        obtain ⟨dead, rests, limit⟩ := here next read
        rw [nothing]
        exact ⟨by rw [rests]; rfl, limit, fun lives => nomatch dead.symm.trans lives⟩
      · exact but.known each next same (others each same ▸ read)
    · by_cases same : each = conn
      · rw [same, nothing]
      · exact but.unknown each (others each same ▸ none)
  · by_cases same : each = conn
    · subst same
      cases (here next read).1.symm.trans lives
    · cases found.symm.trans (others each same ▸ read)
      rw [Conn.remains_other same]

theorem Onset.ushers_written (onset : Onset (.writeDone conn written failed) core after)
    (idle : core.actions = []) (channels : core.Channels asked)
    (allowed : asked.Allows (.writeDone conn written failed)) :
    core.Ushers after (.writeDone conn written failed) asked := by
  obtain ⟨but, nothing, known⟩ := channels.answered allowed
  have asks : ∀ {between : Core}, between.actions = core.actions →
      between.asked (asked.answered (.writeDone conn written failed)) =
        asked.answered (.writeDone conn written failed) :=
    fun same => Core.asked_idle (same.trans idle) _
  have puts : ∀ {each : ConnId} {next : Conn}, each ≠ conn →
      (core.putting conn next).conns[each]? = core.conns[each]? :=
    fun other => (Lookup.insert_apply _ _ _ _).trans (if_neg other)
  -- a connection whose channel is of no use has none
  have rests : ∀ {state : Conn}, core.conns[conn]? = some state → state.living = false →
      core.Ushers (core.putting conn state.rested) (.writeDone conn written failed) asked := by
    intro state found dead
    refine .of_dead but nothing (asks rfl) (fun _ => puts) fun next read => ?_
    rw [Std.TreeMap.getElem?_insert_self] at read
    cases read
    exact ⟨dead, rfl, (channels.known conn state found).limit⟩
  have dead : ∀ {state : Conn}, core.conns[conn]? = some state →
      (state.living = true → False) → state.living = false := fun _ not =>
    Bool.eq_false_iff.mpr not
  cases onset with
  | plain plain => cases plain
  | stray _ _ _ missing =>
    obtain ⟨state, found⟩ := known
    cases missing.symm.trans found
  | settled conn state written failed found broken =>
    have winds : Turning .timer .all (windingUp conn written failed) :=
      .bind (settleSetAside_turning conn written failed) fun _ => forgetIfFinished_turning trivial
    refine (rests found (dead found fun lives => ?_)).trans (.of_turns (winds _))
    exact ((channels.known conn state found).alive lives).writing.opened broken
  | unwritten conn state _ _ found _ _ ended =>
    refine rests found (dead found fun lives => ?_)
    have alive := (channels.known conn state found).alive lives
    rcases ended with shut | told
    · cases alive.stays.symm.trans shut
    · cases alive.untold.symm.trans told
  | fell conn state written failed found _ _ _ falls =>
    let fallen := (dying conn state.rested).after (core.putting conn state.rested)
    have dies : core.Ushers fallen (.writeDone conn written failed) asked := by
      refine .of_dead but nothing (asks ?_) (fun each other => ?_) fun next read => ?_
      · change ((dying conn state.rested).after (core.putting conn state.rested)).actions = _
        rw [dying_eq]
        split <;> rfl
      · exact (dying_others _ conn _ other).trans (puts other)
      · obtain ⟨last, there, still, rest, same⟩ :=
          dying_here (core.putting conn state.rested) conn state.rested
        cases there.symm.trans read
        exact ⟨still, rest, same.trans_le (channels.known conn state found).limit⟩
    exact dies.trans (.of_turns falls.goes)
  | broke conn state written failed found _ _ departs =>
    let told := (readingOn conn state.rested true).after (core.putting conn state.rested)
    have eq : told = ((core.putting conn state.rested).putting conn
        (state.rested.readsOn true)).left conn (state.rested.readsOn true) := readingOn_eq _ _ _ _
    have reads : core.Ushers told (.writeDone conn written failed) asked := by
      refine .of_dead but nothing (asks (by rw [eq]; rfl)) (fun each other => ?_) fun next read => ?_
      · rw [eq]
        refine (Lookup.insert_apply _ _ _ each).trans ((if_neg other).trans ?_)
        exact (Lookup.insert_apply _ _ _ each).trans ((if_neg other).trans (puts other))
      · rw [eq] at read
        cases Std.TreeMap.getElem?_insert_self.symm.trans read
        exact ⟨rfl, rfl, (channels.known conn state found).limit⟩
    exact reads.trans (.of_turns departs.goes)
  | written conn state front written failed found went =>
    have begins := Core.asked_idle idle (asked.answered (.writeDone conn written failed))
    rw [← begins] at but nothing
    obtain ⟨after, queues⟩ :=
      popping_channels front but nothing (channels.known conn state found)
    have pops : core.Ushers ((popping conn state front).after core) (.writeDone conn written failed) asked := by
      refine ⟨after, fun each before next also read lives => ?_⟩
      rw [queues each before next also read]
      split
      · rename_i same
        subst same
        cases found.symm.trans also
        rw [went.remains]
      · rename_i other
        rw [Conn.remains_other other]
    have refills : Turning .timer .all (refilling conn state) :=
      .get fun _ => .when (WayIn.outgoingQueueHasRoom conn).turning
    exact pops.trans (.of_turns (refills _))

theorem Onset.ushers {event : Event} (onset : Onset event core after) (idle : core.actions = [])
    (channels : core.Channels asked) (opens : core.Opens asked)
    (known : ∀ (conn : ConnId) (state : Conn), core.conns[conn]? = some state →
      conn ≤ core.nextConn) (allowed : asked.Allows event) : core.Ushers after event asked := by
  by_cases writes : ∃ conn written failed, event = .writeDone conn written failed
  · obtain ⟨conn, written, failed, rfl⟩ := writes
    exact onset.ushers_written idle channels allowed
  have other : ∀ conn written failed, event ≠ .writeDone conn written failed :=
    fun conn written failed is => writes ⟨conn, written, failed, is⟩
  have begun : core.Channels (core.asked (asked.answered event)) := by
    rw [Core.asked_idle idle]
    exact channels.of_writes (Asked.answered_writes other asked)
  have never : ∀ conn, conn ∈ asked.opens → ∀ state : Conn, core.conns[conn]? = some state → state.Fresh := by
    intro conn member state found
    refine opens.fresh conn state ?_ found
    have some_ : 0 < asked.opens.count conn := count_pos_iff.mpr member
    unfold Core.openings
    omega
  refine .of_carries other ?_
  cases onset with
  | plain | tooLate | leaving | unresolved | unstarted | unheard | nothing => exact .refl begun
  | connect target connects | startConnect target timeout done runs connects =>
    exact connects.carries begun known
  | forsake target => exact (forsaking_ferries target core).carries begun
  | cut target _ _ _ _ _ falls =>
    have turns : Turns (.disconnect target) .all _ after := falls.turns trivial
    exact ((forsaking_ferries target core).trans (.of_turns turns)).carries begun
  | close target _ _ _ _ departs =>
    have turns : Turns (.disconnect target) .all _ after := departs.turns trivial
    exact ((forsaking_ferries target core).trans (.of_turns turns)).carries begun
  | openFailed | posted => exact .of_conns begun rfl rfl
  | resolved conn state candidates _ found =>
    have put : core.Ferries (asked.answered (.resolved conn candidates))
        (core.putting conn { state with candidates, nextCandidate := 0 }) :=
      .of_tube found rfl rfl rfl rfl rfl
    exact (put.trans (reopening_ferries Std.TreeMap.getElem?_insert_self)).carries begun
  | unknown conn up missing =>
    exact Onset.carries_connected (.unknown conn up missing) begun (never conn allowed)
  | up conn state welcome found own fits =>
    exact Onset.carries_connected (.up conn state welcome found own fits) begun (never conn allowed)
  | swamped conn state found full =>
    exact Onset.carries_connected (.swamped conn state found full) begun (never conn allowed)
  | failed conn state found =>
    exact Onset.carries_connected (.failed conn state found) begun (never conn allowed)
  | retried conn state address found stays =>
    exact Onset.carries_connected (.retried conn state address found stays) begun (never conn allowed)
  | started conn | heard conn => exact (Core.Ferries.ticks.requireHeartbitLater conn core).carries begun
  | stray conn written failed | settled conn state written failed
  | unwritten conn state written failed | fell conn state written failed
  | broke conn state written failed | written conn state front written failed =>
    exact absurd rfl (other conn written failed)
  | timer fires => exact fires.carries begun known
  | postedFailed conn rest queued onset =>
    let worked : Core := { core with posted := rest }
    have works : core.Carries worked (asked.answered .posted) := .of_conns begun rfl rfl
    have connects : worked.Carries after (asked.answered .posted) := by
      refine onset.carries_connected works.channels fun state found => ?_
      refine opens.fresh conn state ?_ found
      have some_ : 0 < core.posted.countP (Posted.fails conn) := by
        rw [queued]
        exact countP_pos_iff.mpr ⟨.connectFailed conn, mem_cons_self, decide_eq_true rfl⟩
      unfold Core.openings
      omega
    exact ⟨connects.channels, connects.fills⟩

end Onsets

/-! ## Along every run -/

structure Core.Coupled (core : Core) (asked : Asked) : Prop where
  channels : core.Channels asked
  opens : core.Opens asked
  indexed : core.Indexed

theorem Core.Coupled.start (settings : Settings) (now : Instant) :
    (settings.start now).Coupled {} where
  channels := by
    refine ⟨fun conn state found => ?_, fun _ _ => rfl⟩
    change (∅ : Std.TreeMap ConnId Conn)[conn]? = some state at found
    rw [Std.TreeMap.getElem?_emptyc] at found
    cases found
  opens :=
    { once := fun _ => Nat.zero_le _
      fresh := fun _ _ some_ => absurd some_ (Nat.lt_irrefl 0)
      known := fun _ some_ => absurd some_ (Nat.lt_irrefl 0) }
  indexed := .start settings now

section Steps

variable {core : Core} {asked : Asked} (coupled : core.Coupled asked) (now : Instant)
  {event : Event} (allowed : asked.Allows event)

include coupled allowed

theorem Core.Coupled.ushers :
    { core with now, actions := [] }.Ushers (step now event core) event asked := by
  obtain ⟨_, onset, acts⟩ := handle_goes event { core with now, actions := [] }
  have begun : { core with now, actions := [] }.Channels asked :=
    ⟨coupled.channels.known, coupled.channels.unknown⟩
  have ushers := onset.ushers rfl begun ⟨coupled.opens.once, coupled.opens.fresh, coupled.opens.known⟩
    coupled.indexed.known allowed
  exact ushers.trans (.of_turns acts.turns)

theorem Core.Coupled.step : (step now event core).Coupled (asked.after event (step now event core).actions) := by
  refine ⟨(coupled.ushers now allowed).channels, ?_, coupled.indexed.step now event⟩
  obtain ⟨_, onset, acts⟩ := handle_goes event { core with now, actions := [] }
  have opens := onset.opens rfl ⟨coupled.opens.once, coupled.opens.fresh, coupled.opens.known⟩ allowed
  exact acts.ripens.opens opens fun _ => False.elim

end Steps

variable {core : Core}

theorem Driven.coupled {settings : Settings} {now : Instant} {history : History} {asked : Asked}
    (driven : Driven (settings.start now) history core asked) : core.Coupled asked := by
  induction driven with
  | start => exact .start settings now
  | step now _ _ _ allowed ih => exact ih.step now allowed

theorem schedule_asap {conn : ConnId} {state : Conn} {writes : List (ConnId × FrameBytes)}
    {frame : OutFrame} {force : Bool} (found : core.conns[conn]? = some state)
    (writing : state.Writing conn writes)
    (taken : (schedule conn frame force true).value core = true) :
    ∃ (tracker : TrackerId) (next : Conn), ((schedule conn frame force true).after core).conns[conn]? = some next ∧
        next.outgoing = state.outgoing.take 1 ++ ⟨tracker, frame⟩ :: state.outgoing.drop 1 := by
  have behind : ∀ entry, state.insertAsap entry = state.outgoing.take 1 ++ entry :: state.outgoing.drop 1 := by
    intro entry
    unfold Conn.insertAsap
    cases writing with
    | idle free empty => rw [free, if_neg (by decide), empty]; rfl
    | front _ _ busy queue => rw [busy, if_pos rfl, queue]; rfl
  unfold schedule getConn at taken ⊢
  rw [value_bind, value_gets, after_gets, found] at taken
  rw [after_gets_bind, found]
  dsimp only at taken ⊢
  split at taken
  · cases taken
  · rename_i lives
    rw [if_neg lives]
    split at taken
    · cases taken
    · rename_i fits
      rw [if_neg fits]
      let tracked := (newTracker .queued).after core
      let queued : Conn := { state with outgoing := state.insertAsap ⟨core.nextTracker, frame⟩ }
      have here : (tracked.putting conn queued).conns[conn]? = some queued :=
        Std.TreeMap.getElem?_insert_self
      obtain ⟨next, read, same, -⟩ := processSendQueue_here here
      exact ⟨core.nextTracker, next, read, same.trans (behind _)⟩

/-! ## What is taken on once a write is done -/

/-- The queue of `conn` grew at its end, if at all. -/
def Core.Appends (conn : ConnId) (core after : Core) : Prop :=
  ∀ state : Conn, core.conns[conn]? = some state → ∃ (next : Conn) (taken : List QueueEntry),
    after.conns[conn]? = some next ∧ next.living = state.living ∧ next.outgoing = state.outgoing ++ taken

namespace Core.Appends

variable {after : Core} {conn each : ConnId} {state : Conn}

theorem of_conns (same : after.conns = core.conns) : core.Appends conn after :=
  fun state found => ⟨state, [], same ▸ found, rfl, (append_nil _).symm⟩

theorem trans {first second third : Core} (one : first.Appends conn second)
    (two : second.Appends conn third) : first.Appends conn third := by
  intro state found
  obtain ⟨_, early, found, living, queue⟩ := one state found
  obtain ⟨next, late, found, lives, also⟩ := two _ found
  exact ⟨next, early ++ late, found, lives.trans living, by rw [also, queue, append_assoc]⟩

instance : Std.Refl (Core.Appends conn) := ⟨fun _ => of_conns rfl⟩

instance : IsTrans Core (Core.Appends conn) := ⟨fun _ _ _ => trans⟩

theorem of_insert (next : Conn) (taken : List QueueEntry) (found : core.conns[each]? = some state)
    (inserted : after.conns = core.conns.insert each next) (living : next.living = state.living)
    (queue : next.outgoing = state.outgoing ++ taken) : core.Appends conn after := by
  intro before also
  rw [inserted, Lookup.insert_apply]
  split
  · rename_i same
    rw [same, found] at also
    cases also
    exact ⟨next, taken, rfl, living, queue⟩
  · exact ⟨before, [], also, rfl, (append_nil _).symm⟩

theorem processSendQueue (found : core.conns[each]? = some state) :
    core.Appends conn ((processSendQueue each).after core) := by
  rcases processSendQueue_cases found with ⟨same, -⟩ | ⟨_, -, -, -, begun⟩
  · rw [same]
    exact of_conns rfl
  · rw [begun]
    exact of_insert _ [] found rfl rfl (append_nil _).symm

end Core.Appends

theorem Stow.appends {after : Core} {may : Nat → Prop} {conn : ConnId} (stow : Stow may core after) :
    core.Appends conn after := by
  cases stow with
  | settle settle => exact .of_conns settle.loose.aloof.conns
  | line | arm | cancel => exact .of_conns rfl
  | queue _ state entry found =>
    exact (Core.Appends.of_insert { state with outgoing := state.outgoing ++ [entry] } [entry] found
      rfl rfl rfl).trans (.processSendQueue Std.TreeMap.getElem?_insert_self)
  | idle _ state asks found =>
    exact .of_insert { state with notifyWhenIdle := asks } [] found rfl rfl (append_nil _).symm

theorem parcels_appends (conn : ConnId) : Parcels (Core.Appends conn) where
  shift shift := .of_conns shift.aloof.conns
  enveloped _ _ _ := .of_conns rfl
  batcher _ _ := .of_conns rfl
  sendAt _ _ _ _ _ _ fits := (sendAt_puts _ _ _ _ _ fits).within fun put => by
    cases put with
    | stow stow => exact stow.appends
    | taken => exact .of_conns rfl
  waitForIdle := .steps Stow.appends (@waitForIdle_stowing anyBatch)

theorem notifyIdle_appends (conn : ConnId) : Keeps (Core.Appends conn) (notifyIdle conn) := by
  intro core
  unfold notifyIdle getConn
  rw [after_gets_bind]
  split
  · exact .of_conns rfl
  · rename_i state found
    cases (state.notifyWhenIdle && state.outgoing.isEmpty) with
    | false => exact .of_conns rfl
    | true =>
      have closes : Keeps (Core.Appends conn) (closeIdleBatches (some conn)) :=
        .get fun _ => .forEach fun _ => (parcels_appends conn).closeBatch _ _
      exact (Core.Appends.of_insert { state with notifyWhenIdle := false } [] found rfl rfl
        (append_nil _).symm).trans (closes _)

/-- A front that went whole is popped, and what is taken on then comes behind the rest. -/
theorem frontWritten_appends {conn : ConnId} {state : Conn} {front : QueueEntry} {written : Nat}
    (found : core.conns[conn]? = some state) (went : WentOut state front written false) :
    (onWriteDone conn written false).after core = (notifyIdle conn).after
        ((refilling conn state).after ((popping conn state front).after core)) ∧
      ∃ popped next taken, ((popping conn state front).after core).conns[conn]? = some popped ∧
        popped.outgoing = state.outgoing.tail ∧
        ((onWriteDone conn written false).after core).conns[conn]? = some next ∧
        next.living = state.living ∧ next.outgoing = state.outgoing.tail ++ taken := by
  have writes : (onWriteDone conn written false).after core = (notifyIdle conn).after
      ((refilling conn state).after ((popping conn state front).after core)) := by
    unfold onWriteDone getConn
    rw [after_gets_bind, found]
    dsimp only
    rw [if_neg went.open_, went.first]
    dsimp only
    rw [if_neg (by simp [went.some_, went.whole])]
    rfl
  have refills : Keeps (Core.Appends conn) (refilling conn state) :=
    .get fun _ => .when (.steps Stow.appends (outgoingQueueHasRoom_stowing conn))
  obtain ⟨popped, read, queue, lives⟩ := popping_lives core conn state front
  obtain ⟨next, taken, at_, living, also⟩ := (refills _).trans (notifyIdle_appends conn _) popped read
  refine ⟨writes, popped, next, taken, read, queue, ?_, living.trans lives, by rw [also, queue]⟩
  rw [writes]
  exact at_

/-- At every event boundary the channel of a connection that lives is busy just while its queue
is not empty, one write in flight, of the front. The queue keeps to its limit, what is scheduled
asap goes right behind the front. Only a front that went whole goes: it is popped, and what is taken
on then comes behind the rest. -/
theorem write_channel_of_living_connections {settings : Settings} {now : Instant}
    {history : History} {core : Core} {asked : Asked}
    (driven : Driven (settings.start now) history core asked) {conn : ConnId} {state : Conn}
    (found : core.conns[conn]? = some state) (living : state.living = true) :
    (state.out = .busy ↔ state.outgoing ≠ []) ∧ (state.writeInFlight = true ↔ state.outgoing ≠ []) ∧
      asked.writes.filter (·.1 = conn) = (state.outgoing.take 1).map (fun front => (conn, front.frame.bytes)) ∧
      state.outgoing.length ≤ state.outgoingMax + FORCED_FRAMES_PAST_FULL_QUEUE ∧
      (∀ (frame : OutFrame) (force : Bool), (schedule conn frame force true).value core = true →
        ∃ (tracker : TrackerId) (next : Conn),
          ((schedule conn frame force true).after core).conns[conn]? = some next ∧
            next.outgoing = state.outgoing.take 1 ++ ⟨tracker, frame⟩ :: state.outgoing.drop 1) ∧
      (∀ (later : Instant) (event : Event) (next : Conn), asked.Allows event →
        (step later event core).conns[conn]? = some next → next.living = true →
          Fills (state.remains conn event) next.outgoing) ∧
      ∀ (later : Instant) (written : Nat) (front : QueueEntry) (rest : List QueueEntry),
        state.outgoing = front :: rest → written = front.frame.wireLength → written ≠ 0 →
          let begun := { core with now := later, actions := [] }
          step later (.writeDone conn written false) core = (notifyIdle conn).after
              ((refilling conn state).after ((popping conn state front).after begun)) ∧
            ∃ popped next taken, ((popping conn state front).after begun).conns[conn]? = some popped ∧
              popped.outgoing = rest ∧
              (step later (.writeDone conn written false) core).conns[conn]? = some next ∧
              next.living = true ∧ next.outgoing = rest ++ taken := by
  have coupled := driven.coupled
  have channeled := coupled.channels.known conn state found
  have alive := channeled.alive living
  have steps : ∀ (later : Instant) (event : Event) (next : Conn), asked.Allows event →
      (step later event core).conns[conn]? = some next → next.living = true →
        Fills (state.remains conn event) next.outgoing := fun later event next allowed read lives =>
    (coupled.ushers later allowed).fills conn state next found read lives
  have writing : asked.on conn = (state.outgoing.take 1).map (fun front => (conn, front.frame.bytes)) ∧
      (state.out = .busy ↔ state.outgoing ≠ []) := by
    have writing := alive.writing
    generalize asked.on conn = writes at writing
    cases writing with
    | idle free empty => rw [empty, free]; simp
    | front _ _ busy queue => rw [queue, busy]; simp
  obtain ⟨writes, busy⟩ := writing
  have flight : state.writeInFlight = true ↔ state.outgoing ≠ [] := by
    have count := channeled.count
    rw [writes] at count
    cases queue : state.outgoing with
    | nil | cons front rest =>
      cases flight : state.writeInFlight <;> simp [queue, flight] at count ⊢
  refine ⟨busy, flight, writes, alive.fits, fun frame force taken =>
    schedule_asap found alive.writing taken, steps, ?_⟩
  intro later written front _ queue whole some_
  have went : WentOut state front written false :=
    ⟨alive.writing.opened, by rw [queue]; rfl, rfl, some_, whole.symm⟩
  have begun : { core with now := later, actions := [] }.conns[conn]? = some state := found
  obtain ⟨writes, popped, next, taken, at_, empty, read, lives, also⟩ := frontWritten_appends begun went
  rw [queue] at empty also
  exact ⟨writes, popped, next, taken, at_, empty, read, lives.trans living, also⟩

/-- A client that a multiplexer welcomed sends a message while its own greeting is being written. -/
theorem write_channel_of_two : ∃ (history : History) (core : Core) (asked : Asked) (state : Conn)
    (front second : QueueEntry), Driven (Settings.plain.start 0) history core asked ∧
      core.conns[1]? = some state ∧ state.living = true ∧ state.outgoing = [front, second] ∧
      asked.writes.filter (·.1 = 1) = [(1, front.frame.bytes)] ∧
      (∃ (tracker : TrackerId) (next : Conn),
        ((schedule 1 (heartbitFrame 1) true true).after core).conns[1]? = some next ∧
          next.outgoing = [front, ⟨tracker, heartbitFrame 1⟩, second]) ∧
      ∃ (next : Conn) (taken : List QueueEntry),
        (step 2 (.writeDone 1 front.frame.wireLength false) core).conns[1]? = some next ∧
          next.living = true ∧ next.outgoing = second :: taken := by
  let frame : Frame := ⟨⟨40, { id := some 70, type := 200 }⟩, 70, 200, .none⟩
  have connects : Driven (Settings.plain.start 0) [(0, .connect ⟨.address 1, 2⟩), (0, .connected 1 true)] _ _ :=
    (Driven.start.step 0 (.connect ⟨.address 1, 2⟩) (by decide) trivial).step 0 (.connected 1 true)
      (by decide +kernel) (show 1 ∈ _ by decide +kernel)
  have driven := (connects.step 0 (.frame 1 (some welcomeOf50)) (by decide +kernel) trivial).step 1
    (.send frame false none none false none false) (by decide +kernel) trivial
  generalize reached : step 1 (.send frame false none none false none false) _ = core at driven
  have shape : core.conns[1]?.any (fun state => state.living && state.outgoing.length = 2 &&
      state.outgoing.head?.any (·.frame.wireLength ≠ 0)) = true := by
    rw [← reached]
    decide +kernel
  have taken : (schedule 1 (heartbitFrame 1) true true).value core = true := by
    rw [← reached]
    decide +kernel
  obtain ⟨state, found, is⟩ := Option.any_eq_true _ _ |>.mp shape
  simp only [Bool.and_eq_true, decide_eq_true_eq] at is
  obtain ⟨front, second, queue⟩ := length_eq_two.mp is.1.2
  obtain ⟨-, -, writes, -, asap, -, pops⟩ := write_channel_of_living_connections driven found is.1.1
  have some_ : front.frame.wireLength ≠ 0 := by simpa [queue] using is.2
  obtain ⟨-, _, next, more, -, -, read, lives, also⟩ := pops 2 _ front [second] queue rfl some_
  obtain ⟨tracker, behind, reads, inserted⟩ := asap _ true taken
  rw [queue] at writes inserted
  exact ⟨_, core, _, state, front, second, driven, found, is.1.1, queue, writes,
    ⟨tracker, behind, reads, inserted⟩, next, more, read, lives, also⟩

end Multiplexer
