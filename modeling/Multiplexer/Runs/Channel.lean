import Multiplexer.Runs.Index

/-! The write channel of a connection: what the driver still has to write of it, and what its
queue and its channel say of that, change by change. -/

set_option autoImplicit false

namespace Multiplexer

open Program List Std

/-! ## Queues -/

/-- One entry more in a queue: at its end, or, a frame of the connection's own, right behind the
front. -/
inductive Fill : List QueueEntry → List QueueEntry → Prop
  | first (entry : QueueEntry) : Fill [] [entry]
  | last (front : QueueEntry) (rest : List QueueEntry) (entry : QueueEntry) :
      Fill (front :: rest) (front :: rest ++ [entry])
  | asap (front : QueueEntry) (rest : List QueueEntry) (entry : QueueEntry)
      (own : entry.frame.own = true) : Fill (front :: rest) (front :: entry :: rest)

abbrev Fills : List QueueEntry → List QueueEntry → Prop := Relation.ReflTransGen Fill

theorem Fill.append (outgoing : List QueueEntry) (entry : QueueEntry) : Fill outgoing (outgoing ++ [entry]) := by
  cases outgoing with
  | nil => exact .first entry
  | cons front rest => exact .last front rest entry

variable {outgoing : List QueueEntry} {core after : Core} {event : Event} {leave : Leave}
  {owed : Asked} {conn : ConnId} {state : Conn}

theorem Fills.front {front : QueueEntry} {rest : List QueueEntry}
    (fills : Fills (front :: rest) outgoing) : ∃ more, outgoing = front :: more := by
  induction fills with
  | refl => exact ⟨rest, rfl⟩
  | tail _ fill ih =>
    obtain ⟨more, rfl⟩ := ih
    cases fill with
    | last _ _ entry => exact ⟨more ++ [entry], rfl⟩
    | asap _ _ entry => exact ⟨entry :: more, rfl⟩

/-! ## Channels -/

def Core.asked (core : Core) (owed : Asked) : Asked := core.actions.foldl Asked.add owed

def Asked.on (asked : Asked) (conn : ConnId) : List (ConnId × FrameBytes) :=
  asked.writes.filter (·.1 = conn)

/-- What `conn`, in `state`, has to be written: nothing, its queue empty, or its queue's front. -/
inductive Conn.Writing (conn : ConnId) (state : Conn) : List (ConnId × FrameBytes) → Prop
  | idle (free : state.out = .free) (empty : state.outgoing = []) : Writing conn state []
  | front (first : QueueEntry) (rest : List QueueEntry) (busy : state.out = .busy)
      (queue : state.outgoing = first :: rest) : Writing conn state [(conn, first.frame.bytes)]

structure Conn.Alive (conn : ConnId) (state : Conn) (writes : List (ConnId × FrameBytes)) : Prop where
  stays : state.shutsDown = false
  untold : state.toldGone = false
  writing : state.Writing conn writes
  fits : state.outgoing.length ≤ state.outgoingMax + FORCED_FRAMES_PAST_FULL_QUEUE

/-- Whether or not it lives, one write at most is in flight, and the connection knows. -/
structure Conn.Channeled (conn : ConnId) (state : Conn) (writes : List (ConnId × FrameBytes)) : Prop where
  count : writes.length = if state.writeInFlight then 1 else 0
  limit : state.outgoingMax ≤ DEFAULT_OUT_QUEUE_SIZE
  alive : state.living = true → state.Alive conn writes

structure Core.Channels (core : Core) (asked : Asked) : Prop where
  known : ∀ (conn : ConnId) (state : Conn), core.conns[conn]? = some state →
    state.Channeled conn (asked.on conn)
  unknown : ∀ conn : ConnId, core.conns[conn]? = none → asked.on conn = []

theorem Core.Channels.of_writes {asked other : Asked} (channels : core.Channels asked)
    (writes : other.writes = asked.writes) : core.Channels other := by
  have same : ∀ conn, other.on conn = asked.on conn := fun conn => by
    unfold Asked.on
    rw [writes]
  exact ⟨fun conn state found => same conn ▸ channels.known conn state found,
    fun conn none => (same conn).trans (channels.unknown conn none)⟩

def Conn.tube (state : Conn) : Bool × Bool × Bool × Nat × Channel × Bool × List QueueEntry :=
  (state.living, state.shutsDown, state.toldGone, state.outgoingMax, state.out, state.writeInFlight,
    state.outgoing)

section Tubes

variable {conn : ConnId} {state next : Conn} {writes : List (ConnId × FrameBytes)}

theorem Conn.tube_eq (same : next.tube = state.tube) : next.living = state.living ∧
    next.shutsDown = state.shutsDown ∧ next.toldGone = state.toldGone ∧
    next.outgoingMax = state.outgoingMax ∧ next.out = state.out ∧
    next.writeInFlight = state.writeInFlight ∧ next.outgoing = state.outgoing := by
  simpa [tube] using same

theorem Conn.Writing.of_queue (out : next.out = state.out)
    (outgoing : next.outgoing = state.outgoing) (writing : state.Writing conn writes) :
    next.Writing conn writes := by
  cases writing with
  | idle free empty => exact .idle (out.trans free) (outgoing.trans empty)
  | front first rest busy queue => exact .front first rest (out.trans busy) (outgoing.trans queue)

theorem Conn.Writing.opened (writing : state.Writing conn writes) : state.out ≠ .broken := by
  cases writing with
  | idle free => rw [free]; decide
  | front _ _ busy => rw [busy]; decide

theorem Conn.Channeled.of_tube (same : next.tube = state.tube)
    (channeled : state.Channeled conn writes) : next.Channeled conn writes := by
  obtain ⟨living, shut, told, limit, out, flight, outgoing⟩ := Conn.tube_eq same
  refine ⟨flight ▸ channeled.count, limit ▸ channeled.limit, fun lives => ?_⟩
  have alive := channeled.alive (living.symm.trans lives)
  refine ⟨shut.trans alive.stays, told.trans alive.untold, alive.writing.of_queue out outgoing, ?_⟩
  rw [outgoing, limit]
  exact alive.fits

theorem Conn.Channeled.dead (flight : next.writeInFlight = state.writeInFlight)
    (limit : next.outgoingMax ≤ state.outgoingMax) (dead : next.living = false)
    (channeled : state.Channeled conn writes) : next.Channeled conn writes :=
  ⟨flight ▸ channeled.count, limit.trans channeled.limit, fun lives => nomatch dead.symm.trans lives⟩

end Tubes

/-! ## What is asked of the driver -/

theorem Core.asked_append (core : Core) (owed : Asked) (more : List Action) :
    { core with actions := core.actions ++ more }.asked owed = more.foldl Asked.add (core.asked owed) :=
  foldl_append

theorem Core.asked_writes {action : Action} (added : after.actions = core.actions ++ [action])
    (other : ∀ owed : Asked, (owed.add action).writes = owed.writes) (owed : Asked) :
    (after.asked owed).writes = (core.asked owed).writes := by
  unfold asked
  rw [added, foldl_append]
  exact other _

structure Core.Asks (core after : Core) : Prop where
  asked : ∃ writes, ∀ owed, after.asked owed =
    { core.asked owed with writes := (core.asked owed).writes ++ writes }
  posted : ∃ more, after.posted = core.posted ++ more ∧ ∀ conn, .connectFailed conn ∉ more
  nextConn : after.nextConn = core.nextConn

namespace Core.Asks

variable {core after : Core}

theorem trans {last : Core} (one : core.Asks after) (two : after.Asks last) : core.Asks last where
  asked := by
    obtain ⟨first, ones⟩ := one.asked
    obtain ⟨second, twos⟩ := two.asked
    refine ⟨first ++ second, fun owed => ?_⟩
    rw [twos, ones, append_assoc]
  posted := by
    obtain ⟨more, appended, none⟩ := one.posted
    obtain ⟨further, also, neither⟩ := two.posted
    refine ⟨more ++ further, by rw [also, appended, append_assoc], fun conn member => ?_⟩
    exact (mem_append.mp member).elim (none conn) (neither conn)
  nextConn := two.nextConn.trans one.nextConn

theorem of_actions (same : after.actions = core.actions)
    (posted : ∃ more, after.posted = core.posted ++ more ∧ ∀ conn, .connectFailed conn ∉ more)
    (nextConn : after.nextConn = core.nextConn) : core.Asks after where
  asked := ⟨[], fun owed => by unfold Core.asked; rw [same, append_nil]⟩
  posted := posted
  nextConn := nextConn

theorem refl (core : Core) : core.Asks core := of_actions rfl ⟨[], by simp⟩ rfl

theorem of_quiet (same : (after.actions, after.posted, after.nextConn) =
    (core.actions, core.posted, core.nextConn)) : core.Asks after := by
  simp only [Prod.mk.injEq] at same
  exact of_actions same.1 ⟨[], by simp [same.2.1]⟩ same.2.2

theorem of_plain {action : Action} (plain : ∀ owed : Asked, owed.add action = owed)
    (added : after.actions = core.actions ++ [action]) (posted : after.posted = core.posted)
    (nextConn : after.nextConn = core.nextConn) : core.Asks after where
  asked := by
    refine ⟨[], fun owed => ?_⟩
    unfold Core.asked
    rw [added, foldl_append, append_nil]
    exact plain _
  posted := ⟨[], by simp [posted]⟩
  nextConn := nextConn

end Core.Asks

theorem Aloof.asks (aloof : Aloof core after) : core.Asks after :=
  .of_actions aloof.actions aloof.posted aloof.nextConn

theorem processSendQueue_asks (conn : ConnId) (core : Core) : core.Asks ((processSendQueue conn).after core) := by
  cases found : core.conns[conn]? with
  | none =>
    unfold processSendQueue getConn
    rw [after_gets_bind, found]
    exact .refl core
  | some =>
    rcases processSendQueue_cases found with ⟨same, -⟩ | ⟨front, -, -, -, begun⟩
    · rw [same]
      exact .refl core
    · rw [begun]
      refine ⟨⟨[(conn, front.frame.bytes)], fun owed => ?_⟩, ⟨[], by simp⟩, rfl⟩
      unfold Core.asked
      rw [foldl_append]
      rfl

theorem queueing_asks {between : Core} (conn : ConnId) (asks : core.Asks between) :
    core.Asks ((processSendQueue conn).after between) :=
  asks.trans (processSendQueue_asks conn between)

theorem Stow.asks {may : Nat → Prop} (stow : Stow may core after) : core.Asks after := by
  cases stow with
  | settle settle => exact settle.loose.aloof.asks
  | line | arm | cancel => exact .of_quiet rfl
  | queue conn => exact queueing_asks conn (.of_quiet rfl)
  | idle => exact .of_quiet rfl

theorem Stirs.asks (stirs : Stirs core after) : core.Asks after := by
  induction stirs with
  | refl => exact .refl core
  | tail _ stir ih =>
    apply ih.trans
    cases stir with
    | stow stow => exact stow.asks
    | own own =>
      cases own with
      | put conn => exact queueing_asks conn (.of_quiet rfl)
    | shift shift => exact shift.aloof.asks
    | owe owe => exact owe.aloof.asks
    | _ => exact .of_quiet rfl

theorem Asked.add_plain {action : Action} (plain : action.isPlain = true) (owed : Asked) :
    owed.add action = owed := by
  cases action <;> first | rfl | cases plain

theorem dying_asks (conn : ConnId) (state : Conn) (core : Core) : core.Asks ((dying conn state).after core) := by
  rw [dying_eq]
  split
  · exact .of_quiet rfl
  · exact .of_quiet rfl

theorem Change.asks (change : Change event leave core after) : core.Asks after := by
  cases change with
  | shift shift => exact shift.aloof.asks
  | told told => exact told.shifts.aloof.asks
  | mark mark => cases mark <;> exact .of_quiet rfl
  | enter way => exact Stirs.asks (way.stirring core)
  | put | stop | forget | paid => exact .of_quiet rfl
  | ask _ plain => exact .of_plain (Asked.add_plain plain) rfl rfl rfl
  | die conn state => exact dying_asks conn state core
  | orphan conn state _ found =>
    rw [orphanOutgoingMessages_eq found]
    have emptied : core.Asks (core.putting conn state.emptied) := .of_quiet rfl
    exact emptied.trans (Stirs.asks ((WayIn.giveUp conn _).stirring _))
  | close | bound => exact .of_plain (fun _ => rfl) rfl rfl rfl
  | readOn =>
    rw [readingOn_eq]
    exact .of_quiet rfl
  | meet | enlist | welcomed => exact .of_quiet rfl
  | quit =>
    rw [quitting_eq]
    exact .of_plain (fun _ => rfl) rfl rfl rfl
  | drop => exact Stirs.asks (dropOutbox_stirs core)
  | version | request | acknowledge | confirm | unconfirm | push | take =>
    exact .of_quiet rfl
  | owe => exact .of_actions rfl ⟨[.sendConfirmations], rfl, by simp⟩ rfl

theorem Fine.asks (fine : Fine event leave core after) : core.Asks after := by
  cases fine with
  | change change => exact change.asks
  | queries | note | arm | cancel => exact .of_quiet rfl

theorem Turns.asks (turns : Turns event leave core after) : core.Asks after :=
  turns.fines.keep (fun fine held => held.trans fine.asks) (.refl core)

/-! ## What every change keeps -/

/-- The channels are as they should be after, and the queues of those that live only filled. -/
structure Core.Carries (core after : Core) (owed : Asked) : Prop where
  channels : after.Channels (after.asked owed)
  fills : ∀ (conn : ConnId) (state next : Conn), core.conns[conn]? = some state →
    after.conns[conn]? = some next → next.living = true → Fills state.outgoing next.outgoing

namespace Core.Carries

variable {core after : Core} {owed : Asked} {conn : ConnId} {state next : Conn}

theorem refl (channels : core.Channels (core.asked owed)) : core.Carries core owed where
  channels := channels
  fills _ _ _ found read _ := by
    cases found.symm.trans read
    exact .refl

theorem trans {last : Core} (one : core.Carries after owed) (lasts : Lasts after last)
    (two : after.Carries last owed) : core.Carries last owed where
  channels := two.channels
  fills conn state next found read lives := by
    obtain ⟨between, also, ages⟩ := lasts.ages conn next read
    have alive : between.living = true := by
      by_contra dead
      cases (ages.dead (Bool.eq_false_of_not_eq_true dead)).symm.trans lives
    exact (one.fills conn state between found also alive).trans (two.fills conn between next also read lives)

section

variable (channels : core.Channels (core.asked owed))

include channels

theorem of_conns (same : after.conns = core.conns)
    (writes : (after.asked owed).writes = (core.asked owed).writes) : core.Carries after owed where
  channels := by
    refine Core.Channels.of_writes ?_ writes
    exact ⟨fun conn state found => channels.known conn state (same ▸ found),
      fun conn none => channels.unknown conn (same ▸ none)⟩
  fills _ _ _ found read _ := by
    rw [same, found] at read
    cases read
    exact .refl

section

variable (found : core.conns[conn]? = some state)

include found

theorem of_reads (reads : ∀ each : ConnId, after.conns[each]? =
      if each = conn then some next else core.conns[each]?)
    (writes : (after.asked owed).writes = (core.asked owed).writes)
    (keeps : ∀ writes, state.Channeled conn writes → next.Channeled conn writes)
    (fills : next.living = true → Fills state.outgoing next.outgoing) : core.Carries after owed where
  channels := by
    refine Core.Channels.of_writes ?_ writes
    refine ⟨fun each last read => ?_, fun each none => ?_⟩
    · rw [reads] at read
      split at read
      · rename_i same
        subst same
        cases read
        exact keeps _ (channels.known each state found)
      · exact channels.known each last read
    · rw [reads] at none
      split at none
      · cases none
      · exact channels.unknown each none
  fills each before last also read lives := by
    rw [reads] at read
    split at read
    · rename_i same
      subst same
      cases read
      cases found.symm.trans also
      exact fills lives
    · cases also.symm.trans read
      exact .refl

theorem of_insert (inserted : after.conns = core.conns.insert conn next)
    (writes : (after.asked owed).writes = (core.asked owed).writes)
    (keeps : ∀ writes, state.Channeled conn writes → next.Channeled conn writes)
    (fills : next.living = true → Fills state.outgoing next.outgoing) : core.Carries after owed :=
  of_reads channels found (fun each => inserted ▸ Lookup.insert_apply _ _ _ each) writes keeps fills

theorem of_tube (inserted : after.conns = core.conns.insert conn next)
    (writes : (after.asked owed).writes = (core.asked owed).writes) (same : next.tube = state.tube) :
    core.Carries after owed := by
  refine of_insert channels found inserted writes (fun _ => .of_tube same) fun _ => ?_
  obtain ⟨-, -, -, -, -, -, outgoing⟩ := Conn.tube_eq same
  rw [outgoing]

theorem of_dead (inserted : after.conns = core.conns.insert conn next)
    (writes : (after.asked owed).writes = (core.asked owed).writes)
    (flight : next.writeInFlight = state.writeInFlight)
    (limit : next.outgoingMax ≤ state.outgoingMax) (dead : next.living = false) :
    core.Carries after owed :=
  of_insert channels found inserted writes (fun _ => .dead flight limit dead) fun lives =>
    nomatch dead.symm.trans lives

theorem of_erase (rests : state.writeInFlight = false) (erased : after.conns = core.conns.erase conn)
    (writes : (after.asked owed).writes = (core.asked owed).writes) : core.Carries after owed where
  channels := by
    have nothing : (core.asked owed).on conn = [] := by
      have count := (channels.known conn state found).count
      rw [rests] at count
      exact eq_nil_of_length_eq_zero count
    refine Core.Channels.of_writes ?_ writes
    refine ⟨fun each last read => ?_, fun each none => ?_⟩
    · rw [erased, Lookup.erase_apply] at read
      split at read
      · cases read
      · exact channels.known each last read
    · rw [erased, Lookup.erase_apply] at none
      split at none
      · rename_i same
        rw [same]
        exact nothing
      · exact channels.unknown each none
  fills _ _ _ also read _ := by
    rw [erased, Lookup.erase_apply] at read
    split at read
    · cases read
    · cases also.symm.trans read
      exact .refl

end

end

end Core.Carries

/-! ## The write of a front -/

theorem Asked.on_write (asked : Asked) (conn each : ConnId) (bytes : FrameBytes) :
    (asked.add (.write conn bytes)).on each =
      if each = conn then asked.on each ++ [(conn, bytes)] else asked.on each := by
  unfold add on
  rw [filter_append]
  split
  · rename_i same
    rw [same, filter_cons_of_pos (by simp), filter_nil]
  · rename_i other
    rw [filter_cons_of_neg (by simpa using Ne.symm other), filter_nil, append_nil]

structure Conn.Ready (state : Conn) : Prop where
  free : state.out = .free
  rests : state.writeInFlight = false
  limit : state.outgoingMax ≤ DEFAULT_OUT_QUEUE_SIZE
  alive : state.living = true → state.shutsDown = false ∧ state.toldGone = false ∧
    state.outgoing.length ≤ state.outgoingMax + FORCED_FRAMES_PAST_FULL_QUEUE

structure Core.ChannelsBut (core : Core) (asked : Asked) (conn : ConnId) : Prop where
  known : ∀ (each : ConnId) (state : Conn), each ≠ conn → core.conns[each]? = some state →
    state.Channeled each (asked.on each)
  unknown : ∀ each : ConnId, core.conns[each]? = none → asked.on each = []

theorem processSendQueue_channels (others : core.ChannelsBut (core.asked owed) conn)
    (found : core.conns[conn]? = some state) (nothing : (core.asked owed).on conn = [])
    (ready : state.Ready) :
    ((processSendQueue conn).after core).Channels (((processSendQueue conn).after core).asked owed) := by
  rcases processSendQueue_cases found with ⟨same, blocked⟩ | ⟨front, -, -, first, begun⟩
  · rw [same]
    refine ⟨fun each last read => ?_, others.unknown⟩
    by_cases is : each = conn
    · subst is
      cases found.symm.trans read
      rw [nothing]
      refine ⟨by rw [ready.rests]; rfl, ready.limit, fun lives => ?_⟩
      obtain ⟨stays, untold, fits⟩ := ready.alive lives
      have empty : state.outgoing = [] := by
        rcases blocked with busy | shut | empty
        · exact absurd ready.free busy
        · cases stays.symm.trans shut
        · exact empty
      exact ⟨stays, untold, .idle ready.free empty, fits⟩
    · exact others.known each last is read
  · have asked : ((processSendQueue conn).after core).asked owed =
        (core.asked owed).add (.write conn front.frame.bytes) := by
      rw [begun]
      exact core.asked_append owed [.write conn front.frame.bytes]
    obtain ⟨rest, queue⟩ : ∃ rest, state.outgoing = front :: rest :=
      head?_eq_some_iff.mp first
    rw [asked, begun]
    refine ⟨fun each last read => ?_, fun each none => ?_⟩
    · change (core.conns.insert conn _)[each]? = _ at read
      rw [Lookup.insert_apply] at read
      rw [Asked.on_write]
      split at read
      · rename_i is
        subst is
        cases read
        rw [if_pos rfl, nothing]
        refine ⟨rfl, ready.limit, fun lives => ?_⟩
        obtain ⟨stays, untold, fits⟩ := ready.alive lives
        exact ⟨stays, untold, .front front rest rfl queue, fits⟩
      · rename_i other
        rw [if_neg other]
        exact others.known each last other read
    · change (core.conns.insert conn _)[each]? = _ at none
      rw [Lookup.insert_apply] at none
      split at none
      · cases none
      · rename_i other
        rw [Asked.on_write, if_neg other]
        exact others.unknown each none

theorem queueing_carries {between : Core} (channels : core.Channels (core.asked owed))
    (found : core.conns[conn]? = some state) (living : state.living = true)
    (put : between.conns = core.conns.insert conn { state with outgoing })
    (actions : between.actions = core.actions) (fill : Fill state.outgoing outgoing)
    (fits : outgoing.length ≤ state.outgoingMax + FORCED_FRAMES_PAST_FULL_QUEUE) :
    core.Carries ((processSendQueue conn).after between) owed := by
  have here : between.conns[conn]? = some { state with outgoing } := by
    rw [put, TreeMap.getElem?_insert_self]
  have asked : between.asked owed = core.asked owed := by
    unfold Core.asked
    rw [actions]
  obtain ⟨count, limit, alive⟩ := channels.known conn state found
  obtain ⟨stays, untold, writing, -⟩ := alive living
  have filled : ∀ (each : ConnId) (before next : Conn), core.conns[each]? = some before →
      ((processSendQueue conn).after between).conns[each]? = some next → next.living = true →
        Fills before.outgoing next.outgoing := by
    intro each before next also read lives
    have kept : ∀ last : Conn, between.conns[each]? = some last → Fills before.outgoing last.outgoing := by
      intro last there
      rw [put] at there
      obtain ⟨rfl, rfl⟩ | ⟨-, there⟩ := Lookup.of_insert there
      · cases found.symm.trans also
        exact .single fill
      · cases also.symm.trans there
        exact .refl
    rcases processSendQueue_cases here with ⟨same, -⟩ | ⟨front, -, -, -, begun⟩
    · rw [same] at read
      exact kept next read
    · rw [begun] at read
      obtain ⟨rfl, rfl⟩ | ⟨-, read⟩ := Lookup.of_insert read
      · exact kept { state with outgoing } here
      · exact kept next read
  refine ⟨?_, filled⟩
  generalize writes : (core.asked owed).on conn = pending at count writing
  cases writing with
  | idle free =>
    have rests : state.writeInFlight = false := by
      cases flight : state.writeInFlight with
      | false => rfl
      | true => rw [flight] at count; cases count
    refine processSendQueue_channels ⟨fun each last other read => ?_, fun each none => ?_⟩ here
      (asked ▸ writes) ⟨free, rests, limit, fun _ => ⟨stays, untold, fits⟩⟩
    · rw [put, Lookup.insert_apply, if_neg other] at read
      rw [asked]
      exact channels.known each last read
    · rw [put, Lookup.insert_apply] at none
      split at none
      · cases none
      · rw [asked]
        exact channels.unknown each none
  | front first _ busy queue =>
    have kept : (processSendQueue conn).after between = between := by
      rcases processSendQueue_cases here with ⟨same, -⟩ | ⟨front, free, -, -, -⟩
      · exact same
      · cases busy.symm.trans free
    obtain ⟨more, outgoing_eq⟩ : ∃ more, outgoing = first :: more := by
      rw [queue] at fill
      exact Fills.front (.single fill)
    have carried : core.Carries between owed := by
      refine .of_insert channels found put (congrArg Asked.writes asked) (fun _ held => ⟨held.count, held.limit, fun lives =>
        ?_⟩) fun _ => .single fill
      obtain ⟨-, -, writing, -⟩ := held.alive lives
      refine ⟨stays, untold, ?_, fits⟩
      cases writing with
      | idle free => cases busy.symm.trans free
      | front _ _ _ also =>
        cases queue.symm.trans also
        exact .front first more busy outgoing_eq
    rw [kept]
    exact carried.channels

theorem Conn.Schedules.fill {entry : QueueEntry} {writes : List (ConnId × FrameBytes)}
    (schedules : state.Schedules entry outgoing) (own : entry.frame.own = true)
    (writing : state.Writing conn writes) : Fill state.outgoing outgoing ∧
      outgoing.length ≤ state.outgoingMax + FORCED_FRAMES_PAST_FULL_QUEUE := by
  cases schedules with
  | last fits =>
    refine ⟨.append _ _, ?_⟩
    rw [length_append]
    exact fits
  | asap fits =>
    unfold Conn.insertAsap
    cases writing with
    | idle free empty =>
      rw [free, if_neg (by decide), empty]
      rw [empty] at fits
      exact ⟨.first entry, fits⟩
    | front first rest busy queue =>
      rw [busy, if_pos rfl, queue]
      rw [queue] at fits
      exact ⟨.asap first rest entry own, fits⟩

theorem Aloof.carries (aloof : Aloof core after) (channels : core.Channels (core.asked owed)) :
    core.Carries after owed := by
  refine .of_conns channels aloof.conns ?_
  unfold Core.asked
  rw [aloof.actions]

theorem Stow.carries {may : Nat → Prop} (stow : Stow may core after)
    (channels : core.Channels (core.asked owed)) : core.Carries after owed := by
  cases stow with
  | settle settle => exact settle.loose.aloof.carries channels
  | line | arm | cancel => exact .of_conns channels rfl rfl
  | queue _ _ entry found living room =>
    refine queueing_carries channels found living rfl rfl (.append _ entry) ?_
    simp only [Conn.outgoingQueueFull, decide_eq_false_iff_not] at room
    rw [length_append, length_singleton]
    omega
  | idle _ _ _ found => exact .of_tube channels found rfl rfl rfl

theorem Stir.carries (stir : Stir core after) (channels : core.Channels (core.asked owed)) :
    core.Carries after owed := by
  cases stir with
  | stow stow => exact stow.carries channels
  | own own =>
    cases own with
    | put conn state _ _ found living own schedules =>
      obtain ⟨fill, fits⟩ :=
        schedules.fill own ((channels.known conn state found).alive living).writing
      exact queueing_carries channels found living rfl rfl fill fits
  | shift shift => exact shift.aloof.carries channels
  | owe owe => exact owe.aloof.carries channels
  | _ => exact .of_conns channels rfl rfl

theorem Stir.lasts (stir : Stir core after) : Lasts core after :=
  Stirs.lasts (.single stir)

theorem Stirs.carries (stirs : Stirs core after) (channels : core.Channels (core.asked owed)) :
    core.Carries after owed := by
  induction stirs with
  | refl => exact .refl channels
  | tail _ stir ih => exact ih.trans stir.lasts (stir.carries ih.channels)

/-! ## Changes -/

theorem left_carries (channels : core.Channels (core.asked owed))
    (found : core.conns[conn]? = some state) (dead : state.living = false) :
    core.Carries (core.left conn state) owed :=
  .of_dead channels found rfl rfl rfl le_rfl dead

theorem dying_carries (channels : core.Channels (core.asked owed)) (found : core.conns[conn]? = some state) :
    core.Carries ((dying conn state).after core) owed := by
  have dies : core.Carries (core.deadening conn state) owed :=
    .of_dead channels found rfl rfl rfl le_rfl rfl
  have here : (core.deadening conn state).conns[conn]? = some state.dead :=
    TreeMap.getElem?_insert_self
  rw [dying_eq]
  split
  · exact dies
  · exact dies.trans (left_lasts here) (left_carries dies.channels here rfl)

theorem Change.carries (change : Change event leave core after)
    (channels : core.Channels (core.asked owed)) : core.Carries after owed := by
  cases change with
  | shift shift => exact shift.aloof.carries channels
  | told told => exact told.shifts.aloof.carries channels
  | mark mark => cases mark <;> exact .of_conns channels rfl rfl
  | enter way => exact Stirs.carries (way.stirring core) channels
  | put _ state next found same =>
    exact .of_tube channels found rfl rfl (show next.stance.tube = state.stance.tube from
      congrArg _ same)
  | ask _ plain =>
    exact .of_conns channels rfl
      (Core.asked_writes rfl (fun _ => congrArg Asked.writes (Asked.add_plain plain _)) owed)
  | die _ _ _ found => exact dying_carries channels found
  | stop conn state _ found shut =>
    have dead : state.living = false := by
      by_contra lives
      have alive := (channels.known conn state found).alive (Bool.not_eq_false _ ▸ lives)
      cases alive.stays.symm.trans shut
    exact .of_dead channels found rfl rfl rfl (Nat.zero_le _) dead
  | orphan conn state _ found dead =>
    rw [orphanOutgoingMessages_eq found]
    have emptied : core.Carries (core.putting conn state.emptied) owed :=
      .of_dead channels found rfl rfl rfl le_rfl dead
    have gives := (WayIn.giveUp conn state.handsOver).stirring (core.putting conn state.emptied)
    exact emptied.trans (Stirs.lasts gives) (Stirs.carries gives emptied.channels)
  | close _ _ _ found | bound _ _ _ _ found =>
    exact .of_tube channels found rfl (Core.asked_writes rfl (fun _ => rfl) owed) rfl
  | forget _ _ _ found finished =>
    simp only [Conn.finished, Bool.and_eq_true, Bool.not_eq_true'] at finished
    exact .of_erase channels found finished.2 rfl rfl
  | readOn conn state deliver _ found =>
    have reads : core.Carries (core.putting conn (state.readsOn deliver)) owed :=
      .of_dead channels found rfl rfl rfl le_rfl rfl
    have here : (core.putting conn (state.readsOn deliver)).conns[conn]? =
        some (state.readsOn deliver) := TreeMap.getElem?_insert_self
    rw [readingOn_eq]
    exact reads.trans (left_lasts here) (left_carries reads.channels here rfl)
  | meet _ _ _ _ _ found | welcomed _ _ _ found => exact .of_tube channels found rfl rfl rfl
  | enlist conn state _ enlists =>
    have inserted : (core.enlisting conn state).conns =
        (core.conns.insert conn state.widened).insert conn state.enlisted := rfl
    have widened : core.Carries (core.putting conn state.widened) owed := by
      refine .of_insert channels enlists.found rfl rfl (fun _ held => ?_) fun _ => .refl
      refine ⟨held.count, le_rfl, fun lives => ?_⟩
      obtain ⟨stays, untold, writing, fits⟩ := held.alive lives
      have writing := writing.of_queue (show state.widened.out = state.out from rfl) rfl
      exact ⟨stays, untold, writing, fits.trans (Nat.add_le_add_right held.limit _)⟩
    have here : (core.putting conn state.widened).conns[conn]? = some state.widened :=
      TreeMap.getElem?_insert_self
    have joins : (core.putting conn state.widened).Carries (core.enlisting conn state) owed :=
      .of_tube widened.channels here inserted rfl rfl
    exact widened.trans (.of_insert here inserted ⟨rfl, id, id, id, id, fun _ => id⟩ id) joins
  | quit =>
    rw [quitting_eq]
    exact .of_conns channels rfl (Core.asked_writes rfl (fun _ => rfl) owed)
  | drop => exact Stirs.carries (dropOutbox_stirs core) channels
  | version => exact .of_conns channels rfl rfl
  | request conn state found | acknowledge conn state message status heard found =>
    exact .of_tube channels found rfl rfl rfl
  | confirm | unconfirm | push | take | owe | paid => exact .of_conns channels rfl rfl

theorem Fine.carries (fine : Fine event leave core after)
    (channels : core.Channels (core.asked owed)) : core.Carries after owed := by
  cases fine with
  | change change => exact change.carries channels
  | queries | note | arm | cancel => exact .of_conns channels rfl rfl

theorem Fines.carries (fines : Fines event leave core after)
    (channels : core.Channels (core.asked owed)) : core.Carries after owed := by
  induction fines with
  | refl => exact .refl channels
  | tail _ fine ih => exact ih.trans fine.lasts (fine.carries ih.channels)

/-- Turns keep the channels. -/
theorem Turns.carries (turns : Turns event leave core after)
    (channels : core.Channels (core.asked owed)) : core.Carries after owed :=
  turns.fines.carries channels

end Multiplexer
