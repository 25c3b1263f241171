import Multiplexer.Change.Act

/-! The turns the client makes: for what its connections read, for the calls of the threaded
class, at its shutdown; and at a welcome, where a connection registers. -/

set_option autoImplicit false

namespace Multiplexer

open Program List

variable {event : Event} {leave : Leave}

theorem modifyThreaded_turning {change : Threaded → Threaded}
    (slots : ∀ threaded keeper key, (change threaded).Slot keeper key → threaded.Slot keeper key) :
    Turning event leave (modifyThreaded change) :=
  (modifyThreaded_shifting slots).turning

theorem modifyThreaded_acting {change : Threaded → Threaded}
    (slots : ∀ threaded keeper key, (change threaded).Slot keeper key → threaded.Slot keeper key) :
    Acting event (modifyThreaded change) :=
  (modifyThreaded_turning slots).acting

/-! ## What is handed on -/

/-- One change made by handing a message on, or by the confirmations the program gave. -/
inductive Hand : Core → Core → Prop
  | shift {core after} (shift : Shift true core after) : Hand core after
  | enter {core} {α : Type} {program : Client α} (way : WayIn program) : Hand core (program.after core)
  | handed {core} (message : Message) : Hand core ((noteConfirm (.handed message)).after core)
  | owe {core} (free : core.confirmer.posted = false) : Hand core
        { core with
          confirmer := { core.confirmer with posted := true }
          posted := core.posted ++ [.sendConfirmations] }

abbrev Hands : Core → Core → Prop := Relation.ReflTransGen Hand

instance : Std.Refl Hands := ⟨fun _ => .refl⟩

instance : IsTrans Core Hands := ⟨fun _ _ _ => .trans⟩

abbrev Handing {α : Type} (program : Client α) : Prop := Keeps Hands program

variable {α : Type} {program : Client α} {core : Core}

theorem Shifting.handing (shifting : Shifting true program) : Handing program :=
  .steps (fun shift => .single (.shift shift)) shifting

theorem WayIn.handing (way : WayIn program) : Handing program :=
  fun _ => .single (.enter way)

theorem Handing.turning (handing : Handing program) : Turning event leave program := by
  refine .steps (fun hand => ?_) handing
  cases hand with
  | shift shift => exact (Change.shift shift).turns
  | enter way => exact (Change.enter way).turns
  | handed message => exact (Told.handed message).turns
  | owe free => exact (Change.owe free).turns

theorem confirmHanded_handing (handed : List HandedConfirmation) :
    Handing (confirmHanded handed) := by
  refine .get fun core => .ite (.pure _)
    (.bind (.forEach fun _ => (WayIn.confirm _ _ _).handing) fun _ core => ?_)
  rw [after_get_bind]
  cases posted : core.confirmer.posted with
  | true => exact .refl
  | false => exact .single (.owe posted)

theorem sendConfirmationsPosted_turning : Turning event leave sendConfirmationsPosted :=
  .bind (fun _ => Change.paid.turns) fun _ => .get fun _ => .when WayIn.sendConfirmations.turning

/-! ## What was read -/

theorem answerPing_handing (incoming : Incoming) : Handing (answerPing incoming) := by
  refine .get fun core => .bind random64_shifting.handing fun id => ?_
  dsimp only
  split
  · exact .pure _
  · refine .bind (WayIn.scheduleOn _ _ _ _ _ _).handing fun placed => ?_
    cases placed with
    | some => exact .pure _
    | none => exact .bind (WayIn.scheduleOne _ _ _ _).handing fun _ => .pure _

theorem noteHanded_handing (message : Message) : Handing (noteConfirm (.handed message)) :=
  fun _ => .single (.handed message)

theorem callOnMessage_handing (handler : Nat → HandlerReply) (sender number : Nat) :
    Handing (callOnMessage handler sender number) := by
  have counts : Shifting true (modifyThreaded fun threaded =>
      { threaded with calls := threaded.calls + 1 }) := modifyThreaded_shifting fun _ _ _ kept => kept
  exact .get fun _ => .bind counts.handing fun _ => .ite (.pure _)
    (.bind (confirmHanded_handing _) fun _ => .when (WayIn.confirm _ _ _).handing)

theorem onUnmatched_handing (incoming : Incoming) : Handing (onUnmatched incoming) := by
  refine .get fun core => .ite (.pure _) (.ite (.ite (.pure _) ?_) ?_)
  · dsimp only
    split
    · exact .when (answerPing_handing incoming)
    · exact .bind askSearchPolicy_shifting.handing fun _ => .when (answerPing_handing incoming)
  · dsimp only
    split
    · exact .bind (noteHanded_handing _) fun _ => callOnMessage_handing _ _ _
    · exact .ite (noteHanded_handing _) (.when (WayIn.confirm _ _ _).handing)

theorem refuse_handing (incoming : Incoming) : Handing (refuse incoming) := by
  unfold refuse
  dsimp only
  split
  · exact (WayIn.confirm _ _ _).handing
  · refine .ite (.pure _) (.get fun core => .bind random64_shifting.handing fun id => ?_)
    split
    · exact .pure _
    · exact .bind (seededLane_shifting _ _).handing fun _ =>
        .bind (WayIn.send _ _ _ _ _ _ _).handing fun _ => .pure _

/-! Of the ids that came a query takes none. -/

theorem Asks.seen {after : Core} (asks : Asks True core after) :
    after.arrivals = core.arrivals ∧ after.client.view = core.client.view := by
  induction asks with
  | refl => exact ⟨rfl, rfl⟩
  | @tail between after _ ask ih =>
    rw [← ih.1, ← ih.2]
    cases ask with
    | shift shift => exact ⟨shift.steady.arrivals, shift.steady.client⟩
    | enter way => exact ⟨(way.steady between).arrivals, (way.steady between).client⟩
    | _ => exact ⟨rfl, rfl⟩

theorem queryTakes_value {incoming given : Incoming}
    (left : (queryTakes incoming).value core = some given) : given = incoming := by
  unfold queryTakes at left
  rw [value_get_bind] at left
  dsimp only at left
  split at left
  · exact (Option.some.inj left).symm
  · split at left
    · split at left <;> cases left
    · split at left
      · cases left
      · exact (Option.some.inj left).symm

theorem seeFirst_turning (id : Nat) : Turning event leave (seeFirst id) := by
  intro core
  unfold seeFirst
  rw [after_get_bind]
  split
  · exact .refl
  · rename_i lastSeen fresh
    exact (Mark.took id lastSeen fresh).turns

theorem seeFirst_last {id : Nat} (fresh : (seeFirst id).value core = true) :
    ((seeFirst id).after core).arrivals.head? = some (.took id) := by
  unfold seeFirst at fresh ⊢
  rw [value_get_bind] at fresh
  rw [after_get_bind]
  cases taken : core.client.lastSeen.insert id with
  | none =>
    rw [taken] at fresh
    cases fresh
  | some => rfl

theorem confirmedBatchFrom_turning (conn : ConnId) (producer : Nat) :
    Turning event leave (confirmedBatchFrom conn producer) :=
  fun _ => Mark.turns (.heardFrom conn producer)

theorem dropWhole_turns (count : Nat) (last : ∃ id, core.arrivals.head? = some (.took id)) :
    Turns event leave core ((dropWhole count).after core) := by
  obtain ⟨id, last⟩ := last
  exact (Mark.letGo id count last).turns

theorem framesHandled_turning (count : Nat) : Turning event leave (modifyClient fun client =>
    { client with framesHandled := client.framesHandled + count }) :=
  modifyClient_turning fun _ => rfl

section Reading

variable (read : ∃ conn body, event = .frame conn body)

include read

theorem pushIncoming_turning (incoming : Incoming) : Turning event leave (pushIncoming incoming) :=
  .bind (noteHanded_handing _).turning fun _ _ => (Change.push incoming read).turns

variable {core : Core}

theorem handOut_turns {incoming : Incoming} {limited : Bool} (came : core.Came incoming.message)
    (last : limited = true → ∃ id, core.arrivals.head? = some (.took id)) :
    Turns event leave core ((handOut incoming limited).after core) := by
  have asks := (QueryWay.takes incoming).asking core
  have same := asks.seen.1
  have passes : ∀ {α : Type} (next : Client α), Turning event leave next →
      Turns event leave ((queryTakes incoming).after core) ((do
        noteArrival (.passed incoming.message)
        next).after ((queryTakes incoming).after core)) := by
    intro α next turning
    refine .trans (Mark.passed incoming.message ?_).turns (turning _)
    unfold Core.Came
    rw [same]
    exact came
  unfold handOut
  rw [after_bind]
  refine .trans ((QueryWay.takes incoming).turning core) ?_
  cases left : (queryTakes incoming).value core with
  | none => exact passes (pure ()) (.pure _)
  | some given =>
    cases queryTakes_value left
    dsimp only
    rw [after_get_bind]
    split
    · exact passes _ (onUnmatched_handing incoming).turning
    · split
      · exact passes _ (refuse_handing incoming).turning
      · split
        · rename_i full
          rw [← same] at last
          exact dropWhole_turns 1 (last (Bool.and_eq_true_iff.mp full).1)
        · exact passes _ (pushIncoming_turning read incoming)

theorem splitEach_turning (connection : Wrapper) (envelope : Message)
    (bodies : List (Body Message)) (numbers : List Nat) (past : Nat) :
    Turning event leave (splitEach connection envelope bodies numbers past) := by
  induction bodies generalizing numbers past with
  | nil => exact .pure _
  | cons body rest ih =>
    unfold splitEach
    dsimp only
    generalize nextConfirm numbers past = next
    split
    · exact .bind (WayIn.confirm _ _ _).turning fun _ => ih _ _
    · rename_i message belongs
      split
      · rename_i numbered
        refine .bind (.pure _) fun _ => .bind (.when fun core => ?_) fun _ => ih _ _
        exact handOut_turns read (.inl (by simp)) nofun
      · intro core
        rw [after_bind]
        refine .trans (seeFirst_turning (message.id.getD 0) core) ?_
        cases fresh : (seeFirst (message.id.getD 0)).value core with
        | false => exact ih _ _ _
        | true =>
          have passes : Turns event leave _
              ((handOut ⟨{ message with confirmation := none }, connection⟩ false).after _) :=
            handOut_turns read (.inr (.inl (seeFirst_last fresh))) nofun
          exact .trans passes (ih _ _ _)

omit read in
theorem drainWanted_turning (conn : ConnId) : Turning event leave (do
    let core ← get
    ifSome core.conns[conn]? fun state => when (!state.notifyWhenReadDrained) do
      putConn conn { state with notifyWhenReadDrained := true }
      modifyClient fun client => { client with readDrainsWanted := client.readDrainsWanted + 1 }) := by
  intro core
  rw [after_get_bind]
  cases found : core.conns[conn]? with
  | none => exact .refl
  | some state =>
    rw [ifSome_some]
    cases state.notifyWhenReadDrained with
    | true => exact .refl
    | false =>
      exact Keeps.bind_at (putConn_turns found rfl) fun _ =>
        modifyClient_turning fun _ => rfl

theorem splitBatch_turns (conn : ConnId) (envelope : Message)
    (last : ∃ id, core.arrivals.head? = some (.took id)) :
    Turns event leave core ((splitBatch conn envelope).after core) := by
  unfold splitBatch
  split
  · exact .refl
  · rw [after_get_bind]
    split
    · exact dropWhole_turns _ last
    · rename_i bodies _ _
      have heard : Turning event leave (when (envelope.confirm.length ≥ 2)
          (confirmedBatchFrom conn (envelope.sender.getD 0))) :=
        .when (confirmedBatchFrom_turning _ _)
      have splits : Turning event leave (splitEach (core.wrap conn) envelope bodies
          (if envelope.confirm.length ≥ 2 then envelope.confirm else []) 0) :=
        splitEach_turning read _ _ _ _ _
      rw [after_bind, after_bind, after_bind, after_get_bind]
      refine (framesHandled_turning (bodies.length - 1) core).trans ((heard _).trans ((splits _).trans ?_))
      generalize (splitEach _ _ _ _ _).after _ = later
      cases (decide (envelope.confirm.length ≥ 2) &&
        (decide (later.client.mode = .dispatch) || later.client.refusing)) with
      | true => exact drainWanted_turning conn later
      | false => exact .refl

theorem tellEach_turning (connection : Wrapper) (error : Message) (report : DeliveryError)
    (bodies : List (Body Message)) : Turning event leave (tellEach connection error report bodies) := by
  induction bodies with
  | nil => exact .pure _
  | cons body rest ih =>
    unfold tellEach
    dsimp only
    split
    · exact ih
    · rename_i message named
      intro core
      have passes : Turns event leave
          { core with
            drawn := core.drawn + 1
            arrivals := .made (core.ids.nth core.drawn) :: core.arrivals }
          ((handOut ⟨errorFor error report (core.ids.nth core.drawn) message, connection⟩
            false).after _) :=
        handOut_turns read (.inr (.inr rfl)) nofun
      exact .trans Mark.made.turns (.trans passes (ih _))

theorem splitDeliveryError_turns (conn : ConnId) (error : Message)
    (last : ∃ id, core.arrivals.head? = some (.took id)) :
    Turns event leave core ((splitDeliveryError conn error).after core) := by
  unfold splitDeliveryError
  split
  · split
    · exact .refl
    · rw [after_get_bind]
      split
      · exact dropWhole_turns _ last
      · rename_i bodies _ _
        rw [after_bind, after_bind]
        exact (framesHandled_turning (bodies.length - 1) core).trans (tellEach_turning read _ _ _ _ _)
  · exact .refl

omit read in
theorem splitDeliveryError_false {conn : ConnId} {error : Message}
    (whole : (splitDeliveryError conn error).value core = false) :
    (splitDeliveryError conn error).after core = core := by
  unfold splitDeliveryError at whole ⊢
  split
  · rename_i report content
    rw [content] at whole
    dsimp only at whole
    split
    · rfl
    · rename_i bodies held
      rw [held, value_get_bind] at whole
      split at whole <;> cases whole
  · rfl

theorem takeDeliveryError_turns (conn : ConnId) (message : Message)
    (last : ∃ id, core.arrivals.head? = some (.took id)) :
    Turns event leave core ((takeDeliveryError conn message).after core) ∧
      ((takeDeliveryError conn message).value core = false →
        ((takeDeliveryError conn message).after core).arrivals = core.arrivals) := by
  unfold takeDeliveryError
  dsimp only
  split
  · rename_i references
    have told : Told core ((confirmedBatchNotTaken (message.references.getD 0)).after core) :=
      .notTaken _
    have same := told.shifts.aloof.arrivals
    rw [after_bind, value_bind]
    cases (confirmedBatchNotTaken (message.references.getD 0)).value core with
    | true => exact ⟨told.turns, nofun⟩
    | false =>
      rw [← same] at last
      refine ⟨told.turns.trans (splitDeliveryError_turns read conn message last), fun whole => ?_⟩
      exact (congrArg Core.arrivals (splitDeliveryError_false whole)).trans same
  · exact ⟨splitDeliveryError_turns read conn message last,
      fun whole => congrArg Core.arrivals (splitDeliveryError_false whole)⟩

end Reading

/-- A message that came is handled in turns, whatever their leave. -/
theorem handleMessage_turning {conn : ConnId} {message : Message}
    (heard : event = .frame conn (some message)) : Turning event leave (handleMessage conn message) := by
  have read : ∃ conn body, event = .frame conn body := ⟨conn, some message, heard⟩
  have onwards : ∀ {core : Core}, core.arrivals.head? = some (.took (message.id.getD 0)) →
      Turns event leave core ((do
        let core ← get
        handOut ⟨{ message with confirmation := none }, core.wrap conn⟩ true : Client Unit).after
          core) := fun last => handOut_turns read (.inr (.inl last)) fun _ => ⟨_, last⟩
  refine .bind (modifyClient_turning fun _ => rfl) fun _ => ?_
  by_cases status : message.type = types.PEER_STATUS
  · rw [if_pos status]
    exact onPeerStatus_turning heard status
  · rw [if_neg status]
    refine .ite (.pure _) (.ite (WayIn.onConfirmation message).turning fun core => ?_)
    rw [after_bind]
    refine .trans (seeFirst_turning (message.id.getD 0) core) ?_
    cases fresh : (seeFirst (message.id.getD 0)).value core with
    | false => exact .refl
    | true =>
      have last := seeFirst_last fresh
      rw [Bool.not_true]
      dsimp only
      rw [if_neg Bool.false_ne_true]
      split
      · exact splitBatch_turns read conn message ⟨_, last⟩
      · split
        · obtain ⟨takes, whole⟩ := takeDeliveryError_turns read conn message ⟨_, last⟩
          rw [after_bind]
          refine takes.trans ?_
          cases taken : (takeDeliveryError conn message).value
            ((seeFirst (message.id.getD 0)).after core) with
          | true => exact .refl
          | false => exact onwards ((congrArg _ (whole taken)).trans last)
        · exact onwards last

theorem readDrained_turning : Turning event leave readDrained :=
  .get fun _ => .when WayIn.sendConfirmations.turning

theorem onReadDrained_turning (conn : ConnId) : Turning event leave (onReadDrained conn) := by
  intro core
  unfold onReadDrained
  rw [after_get_bind]
  split
  · exact .refl
  · split
    · exact .refl
    · rename_i state found
      split
      · exact .refl
      · exact Keeps.bind_at (putConn_turns found rfl) fun _ =>
          .bind (modifyClient_turning fun _ => rfl) fun _ => readDrained_turning

theorem onReadEnd_acting (conn : ConnId) : Acting event (onReadEnd conn) := by
  refine .gets fun found => ?_
  cases found with
  | none => exact .pure _
  | some => exact .when (shutdownConnection_acting conn)

theorem nextIncomingMessage_turning : Turning event leave nextIncomingMessage := by
  intro core
  unfold nextIncomingMessage
  rw [after_get_bind]
  split
  · exact .refl
  · rename_i next rest first
    exact (Change.take next rest first).turns

theorem refuseUnread_turning : Turning event leave refuseUnread := by
  have loop : ∀ steps, Turning event leave (refuseUnreadLoop steps) := by
    intro steps
    induction steps with
    | zero => exact .pure _
    | succ _ ih =>
      refine .bind nextIncomingMessage_turning fun next => ?_
      cases next with
      | none => exact .pure _
      | some incoming => exact .bind (refuse_handing incoming).turning fun _ => ih
  exact .get fun _ => loop _

theorem receive_turning : Turning event leave receive := by
  refine .bind runAcknowledgedCallbacks_shifting.turning fun _ =>
    .bind nextIncomingMessage_turning fun next => ?_
  cases next with
  | some => exact .pure _
  | none => exact acknowledgedByReceive_shifting.turning

/-! ## The shutdown -/

theorem closing_acts (conns : List ConnId) (down : core.client.shutsDown = true) :
    Acts event core ((do
      forEach conns fun conn => closeGracefully conn CLOSE_READ_SECONDS
      dropOutbox
      giveUpConfirmations .shutDown
      modifyClient fun client => { client with acknowledgedCallbacks := [] } : Client Unit).after
        core) := by
  have closes : Acts event core
      ((forEach conns fun conn => closeGracefully conn CLOSE_READ_SECONDS).after core) :=
    Keeps.forEach (fun conn => closeGracefully_acting conn _) core
  have drops := closes.tail (.turn (.change (.drop (closes.turns.lasts.down down))))
  have gives : Turning event .still (do
      giveUpConfirmations .shutDown
      modifyClient fun client => { client with acknowledgedCallbacks := [] }) :=
    .bind (fun _ => (Told.giveUp _).turns) fun _ => modifyClient_turning fun _ => rfl
  rw [after_bind, after_bind]
  exact drops.trans (gives.acting _)

/-- The end of the client shuts each connection down. -/
theorem shutdownClient_acting : Acting event shutdownClient := by
  refine .get fun core => .ite (.pure _) (.bind WayIn.stopBatching.turning.acting fun _ =>
    .bind WayIn.sendConfirmations.turning.acting fun _ before => ?_)
  have quits : Change event .still before (quitting.after before) := .quit
  have down : (quitting.after before).client.shutsDown = true := by
    rw [quitting_eq]
  unfold quitting at quits down
  rw [after_bind, after_bind, after_get_bind, after_bind] at quits down
  rw [after_bind, after_bind, after_get_bind, after_bind, after_bind]
  exact .head (.turn (.change quits)) (closing_acts _ down)

/-! ## The threaded class -/

theorem connectWait_turning (conn : ConnId) (timeout : Option Duration) (done : CallbackId) :
    Turning event leave (do
      let core ← get
      match core.conns[conn]? with
      | none => call (.callback done)
      | some state =>
        if state.shutsDown || state.registered then call (.callback done)
        else do
          let id := core.threaded.nextWait + 1
          let timer ← match deadlineAfter core.now timeout with
            | some deadline => do
              let key ← armTimer deadline (.connectWait id)
              pure (some key)
            | none => pure none
          modifyThreaded fun threaded =>
            { threaded with
              nextWait := id
              connects := threaded.connects ++ [⟨id, core.wrap conn, done, timer⟩] }) := by
  refine .get fun core => ?_
  split
  · exact (call_shifting _).turning
  · refine .ite (call_shifting _).turning ?_
    have stores : Stores true (.connect (core.threaded.nextWait + 1)) fun key =>
        modifyThreaded fun threaded =>
        { threaded with
          nextWait := core.threaded.nextWait + 1
          connects := threaded.connects ++
            [⟨core.threaded.nextWait + 1, core.wrap conn, done, some key⟩] } := by
      refine stores_threaded rfl fun key threaded each other kept => ?_
      cases each with
      | connect =>
        obtain ⟨waiter, waits, named, kept⟩ := kept
        rcases mem_append.mp waits with before | last
        · exact .inl ⟨waiter, before, named, kept⟩
        · cases mem_singleton.mp last
          cases named
          exact .inr ⟨rfl, (Option.some.inj kept).symm⟩
      | _ => exact .inl kept
    have unbounded : Turning event leave (modifyThreaded fun threaded =>
        { threaded with
          nextWait := core.threaded.nextWait + 1
          connects := threaded.connects ++
            [⟨core.threaded.nextWait + 1, core.wrap conn, done, none⟩] }) := by
      refine modifyThreaded_turning fun threaded keeper key kept => ?_
      cases keeper with
      | connect =>
        obtain ⟨waiter, waits, named, kept⟩ := kept
        rcases mem_append.mp waits with before | last
        · exact ⟨waiter, before, named, kept⟩
        · cases mem_singleton.mp last
          cases kept
      | _ => exact kept
    dsimp only
    split
    · exact fun start => Shifts.turns (armTimer_shifts _ rfl stores)
    · exact unbounded

theorem beginFlushAll_turning (timeout : Option Duration) (done : CallbackId) :
    Turning event leave (beginFlushAll timeout done) := by
  refine .get fun core => .ite (call_shifting _).turning
    (.bind (modifyThreaded_turning fun threaded keeper key kept => ?_) fun _ =>
      .bind (WayIn.beginFlush _).turning fun flush => .get fun later => .ite ?_
        (endFlush_shifting _).turning)
  · cases keeper with
    | flush =>
      obtain ⟨wait, waits, named, kept⟩ := kept
      rcases mem_append.mp waits with before | last
      · exact ⟨wait, before, named, kept⟩
      · cases mem_singleton.mp last
        cases kept
    | _ => exact kept
  · have stores : Stores true (.flush (core.threaded.nextWait + 1)) fun key =>
        modifyThreaded fun threaded =>
        { threaded with
          flushWaits := threaded.flushWaits.map fun wait =>
            if wait.id = core.threaded.nextWait + 1 then
              { wait with flush := some flush, timer := some key } else wait } := by
      refine stores_threaded rfl fun key threaded each other kept => ?_
      cases each with
      | flush id =>
        obtain ⟨wait, waits, named, kept⟩ := kept
        obtain ⟨before, member, rfl⟩ := mem_map.mp waits
        split at kept
        · rename_i mine
          rw [if_pos mine] at named
          cases named
          exact .inr ⟨congrArg _ mine, (Option.some.inj kept).symm⟩
        · rename_i other
          rw [if_neg other] at named
          exact .inl ⟨before, member, named, kept⟩
      | _ => exact .inl kept
    have unbounded : Turning event leave (modifyThreaded fun threaded =>
        { threaded with
          flushWaits := threaded.flushWaits.map fun wait =>
            if wait.id = core.threaded.nextWait + 1 then
              { wait with flush := some flush, timer := none } else wait }) := by
      refine modifyThreaded_turning fun threaded keeper key kept => ?_
      cases keeper with
      | flush id =>
        obtain ⟨wait, waits, named, kept⟩ := kept
        obtain ⟨before, member, rfl⟩ := mem_map.mp waits
        split at kept
        · cases kept
        · rename_i other
          rw [if_neg other] at named
          exact ⟨before, member, named, kept⟩
      | _ => exact kept
    dsimp only
    split
    · exact fun start => Shifts.turns (armTimer_shifts _ rfl stores)
    · exact unbounded

theorem teardown_acting : Acting event teardown := by
  intro core
  unfold teardown
  rw [after_get_bind]
  split
  · exact .refl
  · -- both timers are cancelled while the client still keeps their keys
    have cancels : Turns event .still core ((cancelTimer core.threaded.expiryTimer).after
        ((cancelTimer core.threaded.drainTimer).after core)) :=
      (Shifts.turns (cancelTimer_shifts .drain (fun _ => rfl) fun _ is => is)).trans
        (Shifts.turns (cancelTimer_shifts .sends (fun _ => rfl) fun _ is => is))
    have ends : Turning event .still (ifSome core.threaded.drain endFlush) :=
      .ifSome fun _ => (endFlush_shifting _).turning
    have empties : Acting event (do
        modifyThreaded fun threaded =>
          { threaded with
            tornDown := true, drainTimer := none, drain := none, expiring := []
            expiryTimer := none, expiryArmed := none }
        forEach (core.threaded.flushWaits.map FlushWait.id) fun id => endFlushWait id false
        shutdownClient
        modifyThreaded fun threaded => { threaded with subscriptions := [] }) := by
      refine .bind (modifyThreaded_acting fun threaded keeper key kept => ?_) fun _ =>
        .bind (.forEach fun _ => (endFlushWait_shifting _ _).turning.acting) fun _ =>
          .bind shutdownClient_acting fun _ => modifyThreaded_acting fun _ _ _ kept => kept
      cases keeper with
      | sends | drain => cases kept
      | _ => exact kept
    rw [after_bind, after_bind, after_bind]
    have commutes : (cancelTimer core.threaded.expiryTimer).after
        ((ifSome core.threaded.drain endFlush).after
          ((cancelTimer core.threaded.drainTimer).after core)) =
        (ifSome core.threaded.drain endFlush).after
          ((cancelTimer core.threaded.expiryTimer).after
            ((cancelTimer core.threaded.drainTimer).after core)) := by
      cases core.threaded.drain with
      | none | some => rfl
    rw [commutes]
    exact (Turns.acts (cancels.trans (ends _))).trans (empties _)

theorem writeOut_turning : Turning event leave writeOut :=
  .get fun _ => .bind (.ifSome fun _ => (endFlush_shifting _).turning) fun _ =>
    .bind (modifyThreaded_turning fun _ _ _ kept => kept) fun _ =>
      .bind (WayIn.beginFlush _).turning fun _ => modifyThreaded_turning fun _ _ _ kept => kept

theorem writeOutStep_acting : Acting event writeOutStep :=
  .get fun _ => .ite (.pure _) (.ite writeOut_turning.acting teardown_acting)

theorem drainExpired_acting : Acting event drainExpired := by
  refine .bind (modifyThreaded_acting fun threaded keeper key kept => ?_) fun _ =>
    teardown_acting
  cases keeper with
  | drain => cases kept
  | _ => exact kept

theorem beginShutdown_acting (timeout : Option Duration) : Acting event (beginShutdown timeout) := by
  refine .bind (modifyThreaded_acting fun _ _ _ kept => kept) fun _ =>
    .bind (QueryWay.moves .finishEvery).turning.acting fun _ => .get fun core =>
      .bind (.forEach fun _ => (endConnect_shifting _ _).turning.acting) fun _ =>
        .ite teardown_acting (.bind writeOut_turning.acting fun _ start => Turns.acts ?_)
  rw [after_get_bind]
  cases deadlineAfter start.now timeout with
  | none => exact .refl
  | some =>
    refine Shifts.turns (rearmTimer_shifts .drain rfl (fun _ is => is)
      (stores_threaded rfl fun key threaded each other kept => ?_))
    cases each with
    | drain => exact .inr ⟨rfl, (Option.some.inj kept).symm⟩
    | _ => exact .inl kept

end Multiplexer
