import Multiplexer.Confirmed.Lists
import Multiplexer.Received.Spans
import Multiplexer.Runs.Beats

/-! A message is handed out once, and one dropped for want of room is when it comes again. -/

set_option autoImplicit false

namespace Multiplexer

open Program List Option

/-! ## The log of every run -/

def Arrival.madeId : Arrival → Option Nat
  | .made id => some id
  | _ => none

structure Core.Logs (core : Core) : Prop where
  logged : Logged core.arrivals core.client.lastSeen
  span : core.client.lastSeen.span = 2048
  drawn : ∃ turns : List Nat, turns.Pairwise (· > ·) ∧ (∀ turn ∈ turns, turn < core.drawn) ∧
    core.arrivals.filterMap Arrival.madeId = turns.map core.ids.nth

section Logs

variable {core after : Core}

theorem Core.Logs.keep (logs : core.Logs) (arrivals : after.arrivals = core.arrivals)
    (lastSeen : after.client.lastSeen = core.client.lastSeen) (ids : after.ids = core.ids)
    (drawn : core.drawn ≤ after.drawn) : after.Logs := by
  refine ⟨by rw [arrivals, lastSeen]; exact logs.logged, by rw [lastSeen]; exact logs.span, ?_⟩
  obtain ⟨turns, apart, past, made⟩ := logs.drawn
  exact ⟨turns, apart, fun turn member => (past turn member).trans_le drawn, by rw [arrivals, ids, made]⟩

theorem Core.Logs.steady (logs : core.Logs) (steady : Steady core after) : after.Logs :=
  have seen : after.client.view.lastSeen = core.client.view.lastSeen := by rw [steady.client]
  logs.keep steady.arrivals seen steady.ids steady.drawn

theorem Mark.logs (mark : Mark core after) (logs : core.Logs) : after.Logs := by
  cases mark with
  | ring | heardFrom => exact logs.keep rfl rfl rfl le_rfl
  | took id lastSeen fresh =>
    exact ⟨.took logs.logged fresh, (logs.logged.within.insert fresh).2.2.1.trans logs.span, logs.drawn⟩
  | letGo id count last =>
    obtain ⟨_, is⟩ := head?_eq_some_iff.mp last
    have logged := logs.logged
    rw [is] at logged
    refine ⟨?_, logs.span, logs.drawn⟩
    change Logged (.letGo :: core.arrivals) core.client.lastSeen.forgetLast
    rw [is]
    exact .letGo logged
  | made =>
    obtain ⟨turns, apart, past, made⟩ := logs.drawn
    refine ⟨.made logs.logged, logs.span, core.drawn :: turns, pairwise_cons.mpr ⟨past, apart⟩, ?_,
      congrArg (_ :: ·) made⟩
    intro turn member
    rcases mem_cons.mp member with rfl | before
    · exact Nat.lt_succ_self _
    · exact Nat.lt_succ_of_lt (past turn before)
  | passed message came => exact ⟨.passed logs.logged came, logs.span, logs.drawn⟩

theorem Beat.logs (beat : Beat core after) (logs : core.Logs) : after.Logs := by
  cases beat with
  | calm calm => exact logs.keep calm.arrivals calm.lastSeen calm.ids calm.drawn
  | told told => exact logs.steady told.shifts.aloof.toSteady
  | mark mark => exact mark.logs logs
  | enter way => exact logs.steady (way.steady core)
  | post => exact logs.keep rfl rfl rfl le_rfl

end Logs

theorem run_logs (settings : Settings) (now : Instant) (history : History) :
    ((settings.start now).run history).Logs :=
  Core.run_beats ⟨.start (by decide), rfl, [], .nil, nofun, rfl⟩ Beat.logs history

/-! ## What is handed out -/

variable {core : Core}

theorem Hands.seen {after : Core} (hands : Hands core after) :
    after.arrivals = core.arrivals ∧ after.client.lastSeen = core.client.lastSeen := by
  induction hands with
  | refl => exact ⟨rfl, rfl⟩
  | @tail between after _ hand ih =>
    rw [← ih.1, ← ih.2]
    have same : ∀ {one two : Core}, Steady one two →
        two.arrivals = one.arrivals ∧ two.client.view.lastSeen = one.client.view.lastSeen :=
      fun steady => ⟨steady.arrivals, by rw [steady.client]⟩
    cases hand with
    | shift shift => exact same shift.steady
    | enter way => exact same (way.steady between)
    | handed | owe => exact ⟨rfl, rfl⟩

theorem handOut_passes (incoming : Incoming) (limited : Bool) (core : Core)
    (room : limited = true → core.incomingFull = false) :
    ((handOut incoming limited).after core).arrivals = .passed incoming.message :: core.arrivals ∧
      ((handOut incoming limited).after core).client.lastSeen = core.client.lastSeen := by
  obtain ⟨arrivals, view⟩ := ((QueryWay.takes incoming).asking core).seen
  have lastSeen : ((queryTakes incoming).after core).client.view.lastSeen =
      core.client.view.lastSeen := by rw [view]
  have full : ((queryTakes incoming).after core).incomingFull = core.incomingFull := by
    have queue : ((queryTakes incoming).after core).client.view.incoming =
        core.client.view.incoming := by rw [view]
    have most : ((queryTakes incoming).after core).client.view.incomingMax =
        core.client.view.incomingMax := by rw [view]
    exact congrArg₂ (fun queue max => decide (max ≤ List.length queue)) queue most
  have passes : ∀ next : Client Unit, Handing next →
      ((do
        noteArrival (.passed incoming.message)
        next).after ((queryTakes incoming).after core)).arrivals =
          .passed incoming.message :: core.arrivals ∧
      ((do
        noteArrival (.passed incoming.message)
        next).after ((queryTakes incoming).after core)).client.lastSeen = core.client.lastSeen := by
    intro next handing
    obtain ⟨same, kept⟩ := Hands.seen (handing ((noteArrival (.passed incoming.message)).after
      ((queryTakes incoming).after core)))
    rw [after_bind, same, kept]
    exact ⟨congrArg _ arrivals, lastSeen⟩
  unfold handOut
  rw [after_bind]
  cases left : (queryTakes incoming).value core with
  | none => exact passes (pure ()) (.pure _)
  | some given =>
    cases queryTakes_value left
    dsimp only
    rw [after_get_bind]
    split
    · exact passes _ (onUnmatched_handing incoming)
    · split
      · exact passes _ (refuse_handing incoming)
      · split
        · rename_i dropped
          obtain ⟨limited, is⟩ := Bool.and_eq_true_iff.mp dropped
          cases (full.symm.trans is).symm.trans (room limited)
        · exact ⟨congrArg _ arrivals, lastSeen⟩

/-- A message of that id, of no confirmed batch, went out. -/
def PassedAs (id : Nat) (new : List Arrival) : Prop :=
  ∃ message, .passed message ∈ new ∧ message.confirmation = none ∧ message.id.getD 0 = id

/-- From one core to the other the log grew by `new`, and no id is seen but what was seen before
or handed out since. -/
structure Passes (core after : Core) (new : List Arrival) : Prop where
  arrivals : after.arrivals = new ++ core.arrivals
  seen : ∀ id ∈ after.client.lastSeen.order, id ∈ core.client.lastSeen.order ∨ PassedAs id new

/-- The message of a batch's split, with the number the envelope gives it. -/
def Message.numberedAs (message : Message) (number : Nat) : Message :=
  { message with confirmation := if number ≠ 0 then some number else none }

/-- It went out with its number; or it has none, and its id was seen before or went out before it. -/
def PassedOnce (core : Core) (message : Message) (number : Nat) (new : List Arrival) : Prop :=
  .passed (message.numberedAs number) ∈ new ∨
    number = 0 ∧ (message.id.getD 0 ∈ core.client.lastSeen.order ∨ PassedAs (message.id.getD 0) new)

section Passes

variable {core between after : Core} {early late : List Arrival}

theorem PassedAs.mono {id : Nat} {more : List Arrival} (passed : PassedAs id early) (within : early ⊆ more) :
    PassedAs id more :=
  passed.imp fun _ out => ⟨within out.1, out.2⟩

theorem Passes.nothing (arrivals : after.arrivals = core.arrivals)
    (lastSeen : after.client.lastSeen = core.client.lastSeen) : Passes core after [] :=
  ⟨arrivals, fun _ member => .inl (lastSeen ▸ member)⟩

theorem Passes.trans (first : Passes core between early) (second : Passes between after late) :
    Passes core after (late ++ early) := by
  refine ⟨by rw [second.arrivals, first.arrivals, append_assoc], fun id member => ?_⟩
  rcases second.seen id member with before | passed
  · exact (first.seen id before).imp_right (·.mono (subset_append_right _ _))
  · exact .inr (passed.mono (subset_append_left _ _))

/-- What went out once after the first did so of both. -/
theorem Passes.once {message : Message} {number : Nat} (first : Passes core between early)
    (once : PassedOnce between message number late) : PassedOnce core message number (late ++ early) := by
  rcases once with out | ⟨none, seen | passed⟩
  · exact .inl (mem_append_left _ out)
  · exact .inr ⟨none, (first.seen _ seen).imp_right (·.mono (subset_append_right _ _))⟩
  · exact .inr ⟨none, .inr (passed.mono (subset_append_left _ _))⟩

theorem SpanSet.mem_insert {set after : SpanSet} {value each : Nat}
    (fresh : set.insert value = some after) (member : each ∈ after.order) :
    each ∈ set.order ∨ each = value := by
  unfold SpanSet.insert at fresh
  split at fresh
  · cases fresh
  · cases fresh
    rcases mem_append.mp member with before | last
    · exact .inl (SpanSet.mem_of_room before)
    · exact .inr (mem_singleton.mp last)

theorem seeFirst_fresh {id : Nat} {lastSeen : SpanSet}
    (fresh : core.client.lastSeen.insert id = some lastSeen) :
    (seeFirst id).value core = true ∧ (seeFirst id).after core =
      { core with
        client := { core.client with lastSeen }, arrivals := .took id :: core.arrivals } := by
  unfold seeFirst
  rw [value_get_bind, after_get_bind, fresh]
  exact ⟨rfl, rfl⟩

theorem seeFirst_then_handOut {message : Message} (plain : message.confirmation = none)
    (connection : Wrapper) (core : Core) : ∃ new, Passes core ((do
        let fresh ← seeFirst (message.id.getD 0)
        when fresh (handOut ⟨message, connection⟩ false)).after core) new ∧
      (message.id.getD 0 ∈ core.client.lastSeen.order ∨ .passed message ∈ new) := by
  rw [after_bind]
  cases fresh : core.client.lastSeen.insert (message.id.getD 0) with
  | none =>
    have seen : message.id.getD 0 ∈ core.client.lastSeen.order := by
      by_contra unseen
      simp [SpanSet.insert, unseen] at fresh
    have stops : (seeFirst (message.id.getD 0)).value core = false ∧
        (seeFirst (message.id.getD 0)).after core = core := by
      unfold seeFirst
      rw [value_get_bind, after_get_bind, fresh]
      exact ⟨rfl, rfl⟩
    rw [stops.1, stops.2]
    exact ⟨[], .nothing rfl rfl, .inl seen⟩
  | some lastSeen =>
    obtain ⟨first, saw⟩ := seeFirst_fresh fresh
    rw [first, saw]
    obtain ⟨arrivals, kept⟩ := handOut_passes ⟨message, connection⟩ false
      { core with
        client := { core.client with lastSeen }
        arrivals := .took (message.id.getD 0) :: core.arrivals }
      fun limited => absurd limited Bool.false_ne_true
    refine ⟨[.passed message, .took (message.id.getD 0)], ⟨arrivals, fun id member => ?_⟩,
      .inr mem_cons_self⟩
    rcases SpanSet.mem_insert fresh (kept ▸ member) with before | rfl
    · exact .inl before
    · exact .inr ⟨message, mem_cons_self, plain, rfl⟩

theorem splitEach_passes (connection : Wrapper) (envelope : Message) (bodies : List (Body Message))
    (numbers : List Nat) (past : Nat) (core : Core) :
    ∃ new, Passes core ((splitEach connection envelope bodies numbers past).after core) new ∧
      ∀ each ∈ bodies.zip (readNumbers bodies.length numbers past), ∀ message,
        belongs envelope each.1 = some message → PassedOnce core message each.2 new := by
  induction bodies generalizing numbers past core with
  | nil => exact ⟨[], .nothing rfl rfl, fun _ member => absurd member not_mem_nil⟩
  | cons body rest ih =>
    have zipped : (body :: rest).zip (readNumbers (body :: rest).length numbers past) =
        (body, (nextConfirm numbers past).1) ::
          rest.zip (readNumbers rest.length (nextConfirm numbers past).2.1 (nextConfirm numbers past).2.2) := rfl
    rw [zipped, splitEach]
    dsimp only
    generalize nextConfirm numbers past = next
    -- what the first did, and the rest after it
    have onwards : ∀ {first : Client Unit} {new : List Arrival}, Passes core (first.after core) new →
        (∀ message, belongs envelope body = some message → PassedOnce core message next.1 new) →
        ∃ new, Passes core ((do
            first
            splitEach connection envelope rest next.2.1 next.2.2).after core) new ∧
          ∀ each ∈ (body, next.1) :: rest.zip (readNumbers rest.length next.2.1 next.2.2), ∀ message,
            belongs envelope each.1 = some message → PassedOnce core message each.2 new := by
      intro first new passes own
      obtain ⟨more, onwards, others⟩ := ih next.2.1 next.2.2 (first.after core)
      rw [after_bind]
      refine ⟨more ++ new, passes.trans onwards, fun each member message inside => ?_⟩
      rcases mem_cons.mp member with rfl | later
      · rcases own message inside with out | ⟨none, seen | passed⟩
        · exact .inl (mem_append_right _ out)
        · exact .inr ⟨none, .inl seen⟩
        · exact .inr ⟨none, .inr (passed.mono (subset_append_right _ _))⟩
      · exact passes.once (others each later message inside)
    cases found : belongs envelope body with
    | none =>
      obtain ⟨arrivals, lastSeen⟩ := Hands.seen ((WayIn.confirm (envelope.sender.getD 0) next.1
        .failed).handing core)
      exact onwards (.nothing arrivals lastSeen) fun _ is => absurd (found.symm.trans is) (by simp)
    | some message =>
      have same : ∀ {other : Message}, belongs envelope body = some other → message = other :=
        fun is => some.inj (found.symm.trans is)
      dsimp only
      by_cases none : next.1 = 0
      · rw [none] at onwards ⊢
        simp only [ne_eq, not_true_eq_false, if_false]
        obtain ⟨_, passes, out⟩ := @seeFirst_then_handOut (message.numberedAs 0) rfl connection core
        refine onwards passes fun other is => ?_
        cases same is
        rcases out with seen | passed
        · exact .inr ⟨rfl, .inl seen⟩
        · exact .inl passed
      · have number : message.numberedAs next.1 = { message with confirmation := some next.1 } := by
          rw [Message.numberedAs, if_pos none]
        rw [if_pos none, if_pos none]
        obtain ⟨arrivals, lastSeen⟩ := handOut_passes
          ⟨{ message with confirmation := some next.1 }, connection⟩ false core
          fun limited => absurd limited Bool.false_ne_true
        have passes : Passes core ((handOut ⟨{ message with confirmation := some next.1 },
            connection⟩ false).after core) [.passed { message with confirmation := some next.1 }] :=
          ⟨arrivals, fun _ member => .inl (lastSeen ▸ member)⟩
        refine onwards passes fun other is => ?_
        cases same is
        exact .inl (number ▸ mem_cons_self)

theorem tellEach_passes (connection : Wrapper) (error : Message) (report : DeliveryError)
    (bodies : List (Body Message)) (core : Core) :
    ∃ new, ((tellEach connection error report bodies).after core).arrivals = new ++ core.arrivals ∧
      ∀ body ∈ bodies, ∀ message, body.message = some message → message.id.getD 0 ≠ 0 →
        ∃ id, .passed (errorFor error report id message) ∈ new := by
  induction bodies generalizing core with
  | nil => exact ⟨[], rfl, fun _ member => absurd member not_mem_nil⟩
  | cons body rest ih =>
    unfold tellEach
    dsimp only
    split
    · rename_i nameless
      obtain ⟨new, arrivals, others⟩ := ih core
      refine ⟨new, arrivals, fun each member message is named => ?_⟩
      rcases mem_cons.mp member with rfl | later
      · rw [is] at nameless
        simp [named] at nameless
      · exact others each later message is named
    · rename_i message named
      obtain ⟨passes, -⟩ := handOut_passes
        ⟨errorFor error report (core.ids.nth core.drawn) message, connection⟩ false
        { core with
          drawn := core.drawn + 1
          arrivals := .made (core.ids.nth core.drawn) :: core.arrivals }
        fun limited => absurd limited Bool.false_ne_true
      obtain ⟨new, arrivals, others⟩ := ih _
      refine ⟨new ++ [.passed (errorFor error report (core.ids.nth core.drawn) message),
        .made (core.ids.nth core.drawn)], ?_, fun each member other is nonzero => ?_⟩
      · rw [append_assoc]
        exact arrivals.trans (congrArg _ passes)
      · rcases mem_cons.mp member with rfl | later
        · rw [is] at named
          cases (filter_eq_some_iff.mp named).1
          exact ⟨_, mem_append_right _ mem_cons_self⟩
        · obtain ⟨id, out⟩ := others each later other is nonzero
          exact ⟨id, mem_append_left _ out⟩

end Passes

/-- Each message of the batch a delivery error is about was told of its own. -/
def ToldEach (error : Message) (new : List Arrival) : Prop :=
  ∃ report original bodies, error.message.map Payload.content = some (.deliveryError report) ∧
    report.originalMessage = some original ∧ original.bodies = some bodies ∧
    ∀ body ∈ bodies, ∀ message, body.message = some message → message.id.getD 0 ≠ 0 →
      ∃ id, .passed (errorFor error { report with originalMessage := none } id message) ∈ new

/-- The numbers of a batch's messages, when it is a confirmed one. -/
def Message.numbers (envelope : Message) : List Nat :=
  if envelope.confirm.length ≥ 2 then envelope.confirm else []

/-- What handing `message` out comes to, by what the log grew by: a batch's messages go out with
their numbers, but those without one whose id was seen, is the batch's or went out in it before;
what is no batch goes out whole, but for a delivery error about a batch. -/
structure HandedOut (core : Core) (message : Message) (new : List Arrival) : Prop where
  batch : ∀ bodies, message.batch.isSome → message.bodies = some bodies →
    message.type > types.MAX_MULTIPLEXER_META_PACKET →
    ∀ each ∈ bodies.zip (readNumbers bodies.length message.numbers 0), ∀ inner,
      belongs message each.1 = some inner → .passed (inner.numberedAs each.2) ∈ new ∨
        each.2 = 0 ∧ (inner.id.getD 0 ∈ core.client.lastSeen.order ∨
          inner.id.getD 0 = message.id.getD 0 ∨ PassedAs (inner.id.getD 0) new)
  whole : message.batch = none → .passed { message with confirmation := none } ∈ new ∨
    message.type = types.DELIVERY_ERROR ∧
      ((core.confirmer.byId[message.references.getD 0]?).isSome ∨ ToldEach message new)

theorem drainWanted_arrivals (conn : ConnId) (wanted : Bool) (core : Core) :
    ((when wanted (ifSome core.conns[conn]? fun state => when (!state.notifyWhenReadDrained) do
      putConn conn { state with notifyWhenReadDrained := true }
      modifyClient fun client =>
        { client with readDrainsWanted := client.readDrainsWanted + 1 })).after core).arrivals =
      core.arrivals := by
  cases wanted with
  | false => rfl
  | true =>
    cases core.conns[conn]? with
    | none => rfl
    | some state =>
      rw [ifSome_some]
      cases state.notifyWhenReadDrained <;> rfl

theorem splitBatch_passes (core : Core) (conn : ConnId) {envelope : Message}
    {bodies : List (Body Message)} (held : envelope.bodies = some bodies)
    (program : envelope.type > types.MAX_MULTIPLEXER_META_PACKET) (room : core.incomingFull = false) :
    ∃ new, ((splitBatch conn envelope).after core).arrivals = new ++ core.arrivals ∧
      ∀ each ∈ bodies.zip (readNumbers bodies.length envelope.numbers 0), ∀ message,
        belongs envelope each.1 = some message → PassedOnce core message each.2 new := by
  have whole : core.dropsWhole = false := by simp [Core.dropsWhole, room]
  unfold splitBatch
  rw [held, filter_some, if_pos (decide_eq_true program)]
  dsimp only
  rw [after_get_bind, whole, if_neg Bool.false_ne_true, after_bind, after_bind, after_bind,
    after_get_bind]
  have heard : ∀ (wanted : Bool) (state : Core),
      ((when wanted (confirmedBatchFrom conn (envelope.sender.getD 0))).after state).arrivals =
        state.arrivals ∧
      ((when wanted (confirmedBatchFrom conn (envelope.sender.getD 0))).after state).client =
        state.client := by
    intro wanted _
    cases wanted <;> exact ⟨rfl, rfl⟩
  obtain ⟨new, passes, out⟩ := splitEach_passes (core.wrap conn) envelope bodies envelope.numbers 0 _
  refine ⟨new, ?_, ?_⟩
  · rw [drainWanted_arrivals]
    exact passes.arrivals.trans (congrArg _ (heard _ _).1)
  · simp only [PassedOnce, (heard _ _).2] at out ⊢
    exact out

theorem splitDeliveryError_passes {conn : ConnId} {message : Message}
    (room : core.incomingFull = false) (split : (splitDeliveryError conn message).value core = true) :
    ∃ new, ((splitDeliveryError conn message).after core).arrivals = new ++ core.arrivals ∧
      ToldEach message new := by
  have whole : core.dropsWhole = false := by simp [Core.dropsWhole, room]
  unfold splitDeliveryError at split ⊢
  split at split
  · rename_i report content
    split at split
    · cases split
    · rename_i bodies held
      obtain ⟨original, is, inside⟩ := bind_eq_some_iff.mp held
      obtain ⟨new, arrivals, told⟩ := tellEach_passes (core.wrap conn) message
        { report with originalMessage := none } bodies
        { core with
          client :=
            { core.client with framesHandled := core.client.framesHandled + (bodies.length - 1) } }
      refine ⟨new, ?_, report, original, bodies, content, is, inside, told⟩
      rw [after_get_bind, whole, if_neg Bool.false_ne_true]
      exact arrivals
  · cases split

theorem takeDeliveryError_passes (core : Core) (conn : ConnId) (message : Message)
    (room : core.incomingFull = false) : ((takeDeliveryError conn message).value core = false →
      (takeDeliveryError conn message).after core = core) ∧
    ((takeDeliveryError conn message).value core = true →
      ∃ new, ((takeDeliveryError conn message).after core).arrivals = new ++ core.arrivals ∧
        ((core.confirmer.byId[message.references.getD 0]?).isSome ∨ ToldEach message new)) := by
  have splits : ((splitDeliveryError conn message).value core = true →
      ∃ new, ((splitDeliveryError conn message).after core).arrivals = new ++ core.arrivals ∧
        ((core.confirmer.byId[message.references.getD 0]?).isSome ∨ ToldEach message new)) :=
    fun split => (splitDeliveryError_passes room split).imp fun _ told => ⟨told.1, .inr told.2⟩
  unfold takeDeliveryError
  dsimp only
  split
  · have told : Told core ((confirmedBatchNotTaken (message.references.getD 0)).after core) :=
      .notTaken _
    cases found : core.confirmer.byId[message.references.getD 0]? with
    | none =>
      have other : (confirmedBatchNotTaken (message.references.getD 0)).value core = false ∧
          (confirmedBatchNotTaken (message.references.getD 0)).after core = core := by
        unfold confirmedBatchNotTaken
        rw [value_get_bind, after_get_bind, found]
        exact ⟨rfl, rfl⟩
      rw [found] at splits
      rw [value_bind, after_bind, other.1, other.2]
      exact ⟨splitDeliveryError_false, splits⟩
    | some =>
      have own : (confirmedBatchNotTaken (message.references.getD 0)).value core = true := by
        unfold confirmedBatchNotTaken
        rw [value_get_bind, found]
        rfl
      rw [value_bind, after_bind, own]
      exact ⟨fun no => absurd no (by simp), fun _ => ⟨[], told.shifts.aloof.arrivals, .inl rfl⟩⟩
  · exact ⟨splitDeliveryError_false, splits⟩

theorem handleMessage_passes (conn : ConnId) {message : Message}
    (kind : message.type ≠ types.PEER_STATUS ∧ message.type ≠ types.CONFIRMATION)
    (named : message.id.getD 0 ≠ 0) (unseen : message.id.getD 0 ∉ core.client.lastSeen.order)
    (room : core.incomingFull = false) :
    ∃ new, ((handleMessage conn message).after core).arrivals = new ++ core.arrivals ∧
      HandedOut core message new := by
  obtain ⟨lastSeen, fresh⟩ : ∃ lastSeen,
      core.client.lastSeen.insert (message.id.getD 0) = some lastSeen := by
    simp [SpanSet.insert, unseen]
  let counted : Core :=
    { core with client := { core.client with framesHandled := core.client.framesHandled + 1 } }
  let seen : Core :=
    { counted with
      client := { counted.client with lastSeen }
      arrivals := .took (message.id.getD 0) :: core.arrivals }
  have sees : (seeFirst (message.id.getD 0)).value counted = true ∧
      (seeFirst (message.id.getD 0)).after counted = seen := seeFirst_fresh fresh
  have hands : ((handOut ⟨{ message with confirmation := none }, seen.wrap conn⟩ true).after
      seen).arrivals = [.passed { message with confirmation := none },
        .took (message.id.getD 0)] ++ core.arrivals := (handOut_passes _ true seen fun _ => room).1
  unfold handleMessage
  rw [after_bind, if_neg kind.1, if_neg named, if_neg kind.2, after_bind]
  change ∃ new, (after (if !(seeFirst (message.id.getD 0)).value counted then _ else _)
    ((seeFirst (message.id.getD 0)).after counted)).arrivals = _ ∧ _
  rw [sees.1, sees.2, Bool.not_true, if_neg Bool.false_ne_true]
  split
  · rename_i batched
    have is : message.batch ≠ none := fun none => by simp [none] at batched
    by_cases held : ∃ bodies, message.bodies = some bodies ∧
        message.type > types.MAX_MULTIPLEXER_META_PACKET
    · obtain ⟨bodies, held, program⟩ := held
      obtain ⟨new, arrivals, out⟩ := splitBatch_passes seen conn held program room
      refine ⟨new ++ [.took (message.id.getD 0)], ?_, ?_, fun none => absurd none is⟩
      · rw [arrivals, append_assoc]
        rfl
      · intro others _ same _ each member inner inside
        cases held.symm.trans same
        rcases out each member inner inside with out | ⟨none, known | passed⟩
        · exact .inl (mem_append_left _ out)
        · exact .inr ⟨none, (SpanSet.mem_insert fresh known).imp_right .inl⟩
        · exact .inr ⟨none, .inr (.inr (passed.mono (subset_append_left _ _)))⟩
    · refine ⟨[.took (message.id.getD 0)], ?_, ?_, fun none => absurd none is⟩
      · unfold splitBatch
        split
        · rfl
        · rename_i bodies kept
          obtain ⟨some, program⟩ := filter_eq_some_iff.mp kept
          exact absurd ⟨bodies, some, of_decide_eq_true program⟩ held
      · exact fun bodies _ some program => absurd ⟨bodies, some, program⟩ held
  · rename_i single
    have batch : ∀ {new : List Arrival}, (message.batch = none →
        .passed { message with confirmation := none } ∈ new ∨
          message.type = types.DELIVERY_ERROR ∧
            ((core.confirmer.byId[message.references.getD 0]?).isSome ∨ ToldEach message new)) →
        HandedOut core message new := fun whole => ⟨fun _ some => absurd some single, whole⟩
    split
    · rename_i error
      obtain ⟨whole, told⟩ := takeDeliveryError_passes seen conn message room
      rw [after_bind]
      cases taken : (takeDeliveryError conn message).value seen with
      | true =>
        obtain ⟨new, arrivals, told⟩ := told taken
        refine ⟨new ++ [.took (message.id.getD 0)], ?_, batch fun _ => .inr ⟨error, ?_⟩⟩
        · rw [append_assoc]
          exact arrivals
        · refine told.imp_right ?_
          rintro ⟨report, original, bodies, content, is, inside, each⟩
          refine ⟨report, original, bodies, content, is, inside, fun body member inner is named => ?_⟩
          exact (each body member inner is named).imp fun _ out => mem_append_left _ out
      | false =>
        rw [whole taken]
        beta_reduce
        rw [if_neg Bool.false_ne_true, after_get_bind]
        exact ⟨_, hands, batch fun _ => .inl mem_cons_self⟩
    · rw [after_bind, value_pure, after_pure]
      beta_reduce
      rw [if_neg Bool.false_ne_true, after_get_bind]
      exact ⟨_, hands, batch fun _ => .inl mem_cons_self⟩

/-! ## What was dropped for want of room -/

/-- The log before an id was ever taken, or right after it was let go. -/
def LetGo (id : Nat) (log : List Arrival) : Prop := log = [] ∨ ∃ earlier, log = .letGo :: .took id :: earlier

/-- An id never taken, or let go and not taken since, is not among those seen. -/
theorem Logged.let_go {recent log : List Arrival} {id : Nat} {set : SpanSet}
    (logged : Logged (recent ++ log) set) (before : LetGo id log) (since : .took id ∉ recent) :
    id ∉ set.order := by
  induction recent generalizing set with
  | nil =>
    rcases before with rfl | ⟨_, rfl⟩
    · cases logged with
      | start => exact not_mem_nil
    · cases logged with
      | letGo logged =>
        cases logged with
        | took logged fresh =>
          obtain ⟨within, _, -, order⟩ := logged.within.insert fresh
          have nodup := within.nodup
          rw [order, nodup_append] at nodup
          simp only [SpanSet.forgetLast, order, dropLast_concat]
          exact fun member => nodup.2.2 id member id mem_cons_self rfl
  | cons _ recent ih =>
    have earlier : .took id ∉ recent := fun member => since (.tail _ member)
    rw [cons_append] at logged
    generalize whole : recent ++ log = rest at logged
    cases logged with
    | @took _ before after new logged fresh =>
      intro member
      rcases SpanSet.mem_insert fresh member with kept | rfl
      · exact ih (whole ▸ logged) earlier kept
      · exact since mem_cons_self
    | letGo logged => exact fun member => ih (whole ▸ logged) earlier (mem_of_mem_dropLast member)
    | made logged | passed logged => exact ih (whole ▸ logged) earlier

/-- An arrival by what it is and its id, for runs to be read off. -/
def Arrival.code : Arrival → Nat × Nat
  | .took id => (0, id)
  | .letGo => (1, 0)
  | .made id => (2, id)
  | .passed message => (if message.confirmation = none then 3 else 4, message.id.getD 0)

theorem Arrival.passed_of_code {arrival : Arrival} {id : Nat} (code : arrival.code = (3, id)) :
    ∃ message, arrival = .passed message ∧ message.confirmation = none ∧ message.id.getD 0 = id := by
  cases arrival with
  | passed message =>
    obtain ⟨plain, named⟩ := Prod.mk.inj code
    exact ⟨message, rfl, by simpa using plain, named⟩
  | _ => cases code

theorem Arrival.took_of_code {arrival : Arrival} {id : Nat} (code : arrival.code = (0, id)) :
    arrival = .took id := by
  cases arrival with
  | took => exact congrArg _ (Prod.mk.inj code).2
  | passed message =>
    have kind := (Prod.mk.inj code).1
    split at kind <;> cases kind
  | _ => cases code

def eventOf (id : Nat) : Message := { id := some id, sender := some 60, type := 200 }

def twoEvents : Message :=
  { id := some 92, sender := some 60, type := 200
    batch := some ⟨22, some [⟨9, some (eventOf 40)⟩, ⟨9, some (eventOf 93)⟩]⟩ }

/-- A message of id 40, its copy, which goes nowhere, and one more. -/
def threeFrames : History :=
  welcomed ++ [(1, .frame 1 (some (eventOf 40))), (2, .frame 1 (some (eventOf 40))),
    (3, .frame 1 (some (eventOf 41)))]

theorem threeFrames_arrivals : ((Settings.plain.start 0).run threeFrames).arrivals.map Arrival.code =
    [(3, 41), (0, 41), (3, 40), (0, 40)] := by
  decide +kernel

/-- A message comes with an id that this client then draws, for a delivery error about a batch. -/
def comesAndDrawn : History :=
  welcomed ++ [(1, .frame 1 (some (eventOf 2))), (2, .frame 1 (some
    { id := some 91, sender := some 50, type := types.DELIVERY_ERROR
      message := some (DeliveryErrorOf.payload { packetId := 92, originalMessage := some twoEvents }) }))]

theorem comesAndDrawn_arrivals : ((Settings.plain.start 0).run comesAndDrawn).arrivals.map Arrival.code =
    [(3, 3), (2, 3), (3, 2), (2, 2), (0, 91), (3, 2), (0, 2)] := by
  decide +kernel

end Multiplexer
