import Multiplexer.Change.Stir

/-! The changes a query makes: its frames go in by the ways there are, and its own state and
timers are kept apart from all else. -/

set_option autoImplicit false

namespace Multiplexer

open Program

def QueryNote.isUnencoded : QueryNote → Bool
  | .ended _ _ _ unencoded => unencoded
  | _ => false

/-- What a query's frames are made from, but for the request's id. -/
def InFlight.parts (inFlight : InFlight) : Message × Nat × Nat :=
  (inFlight.prototype, inFlight.directId, inFlight.directTo)

/-- The query's frames are made from what they were made from, a request id drawn anew apart. -/
structure InFlight.Kept (before after : InFlight) : Prop where
  parts : after.parts = before.parts
  requestId : after.requestId = before.requestId ∨ after.requestId ≤ U64_MAX

theorem InFlight.Kept.refl (inFlight : InFlight) : inFlight.Kept inFlight := ⟨rfl, .inl rfl⟩

/-- No query begins, and those left are kept. -/
def Queries.Keeps (queries after : Queries) : Prop :=
  ∀ (query : QueryId) (later : InFlight), after.inFlight[query]? = some later →
    ∃ inFlight : InFlight, queries.inFlight[query]? = some inFlight ∧ inFlight.Kept later

/-- One change of a query. `fails`: one may begin, be sent elsewhere or end for want of a frame. -/
inductive Ask (fails : Prop) : Core → Core → Prop
  | shift {core after} (shift : Shift true core after) : Ask fails core after
  | enter {core} {α : Type} {program : Client α} (way : WayIn program) : Ask fails core (program.after core)
  | queries {core} (queries : Queries) (kept : ¬fails → core.queries.Keeps queries) :
      Ask fails core { core with queries }
  | note {core} (made : QueryNote) (may : made.isUnencoded = true → fails) :
      Ask fails core { core with queryNotes := made :: core.queryNotes }
  | arm {core} (deadline : Instant) (query : QueryId) (generation : Nat) :
      Ask fails core { core with timers := core.timers.armQuery deadline query generation }
  | cancel {core} (slot : Option TimerKey) :
      Ask fails core { core with timers := core.timers.cancelQuery slot }

abbrev Asks (fails : Prop) : Core → Core → Prop := Relation.ReflTransGen (Ask fails)

instance (fails : Prop) : Std.Refl (Asks fails) := ⟨fun _ => .refl⟩

instance (fails : Prop) : IsTrans Core (Asks fails) := ⟨fun _ _ _ => .trans⟩

abbrev Asking (fails : Prop) {α : Type} (program : Client α) : Prop := Keeps (Asks fails) program

variable {fails : Prop}

variable {α : Type} {program : Client α} {query : QueryId}

theorem Shifting.asking (shifting : Shifting true program) : Asking fails program :=
  .steps (fun shift => .single (.shift shift)) shifting

theorem WayIn.asking (way : WayIn program) : Asking fails program :=
  fun _ => .single (.enter way)

theorem noteQuery_asking {made : QueryNote} (may : made.isUnencoded = true → fails) :
    Asking fails (noteQuery made) :=
  fun _ => .single (.note made may)

theorem modifyQueries_opening (change : Queries → Queries) : Asking True (modifyQueries change) :=
  fun core => .single (.queries (change core.queries) (absurd trivial))

theorem modifyQueries_asking {change : Queries → Queries}
    (same : ∀ queries, (change queries).inFlight = queries.inFlight) : Asking fails (modifyQueries change) := by
  refine fun core => .single (.queries _ fun _ query later found => ?_)
  rw [same] at found
  exact ⟨later, found, .refl later⟩

theorem modifyQuery_asks {change : InFlight → InFlight} {core : Core}
    (kept : ∀ inFlight, core.queries.inFlight[query]? = some inFlight → inFlight.Kept (change inFlight)) :
    Asks fails core ((modifyQuery query change).after core) := by
  refine .single (.queries _ fun _ each later found => ?_)
  change (core.queries.inFlight.modify query change)[each]? = _ at found
  rw [Lookup.modify_apply] at found
  split at found
  · obtain ⟨inFlight, before, rfl⟩ := Option.map_eq_some_iff.mp found
    subst each
    exact ⟨inFlight, before, kept inFlight before⟩
  · exact ⟨later, found, .refl later⟩

theorem modifyQuery_asking {change : InFlight → InFlight} (same : ∀ inFlight : InFlight,
      ((change inFlight).parts, (change inFlight).requestId) = (inFlight.parts, inFlight.requestId)) :
    Asking fails (modifyQuery query change) :=
  fun _ => modifyQuery_asks fun inFlight _ =>
    ⟨congrArg Prod.fst (same inFlight), .inl (congrArg Prod.snd (same inFlight))⟩

theorem cancelQueryTimer_asking (slot : Option TimerKey) : Asking fails (cancelQueryTimer slot) :=
  fun _ => .single (.cancel slot)

theorem rearmQueryTimer_asking (slot : Option TimerKey) (deadline : Instant) (query : QueryId)
    (generation : Nat) : Asking fails (rearmQueryTimer slot deadline query generation) :=
  fun _ => .tail (.single (.cancel slot)) (.arm deadline query generation)

/-! ## The end, and the waits -/

theorem rememberFinished_asking (id : Nat) (limit : Instant) : Asking fails (rememberFinished id limit) :=
  .get fun _ => modifyQueries_asking fun _ => rfl

theorem clearOutWaiting_asking : Asking fails clearOutWaiting := by
  refine modifyQueries_asking fun queries => ?_
  dsimp only
  split <;> rfl

theorem eraseQuery_asking (query : QueryId) : Asking fails
    (modifyQueries fun queries => { queries with inFlight := queries.inFlight.erase query }) := by
  refine fun core => .single (.queries _ fun _ each later found => ?_)
  change (core.queries.inFlight.erase query)[each]? = _ at found
  rw [Lookup.erase_apply] at found
  split at found
  · cases found
  · exact ⟨later, found, .refl later⟩

theorem finish_asking {outcome : Outcome} {unencoded : Bool} (may : unencoded = true → fails) :
    Asking fails (finish query outcome unencoded) := by
  refine .get fun core => ?_
  split
  · exact .pure _
  · have forgets : ∀ id limit, Asking fails (do
        modifyQueries fun queries => { queries with byId := queries.byId.erase id }
        when (core.client.mode = .dispatch) (rememberFinished id limit)) :=
      fun _ _ => .bind (modifyQueries_asking fun _ => rfl) fun _ => .when (rememberFinished_asking _ _)
    have calls : ∀ callback, Asking fails (do
        noteQuery (.ended query callback outcome unencoded)
        call (.callback callback)) :=
      fun _ => .bind (noteQuery_asking may) fun _ => (call_shifting _).asking
    exact .bind (eraseQuery_asking query) fun _ => .bind (cancelQueryTimer_asking _) fun _ =>
      .bind (.forEach fun id => forgets id _) fun _ =>
        .bind (.ifSome fun _ => .ifSome fun _ => (adopt_shifting _ _).asking) fun _ =>
          .bind (.ifSome calls) fun _ =>
            .when (.bind (modifyQueries_asking fun _ => rfl) fun _ => clearOutWaiting_asking)

theorem armQuery_asking (query : QueryId) (timeout : Option Duration) :
    Asking fails (armQuery query timeout) := by
  refine .get fun core => ?_
  split
  · exact .pure _
  · dsimp only
    split
    · exact .bind (rearmQueryTimer_asking _ _ _ _) fun _ => modifyQuery_asking fun _ => rfl
    · exact .bind (cancelQueryTimer_asking _) fun _ => modifyQuery_asking fun _ => rfl

theorem getQuery_asking {next : Option InFlight → Client α}
    (rest : ∀ found, Asking fails (next found)) : Asking fails (getQuery query >>= next) :=
  .gets rest

theorem waitForConnection_asking (query : QueryId) (resume : Stage) :
    Asking fails (waitForConnection query resume) := by
  refine getQuery_asking fun found => ?_
  cases found with
  | none => exact .pure _
  | some =>
    exact .bind (modifyQuery_asking fun _ => rfl) fun _ => .when (modifyQueries_asking fun _ => rfl)

theorem waitLate_asking (query : QueryId) (direct : Bool) : Asking fails (waitLate query direct) := by
  refine .get fun core => ?_
  split
  · exact .pure _
  · exact .ite (.bind (modifyQuery_asking fun _ => rfl) fun _ => finish_asking nofun)
      (modifyQuery_asking fun _ => rfl)

theorem answered_asking (query : QueryId) (connection : Wrapper) :
    Asking fails (answered query connection) := by
  refine getQuery_asking fun found => ?_
  cases found with
  | none => exact .pure _
  | some => exact .ite (.bind (modifyQuery_asking fun _ => rfl) fun _ => .pure _) (.pure _)

/-! ## What it sends -/

theorem scheduleThrough_asking (frame : Frame) (lane : Option LaneId)
    (timeout : Option Duration) : Asking fails (scheduleThrough frame lane timeout) := by
  refine .get fun core => ?_
  dsimp only
  split
  case' h_1 =>
    refine .bind (WayIn.scheduleOn _ _ _ _ _ _).asking fun _ => .bind (.pure _) fun own => ?_
  case' h_2 => refine .bind (.pure _) fun own => ?_
  all_goals
    cases own with
    | some => exact .pure _
    | none =>
      refine .ite (.pure _) (.bind (WayIn.scheduleOne _ _ _ _).asking fun placed => ?_)
      cases placed with
      | none => exact .pure _
      | some => exact .bind (.ifSome fun _ => (adopt_shifting _ _).asking) fun _ => .pure _

theorem random64_le (core : Core) : random64.value core ≤ U64_MAX :=
  Nat.le_pred_of_lt (core.ids.nth_lt core.drawn)

theorem startRequest_asks {keepDeadline : Bool} {core : Core}
    (unencoded : ∀ inFlight id, core.queries.inFlight[query]? = some inFlight →
      id = inFlight.requestId ∨ id = core.ids.nth core.drawn →
      attemptFrame inFlight.prototype id = none → fails) :
    Asks fails core ((startRequest query keepDeadline).after core) := by
  rw [startRequest, after_get_bind]
  split
  · exact .refl
  · rename_i inFlight found
    split
    · exact finish_asking nofun core
    · dsimp only
      split
      case' isTrue =>
        rw [after_bind]
        refine .trans (random64_shifting.asking core)
          (Keeps.bind_at (modifyQuery_asks fun _ _ => ⟨rfl, .inr (random64_le core)⟩) fun _ => ?_)
        have either : random64.value core = inFlight.requestId ∨
          random64.value core = core.ids.nth core.drawn := .inr rfl
      case' isFalse =>
        rw [after_bind, value_pure, after_pure]
        refine Keeps.bind_at (modifyQuery_asks fun other there => ⟨rfl, .inl ?_⟩) fun _ => ?_
        · rw [Option.some.inj (found.symm.trans there)]
        have either : inFlight.requestId = inFlight.requestId ∨
          inFlight.requestId = core.ids.nth core.drawn := .inl rfl
      all_goals
        split
        · rename_i none
          exact finish_asking fun _ => unencoded inFlight _ found either none
        · refine .bind (scheduleThrough_asking _ _ _) fun through => ?_
          cases through with
          | refused => exact finish_asking nofun
          | nowhere =>
            exact .bind (waitForConnection_asking _ _) fun _ => .when (armQuery_asking _ _)
          | placed =>
            exact .bind (noteQuery_asking nofun) fun _ => .bind (modifyQuery_asking fun _ => rfl) fun _ =>
              .bind (modifyQueries_asking fun _ => rfl) fun _ => .when (armQuery_asking _ _)

theorem scheduleSearch_asking (frame : Frame) (lane : Option LaneId) (pinned : Bool)
    (wait : Option Duration) : Asking fails (scheduleSearch frame lane pinned wait) := by
  refine .ite (.bind (scheduleThrough_asking _ _ _) fun through => ?_)
    (.bind (WayIn.scheduleAll _ _).asking fun _ => .pure _)
  cases through with
  | refused | nowhere | placed => exact .pure _

/-- A search asks, and fails only where its message cannot be encoded. -/
theorem search_asks {keepDeadline : Bool} {core : Core}
    (unencoded : ∀ inFlight id, core.queries.inFlight[query]? = some inFlight → id ≤ U64_MAX →
      encode (searchMessage inFlight.prototype inFlight.addressed id core.instanceId) = none → fails) :
    Asks fails core ((search query keepDeadline).after core) := by
  rw [search, after_get_bind]
  split
  · exact .refl
  · rename_i inFlight found
    dsimp only
    split
    · exact finish_asking nofun core
    · have arms : Asking fails (when (!keepDeadline) (armQuery query (core.stageTimeout inFlight))) :=
        .when (armQuery_asking _ _)
      rw [after_bind, after_bind]
      refine .trans (arms core) (.trans (random64_shifting.asking _) ((?_ : Asking fails _) _))
      have small := random64_le ((when (!keepDeadline) (armQuery query (core.stageTimeout inFlight))).after core)
      split
      · rename_i none
        exact finish_asking fun _ => unencoded inFlight _ found small none
      · refine .bind (scheduleSearch_asking _ _ _ _) fun sent => ?_
        split
        · exact finish_asking nofun
        · exact waitForConnection_asking _ _
        · exact .bind (noteQuery_asking nofun) fun _ => .bind (modifyQuery_asking fun _ => rfl) fun _ =>
            modifyQueries_asking fun _ => rfl

theorem scheduleDirect_asking (frame : Frame) (pinned : Bool) (lane : Option LaneId)
    (preferred : Option Wrapper) (left : Option Duration) :
    Asking fails (scheduleDirect frame pinned lane preferred left) := by
  unfold scheduleDirect
  dsimp only
  split
  case' h_1 =>
    refine .bind (WayIn.scheduleOn _ _ _ _ _ _).asking fun tracker => ?_
    cases tracker
    case' some =>
      refine .bind (.ifSome fun _ => (adopt_shifting _ _).asking) fun _ =>
        .bind (.pure _) fun direct => ?_
    case' none => refine .bind (.pure _) fun direct => ?_
  case' h_2 => refine .bind (.pure _) fun direct => ?_
  all_goals
    cases direct with
    | some => exact .pure _
    | none => exact scheduleThrough_asking _ _ _

theorem sendDirect_asks {preferred : Option Wrapper} {keepDeadline : Bool} {core : Core}
    (unencoded : ∀ inFlight, core.queries.inFlight[query]? = some inFlight →
      encode inFlight.directMessage = none → fails) :
    Asks fails core ((sendDirect query preferred keepDeadline).after core) := by
  rw [sendDirect, after_get_bind]
  split
  · exact .refl
  · rename_i inFlight found
    dsimp only
    split
    · rename_i none
      exact finish_asking (fun _ => unencoded inFlight found none) core
    · refine Keeps.bind (.when (armQuery_asking _ _)) (fun _ =>
        .bind (scheduleDirect_asking _ _ _ _ _) fun through => ?_) core
      cases through with
      | refused => exact finish_asking nofun
      | nowhere => exact waitForConnection_asking _ _
      | placed =>
        exact .bind (noteQuery_asking nofun) fun _ => .bind (modifyQuery_asking fun _ => rfl) fun _ =>
          modifyQueries_asking fun _ => rfl

/-! ## What moves it on -/

/-- A relation the changes of a query keep, each of its three messages among them. -/
structure Querying (Relates : Core → Core → Prop) : Prop where
  asking : ∀ {α : Type} {program : Client α}, (∀ {fails : Prop}, Asking fails program) → Keeps Relates program
  requests : ∀ query keepDeadline, Keeps Relates (startRequest query keepDeadline)
  searches : ∀ query keepDeadline, Keeps Relates (search query keepDeadline)
  directs : ∀ query preferred keepDeadline, Keeps Relates (sendDirect query preferred keepDeadline)

section Querying

variable {Relates : Core → Core → Prop} (querying : Querying Relates)

include querying

theorem finish_keeps (query : QueryId) (outcome : Outcome) : Keeps Relates (finish query outcome false) :=
  querying.asking (finish_asking nofun)

theorem waitLate_keeps (query : QueryId) (direct : Bool) : Keeps Relates (waitLate query direct) :=
  querying.asking (waitLate_asking query direct)

variable [Std.Refl Relates] [IsTrans Core Relates]

theorem queryDeadline_keeps (query : QueryId) (generation : Nat) :
    Keeps Relates (queryDeadline query generation) := by
  refine .gets fun found => ?_
  cases found with
  | none => exact .pure _
  | some =>
    refine .ite (.pure _) (.bind (querying.asking (modifyQuery_asking fun _ => rfl)) fun _ => ?_)
    split
    · exact .bind (querying.asking (modifyQuery_asking fun _ => rfl)) fun _ => querying.searches _ _
    · exact finish_keeps querying _ _
    · exact finish_keeps querying _ _

theorem restart_keeps (query : QueryId) : Keeps Relates (restart query) := by
  refine .gets fun found => ?_
  cases found with
  | none => exact .pure _
  | some =>
    refine .bind (querying.asking (modifyQuery_asking fun _ => rfl)) fun _ => .ite (.pure _)
      (.bind (querying.asking (modifyQueries_asking fun _ => rfl)) fun _ => ?_)
    split
    · exact querying.searches _ _
    · exact querying.directs _ _ _
    · exact querying.requests _ _

theorem fill_keeps : Keeps Relates fill := by
  have unposts : Shifting true (modify fun core => { core with queriesFillPosted := false }) :=
    fun core => .single (.hush { Silent.refl core with } rfl)
  exact .bind (querying.asking unposts.asking) fun _ => .get fun _ => .when (.get fun _ =>
    .bind (querying.asking (modifyQueries_asking fun _ => rfl)) fun _ => .forEach fun _ => restart_keeps querying _)

theorem refused_keeps (query : QueryId) (id : Nat) : Keeps Relates (refused query id) := by
  refine .gets fun found => ?_
  cases found with
  | none => exact .pure _
  | some =>
    refine .bind (querying.asking (noteQuery_asking nofun)) fun _ =>
      .bind (.when (querying.asking (modifyQuery_asking fun _ => rfl))) fun _ => ?_
    split
    · exact .when (querying.searches _ _)
    · exact .when (waitLate_keeps querying _ _)
    · exact .bind (querying.asking (modifyQuery_asking fun _ => rfl)) fun _ => .when (finish_keeps querying _ _)
    · exact .pure _

theorem advance_keeps {incoming : Incoming} {core : Core}
    (aims : incoming.message.type = types.PING → Relates core ((direct query incoming).after core)) :
    Relates core ((advance query incoming).after core) := by
  rw [advance, getQuery, after_gets_bind]
  split
  · exact refl_of Relates core
  · dsimp only
    split
    · exact Keeps.ite (refused_keeps querying _ _) (finish_keeps querying _ _) core
    · split
      · exact refl_of Relates core
      · split
        · exact Keeps.bind (querying.asking (answered_asking _ _)) (fun _ => .get fun _ =>
            .when (waitLate_keeps querying _ _)) core
        · unfold when
          split
          · rename_i ping
            exact aims (of_decide_eq_true ping)
          · exact refl_of Relates core

theorem queryTakes_keeps {incoming : Incoming} {core : Core}
    (aims : ∀ query, core.queries.byId[incoming.message.references.getD 0]? = some query →
      incoming.message.type = types.PING → Relates core ((direct query incoming).after core)) :
    Relates core ((queryTakes incoming).after core) := by
  rw [queryTakes, after_get_bind]
  dsimp only
  split
  · exact refl_of Relates core
  · split
    · rename_i query found
      split
      · exact Keeps.bind (querying.asking (acknowledged_shifting _ _).asking) (fun _ => .pure _) core
      · exact advance_keeps querying (aims query found)
    · split <;> exact refl_of Relates core

theorem lost_keeps (query : QueryId) : Keeps Relates (lost query) := by
  refine .get fun core => ?_
  split
  · exact .pure _
  · exact .ite (finish_keeps querying _ _) (.ite
      (.bind (querying.asking (modifyQuery_asking fun _ => rfl)) fun _ => querying.searches _ _)
      (waitLate_keeps querying _ _))

theorem followedHandover_keeps (query : QueryId) (generation : Nat) (request : Bool) :
    Keeps Relates (followedHandover query generation request) := by
  refine .get fun core => ?_
  split
  · exact .pure _
  · refine .ite (.pure _) ?_
    split
    · exact .pure _
    · exact .ite (.ite (querying.searches _ _) (waitLate_keeps querying _ _))
        (.bind (querying.asking (followedConnection_shifting _ _).asking) fun _ =>
          .ite (querying.asking (modifyQuery_asking fun _ => rfl)) (lost_keeps querying _))

theorem queryConnectionLost_keeps (connection : Wrapper) (query : QueryId) :
    Keeps Relates (queryConnectionLost connection query) := by
  refine .get fun core => ?_
  split
  · exact .pure _
  · rename_i inFlight found
    have underAttempt : Keeps Relates
        (when (inFlight.sentVia.any (·.isSameConnection connection)) do
          if !core.queryPinned inFlight &&
              inFlight.sentState.any (fun state => core.trackers state = .queued) then
            followHandover query
          else lost query) :=
      .when (.ite (querying.asking (followHandover_shifting _).asking) (lost_keeps querying _))
    dsimp only
    split
    · exact underAttempt
    · exact underAttempt
    · exact .ite (.bind (querying.asking (answered_asking _ _)) fun _ => .when (finish_keeps querying _ _)) (.pure _)
    · exact .when (finish_keeps querying _ _)
    · exact .pure _

theorem queriesOnConnection_keeps (connection : Wrapper) (up : Bool) :
    Keeps Relates (queriesOnConnection connection up) :=
  .ite (querying.asking postFill_shifting.asking)
    (.get fun _ => .forEach fun _ => queryConnectionLost_keeps querying _ _)

theorem finishEveryQuery_keeps : Keeps Relates finishEveryQuery :=
  .get fun _ => .bind (.forEach fun _ => finish_keeps querying _ _) fun _ =>
    querying.asking (modifyQueries_asking fun _ => rfl)

end Querying

/-! ## The ways in -/

inductive QueryMove : {α : Type} → Client α → Prop
  | finish (query : QueryId) (outcome : Outcome) : QueryMove (finish query outcome false)
  | deadline (query : QueryId) (generation : Nat) : QueryMove (queryDeadline query generation)
  | fill : QueryMove fill
  | handover (query : QueryId) (generation : Nat) (request : Bool) :
      QueryMove (followedHandover query generation request)
  | onConnection (connection : Wrapper) (up : Bool) : QueryMove (queriesOnConnection connection up)
  | finishEvery : QueryMove finishEveryQuery

inductive QueryWay : {α : Type} → Client α → Prop
  | start (prototype : Message) (timeout : Option Duration) (lane : Option LaneId)
      (done : CallbackId) (received : Option CallbackId) :
      QueryWay (startQuery prototype timeout lane done received)
  | takes (incoming : Incoming) : QueryWay (queryTakes incoming)
  | moves {α : Type} {program : Client α} (move : QueryMove program) : QueryWay program

theorem QueryMove.keeps {Relates : Core → Core → Prop} [Std.Refl Relates] [IsTrans Core Relates]
    (querying : Querying Relates) (move : QueryMove program) : Keeps Relates program := by
  cases move with
  | finish => exact finish_keeps querying _ _
  | deadline => exact queryDeadline_keeps querying _ _
  | fill => exact fill_keeps querying
  | handover => exact followedHandover_keeps querying _ _ _
  | onConnection => exact queriesOnConnection_keeps querying _ _
  | finishEvery => exact finishEveryQuery_keeps querying

theorem Asks.querying : Querying (Asks True) where
  asking asking := asking
  requests _ _ _ := startRequest_asks fun _ _ _ _ _ => trivial
  searches _ _ _ := search_asks fun _ _ _ _ _ => trivial
  directs _ _ _ _ := sendDirect_asks fun _ _ _ => trivial

theorem direct_asking (query : QueryId) (ping : Incoming) : Asking True (direct query ping) :=
  .bind random64_shifting.asking fun _ => .bind (modifyQueries_opening _) fun _ => Asks.querying.directs _ _ _

/-- Whatever moves a query on changes the queries and sends, no more. -/
theorem QueryWay.asking (way : QueryWay program) : Asking True program := by
  cases way with
  | start =>
    exact .get fun _ => .bind (modifyQueries_opening _) fun _ => .bind (noteQuery_asking nofun) fun _ =>
      .bind (Asks.querying.requests _ _) fun _ => .pure _
  | takes => exact fun _ => queryTakes_keeps Asks.querying fun _ _ _ => direct_asking _ _ _
  | moves move => exact move.keeps Asks.querying

end Multiplexer
