import Multiplexer.Io.Settling

/-! A shared connection on its own loop: how it comes to end the channel, once, or twice when it
reads on to its peer's end first, between the turns of the threads that write to it. -/

set_option autoImplicit false

namespace Multiplexer

open SharedOutgoing World

/-- A call that told the manager the connection is gone and orphans its queue next. -/
inductive Orphaning where
  | shutdown
  | readToTheEnd
deriving DecidableEq

structure SharedConnection (Entry Thread : Type) where
  world : World Entry Thread := {}
  shutsDown : Bool := false
  isRegistered : Bool := false
  toldGone : Bool := false
  delivering : Bool := true
  -- the own loop's calls under way, the innermost first, and the closes posted to it
  orphaning : List Orphaning := []
  closes : Nat := 0

namespace SharedConnection

variable {Entry Thread : Type}

def shutdown (connection : SharedConnection Entry Thread) : SharedConnection Entry Thread :=
  if connection.shutsDown then connection
  else
    { connection with
      shutsDown := true, toldGone := true, isRegistered := false
      orphaning := .shutdown :: connection.orphaning }

def readToTheEnd (deliver : Bool) (connection : SharedConnection Entry Thread) :
    SharedConnection Entry Thread :=
  { connection with
    toldGone := true, delivering := deliver
    orphaning := .readToTheEnd :: connection.orphaning }

/-- The end of a connection that reads on first, unless it ends already. -/
def readOn (deliver : Bool) (connection : SharedConnection Entry Thread) :
    SharedConnection Entry Thread :=
  if connection.shutsDown || connection.toldGone then connection
  else if !connection.isRegistered then connection.shutdown
  else connection.readToTheEnd deliver

def writeFailed (connection : SharedConnection Entry Thread) : SharedConnection Entry Thread :=
  connection.readOn true

def closeGracefully (connection : SharedConnection Entry Thread) : SharedConnection Entry Thread :=
  connection.readOn false

/-- What a turn told the writer that took it. -/
def told (before after : World Entry Thread) : Option (Party Thread × Ending) :=
  match after.log.drop before.log.length with
  | .told party ending _ :: _ => some (party, ending)
  | _ => none

/-- `_hand_on` posts the close once flushed; the own loop, told so itself, closes at once
(`_owner_written`). -/
def hear (heard : Option (Party Thread × Ending)) (connection : SharedConnection Entry Thread) :
    SharedConnection Entry Thread :=
  match heard with
  | some (.thread _, .close) => { connection with closes := connection.closes + 1 }
  | some (.own, .close) => connection.closeGracefully
  | some (.own, .failed) => connection.writeFailed
  | _ => connection

inductive Step (Entry Thread : Type) where
  -- a turn at the shared side by any thread, or by a handler of the own loop's
  | turn (action : SharedOutgoing.Action Entry Thread)
  | register
  | closeWhenFlushed
  -- a close posted by a writer
  | close
  -- from a handler, or from the manager's callbacks in a call under way
  | shutdown
  -- `_orphan_outgoing_messages` of the innermost call under way
  | orphan

/-- Whether the action ends the channel, or asks for its end, as only the calls here do. -/
def isCall : SharedOutgoing.Action Entry Thread → Bool
  | .take | .closeWhenFlushed => true
  | _ => false

def isHandler : SharedOutgoing.Action Entry Thread → Bool
  | .ownerNext | .ownerWritten .. | .settle => true
  | _ => false

variable [DecidableEq Thread] (toRaw : Entry → RawMessage)

def act (step : Step Entry Thread) (connection : SharedConnection Entry Thread) :
    Option (SharedConnection Entry Thread) :=
  match step with
  | .turn action =>
    -- the own loop's handlers run one after the other
    if isCall action ∨ isHandler action ∧ connection.orphaning ≠ [] then none
    else
      (connection.world.act toRaw action).map fun world =>
        { connection with world }.hear (told connection.world world)
  | .register => if connection.shutsDown then none else some { connection with isRegistered := true }
  | .closeWhenFlushed =>
    if connection.shutsDown || connection.toldGone then some connection
    else if !connection.isRegistered then some connection.shutdown
    else
      (connection.world.act toRaw .closeWhenFlushed).map fun world =>
        if connection.world.shared.closeWhenFlushed.1 then { connection with world }.closeGracefully
        else { connection with world }
  | .close =>
    match connection.closes, connection.orphaning with
    | closes + 1, [] => some { connection with closes }.closeGracefully
    | _, _ => none
  | .shutdown => some connection.shutdown
  | .orphan =>
    match connection.orphaning with
    | [] => none
    | _ :: orphaning =>
      (connection.world.act toRaw .take).map fun world => { connection with world, orphaning }

def run : List (Step Entry Thread) → SharedConnection Entry Thread →
    Option (SharedConnection Entry Thread)
  | [], connection => some connection
  | step :: steps, connection => (connection.act toRaw step).bind (run steps)

end SharedConnection

/-! ## What no turn but a take undoes -/

namespace SharedOutgoing.World

open List Option

variable {Entry Thread : Type} {toRaw : Entry → RawMessage} {world after : World Entry Thread} {progress : Nat}

/-- No thread writes, nor will one: the channel ended, or the own loop's write failed. -/
def Stopped (world : World Entry Thread) : Prop :=
  world.shared.state = .broken ∨ world.own = .failing

theorem Sound.stopped (sound : Sound toRaw world progress) (stopped : world.Stopped) :
    world.shared.state = .broken ∨ world.shared.state = .owner ∧ world.own = .failing ∧ world.handed = 0 := by
  rcases stopped with broken | failing
  · exact .inl broken
  · right
    cases sound.standing with
    | free _ _ _ _ own => simp [own] at failing
    | under _ _ _ _ holder =>
      cases holder with
      | writing _ _ _ _ _ own | handed _ _ _ own | owning _ _ _ _ own => simp [own] at failing
      | failing state _ _ _ handed => exact ⟨state, failing, handed⟩
    | ended _ _ leftover =>
      cases leftover with
      | nobody _ own | through _ _ _ _ _ _ _ own | owning _ _ _ _ _ _ own => simp [own] at failing

/-- What a turn that is no take keeps. -/
structure Keeps (world after : World Entry Thread) : Prop where
  stopped : world.Stopped → after.Stopped
  settler : world.shared.settler = none → after.shared.settler = none

theorem Keeps.of_eq (state : after.shared.state = world.shared.state)
    (settler : after.shared.settler = world.shared.settler) (own : after.own = world.own) :
    Keeps world after where
  stopped := by
    unfold Stopped
    rw [state, own]
    exact id
  settler := settler.trans

theorem ownerWritten_ended {shared : SharedOutgoing Entry Thread} (broken : shared.state = .broken)
    (whole : Bool) (now : Instant) : (shared.ownerWritten whole now).2.state = .broken ∧
      (shared.ownerWritten whole now).2.settler = shared.settler := by
  unfold SharedOutgoing.ownerWritten settleOwned
  dsimp only
  rw [if_pos (by simp [broken])]
  split <;> exact ⟨broken, rfl⟩

theorem ownerWritten_close {shared : SharedOutgoing Entry Thread} {whole : Bool} {now : Instant}
    (closes : (shared.ownerWritten whole now).1 = .close) :
    (shared.ownerWritten whole now).2.state = .broken := by
  unfold SharedOutgoing.ownerWritten at closes ⊢
  dsimp only at closes ⊢
  split at closes
  · rcases settleOwned_fits whole { shared with ownerWrites := false } with gone | written | lost <;> simp_all
  · rw [if_neg ‹_›]
    split at closes
    · cases closes
    · rw [if_neg ‹_›]
      split at closes
      · cases closes
      · rw [if_neg ‹_›]
        obtain ⟨_, _, emptied, -, ends, -⟩ := emptied_cases now { shared with
          ownerWrites := false, queue := shared.queue.tail, frontWritten := 0, heartbeatOwed := false }
        rw [emptied] at closes ⊢
        subst closes
        simpa using ends

variable [DecidableEq Thread]

theorem Keeps.goOn {thread : Thread} {frames : Nat}
    {next : Next (Ticketed Entry) × SharedOutgoing (Ticketed Entry) Thread}
    (broken : world.shared.state = .broken → next.2.state = .broken)
    (settler : world.shared.settler = none → next.2.settler = none) :
    Keeps world (world.goOn thread frames next) where
  stopped := by
    rintro (ended | failing)
    · left
      rw [goOn_shared]
      exact broken ended
    · right
      rcases next with ⟨front | ending, shared⟩
      · exact failing
      · cases ending <;> exact failing
  settler := by
    rw [goOn_shared]
    exact settler

theorem settleThrough_keeps (self : Thread) (whole : Bool) (shared : SharedOutgoing Entry Thread) :
    (shared.settleThrough self whole).2.state = shared.state ∧
      (shared.settler = none → (shared.settleThrough self whole).2.settler = none) := by
  rcases settleThrough_cases self whole shared with ⟨-, settled⟩ | ⟨-, settled⟩ <;> simp [settled]

theorem act_keeps {action : Action Entry Thread} (sound : Sound toRaw world progress)
    (acted : world.act toRaw action = some after) (notTake : action ≠ .take) : Keeps world after := by
  cases act_turn acted with
  | refused | queued | setLimit | send => exact .of_eq rfl rfl rfl
  | claimed _ _ _ _ _ _ _ free =>
    refine ⟨fun stopped => ?_, id⟩
    rcases sound.stopped stopped with broken | ⟨owner, -⟩
    · simp [free] at broken
    · simp [free] at owner
  | begin thread now phase =>
    have busy : world.phase thread ≠ .idle := by simp [phase]
    cases sound.atWork busy with
    | live _ _ _ _ state writer =>
      refine .goOn (fun broken => ?_) (nextThrough_live state writer 0 now).1.trans
      simp [state] at broken
    | left _ _ _ broken =>
      have kept := settleThrough_keeps thread false world.shared
      exact .goOn (by simpa [nextThrough, broken] using kept.1) (by simpa [nextThrough, broken] using kept.2)
  | finish thread now front offset frames count phase =>
    have busy : world.phase thread ≠ .idle := by simp [phase]
    cases sound.atWork busy with
    | live _ _ _ _ state writer =>
      refine .goOn (fun broken => ?_) (writtenThrough_live state writer frames _ count now).1.trans
      simp [state] at broken
    | left _ _ _ broken =>
      have kept := settleThrough_keeps thread
        (decide (count = some ((toRaw front.entry).size - offset))) world.shared
      exact .goOn (by simpa [writtenThrough, broken] using kept.1)
        (by simpa [writtenThrough, broken] using kept.2)
  | quiet =>
    unfold SharedOutgoing.quiet
    split <;> exact .of_eq rfl rfl rfl
  | closeWhenFlushed =>
    unfold SharedOutgoing.closeWhenFlushed
    split
    · refine ⟨fun _ => .inl rfl, id⟩
    · exact .of_eq rfl rfl rfl
  | ownerNext handed own count next =>
    refine ⟨fun stopped => ?_, (ownerNext_settles world.shared).1.trans⟩
    rcases sound.stopped stopped with broken | ⟨-, -, none_⟩
    · left
      simp [SharedOutgoing.ownerNext, broken]
    · simp [none_] at count
  | ownerSends _ _ _ _ writes =>
    refine ⟨fun stopped => ?_, id⟩
    rcases stopped with broken | failing
    · exact .inl broken
    · simp [failing] at writes
  | ownerWritten _ now _ _ _ whole writes =>
    cases sound.ownAtWork writes with
    | live _ _ _ state =>
      refine ⟨fun stopped => ?_, fun clear => ?_⟩
      · rcases sound.stopped stopped with broken | ⟨-, failing, -⟩
        · simp [state] at broken
        · simp [failing] at writes
      · rw [(ownerHears_queue _ _).1]
        exact (ownerWritten_settles state whole now).1.trans clear
    | left _ broken =>
      obtain ⟨state, settler⟩ := ownerWritten_ended broken whole now
      refine ⟨fun _ => .inl ?_, fun clear => ?_⟩ <;> rw [(ownerHears_queue _ _).1]
      · exact state
      · exact settler.trans clear
  | take => contradiction
  | settle whole settles =>
    have same := settleAside_queue whole { world with settles }
    refine .of_eq (by rw [same.1]) (by rw [same.1]) ?_
    unfold settleAside
    split <;> rfl

/-! ## What a writer is told -/

theorem nextThrough_close {self : Thread} {frames : Nat} {now : Instant} {shared : SharedOutgoing Entry Thread}
    (closes : (shared.nextThrough self frames now).1 = .stop .close) :
    (shared.nextThrough self frames now).2.state = .broken := by
  unfold nextThrough at closes ⊢
  split at closes
  · rcases settleThrough_fits self false shared with gone | written | lost <;> simp_all
  · rw [if_neg ‹_›]
    split at closes
    · obtain ⟨ending, after, emptied, -, ends, -⟩ := emptied_cases now shared
      simp only [emptied, Next.stop.injEq] at closes ⊢
      subst closes
      simpa using ends
    · split at closes <;> cases closes

theorem writtenThrough_close {self : Thread} {frames rest : Nat} {sent : Option Nat} {now : Instant}
    {shared : SharedOutgoing Entry Thread}
    (closes : (shared.writtenThrough self frames rest sent now).1 = .stop .close) :
    (shared.writtenThrough self frames rest sent now).2.state = .broken := by
  unfold writtenThrough at closes ⊢
  split at closes
  · rcases settleThrough_fits self (decide (sent = some rest)) shared with gone | written | lost <;> simp_all
  · rw [if_neg ‹_›]
    split at closes
    · cases closes
    · rw [if_neg ‹_›]
      exact nextThrough_close closes

theorem told_goOn {thread : Thread} {frames : Nat}
    {next : Next (Ticketed Entry) × SharedOutgoing (Ticketed Entry) Thread} {party : Party Thread}
    {ending : Ending} (heard : SharedConnection.told world (world.goOn thread frames next) = some (party, ending)) :
    party = .thread thread ∧ next.1 = .stop ending := by
  rcases next with ⟨front | stops, shared⟩
  · simp [SharedConnection.told, World.goOn] at heard
  · simp only [SharedConnection.told, World.goOn, handOn_log, drop_left, some.injEq, Prod.mk.injEq] at heard
    exact ⟨heard.1.symm, by rw [heard.2]⟩

theorem act_told {action : Action Entry Thread} {party : Party Thread} {ending : Ending}
    (acted : world.act toRaw action = some after)
    (heard : SharedConnection.told world after = some (party, ending)) :
    (ending = .close → after.shared.state = .broken) ∧
      (party = .own → ending = .failed → after.own = .failing) := by
  cases act_turn acted with
  | refused | queued | claimed | setLimit | send | quiet | closeWhenFlushed | ownerNext | ownerSends
  | take => simp [SharedConnection.told] at heard
  | begin =>
    obtain ⟨rfl, stops⟩ := told_goOn heard
    refine ⟨?_, by simp⟩
    rintro rfl
    rw [goOn_shared]
    exact nextThrough_close stops
  | finish =>
    obtain ⟨rfl, stops⟩ := told_goOn heard
    refine ⟨?_, by simp⟩
    rintro rfl
    rw [goOn_shared]
    exact writtenThrough_close stops
  | ownerWritten _ now _ _ _ whole =>
    simp only [SharedConnection.told, ownerHears_log, drop_left, some.injEq, Prod.mk.injEq] at heard
    obtain ⟨-, heard⟩ := heard
    refine ⟨?_, ?_⟩
    · rintro rfl
      rw [(ownerHears_queue _ _).1]
      exact ownerWritten_close heard
    · rintro - rfl
      rw [ownWritten, heard]
      rfl
  | settle whole settles =>
    have same : ({ world with settles }.settleAside whole).log = world.log := by
      unfold settleAside
      split <;> rfl
    simp [SharedConnection.told, same] at heard

end SharedOutgoing.World

namespace SharedConnection

open List Option

variable {Entry Thread : Type} {connection after : SharedConnection Entry Thread}

/-! ## The takes -/

/-- A call that reads on finds nobody writing, and no take is left to come once one found a thread
writing. -/
structure Held (connection : SharedConnection Entry Thread) : Prop where
  clear : connection.orphaning ≠ [] ∨ connection.shutsDown = false → connection.world.shared.settler = none
  stopped : .readToTheEnd ∈ connection.orphaning → connection.world.Stopped
  shuts : .shutdown ∈ connection.orphaning → connection.shutsDown = true
  tells : .readToTheEnd ∈ connection.orphaning → connection.toldGone = true
  once : connection.orphaning.Nodup
  closes : 0 < connection.closes → connection.world.Stopped

namespace Held

theorem onWorld {world : World Entry Thread} (held : Held connection) (keeps : Keeps connection.world world) :
    Held { connection with world } where
  clear ends := keeps.settler (held.clear ends)
  stopped reads := keeps.stopped (held.stopped reads)
  shuts := held.shuts
  tells := held.tells
  once := held.once
  closes posted := keeps.stopped (held.closes posted)

theorem shutdown (held : Held connection) : Held connection.shutdown := by
  unfold SharedConnection.shutdown
  split
  · exact held
  · rename_i runs
    have runs := Bool.eq_false_of_not_eq_true runs
    have first : .shutdown ∉ connection.orphaning := fun ends => by simpa [runs] using held.shuts ends
    exact
      { clear := fun _ => held.clear (.inr runs)
        stopped := fun reads => held.stopped (by simpa using reads)
        shuts := fun _ => rfl
        tells := fun _ => rfl
        once := nodup_cons.mpr ⟨first, held.once⟩
        closes := held.closes }

theorem readOn (held : Held connection) (stopped : connection.world.Stopped) (deliver : Bool) :
    Held (connection.readOn deliver) := by
  unfold SharedConnection.readOn
  split
  · exact held
  · rename_i runs
    simp only [Bool.or_eq_true, not_or, Bool.not_eq_true] at runs
    split
    · exact held.shutdown
    · have first : .readToTheEnd ∉ connection.orphaning := fun reads => by simpa [runs.2] using held.tells reads
      exact
        { clear := fun _ => held.clear (.inr runs.1)
          stopped := fun _ => stopped
          shuts := fun ends => held.shuts (by simpa [readToTheEnd] using ends)
          tells := fun _ => rfl
          once := nodup_cons.mpr ⟨first, held.once⟩
          closes := held.closes }

theorem hear {heard : Option (Party Thread × Ending)} (held : Held connection)
    (closes : ∀ party, heard = some (party, .close) → connection.world.Stopped)
    (fails : heard = some (.own, .failed) → connection.world.Stopped) : Held (connection.hear heard) := by
  unfold SharedConnection.hear
  split
  · exact { held with closes := fun _ => closes _ rfl }
  · exact held.readOn (closes _ rfl) false
  · exact held.readOn (fails rfl) true
  · exact held

end Held

theorem shutdown_world : connection.shutdown.world = connection.world := by
  unfold shutdown
  split <;> rfl

theorem readOn_world (deliver : Bool) : (connection.readOn deliver).world = connection.world := by
  unfold readOn
  split
  · rfl
  · split
    · exact shutdown_world
    · rfl

theorem hear_world (heard : Option (Party Thread × Ending)) : (connection.hear heard).world = connection.world := by
  unfold hear
  split <;> first | rfl | exact readOn_world _

variable {toRaw : Entry → RawMessage}

variable (toRaw) in
structure Settles (connection : SharedConnection Entry Thread) : Prop where
  sound : ∃ progress, World.Sound toRaw connection.world progress
  short : Short toRaw connection.world
  settling : Settling toRaw connection.world
  orderly : Orderly connection.world.log
  held : Held connection

/-- Same world, so only the connection's own part is to be shown. -/
theorem Settles.same (settles : Settles toRaw connection) (inWorld : after.world = connection.world)
    (held : Held after) : Settles toRaw after := by
  obtain ⟨sound, short, settling, orderly, -⟩ := settles
  rw [← inWorld] at sound short settling orderly
  exact ⟨sound, short, settling, orderly, held⟩

theorem settles_new : Settles toRaw ({} : SharedConnection Entry Thread) where
  sound := ⟨0, fresh_sound⟩
  short := .start rfl
  settling := .fresh
  orderly := by
    intro before note after split
    simp at split
  held := ⟨fun _ => rfl, by simp, by simp, by simp, nodup_nil, by simp⟩

variable [DecidableEq Thread]

/-- At a take nobody owes the settlement of an earlier one. -/
theorem Held.orphan {progress : Nat} {world : World Entry Thread} {call : Orphaning}
    {orphaning : List Orphaning} (held : Held connection)
    (sound : World.Sound toRaw connection.world progress) (calls : connection.orphaning = call :: orphaning)
    (acted : connection.world.act toRaw .take = some world) : Held { connection with world, orphaning } := by
  have fewer : orphaning ⊆ connection.orphaning := by simp [calls]
  have once := held.once
  rw [calls, nodup_cons] at once
  cases act_turn acted with
  | take =>
    refine ⟨?_, fun _ => .inl rfl, fun ends => held.shuts (fewer ends), fun reads => held.tells (fewer reads),
      once.2, fun _ => .inl rfl⟩
    intro ends
    by_cases writing : connection.world.shared.state = .writing
    · -- a thread writes: the call is the shutdown's, and no other is under way
      have reads : .readToTheEnd ∉ connection.orphaning := by
        intro reads
        rcases sound.stopped (held.stopped reads) with broken | ⟨owner, -⟩
        · simp [writing] at broken
        · simp [writing] at owner
      have all : ∀ each ∈ connection.orphaning, each = .shutdown := by
        intro each member
        cases each with
        | shutdown => rfl
        | readToTheEnd => exact absurd member reads
      have shuts : connection.shutsDown = true := held.shuts (by simp [calls, all call (by simp [calls])])
      have last : orphaning = [] := by
        refine eq_nil_iff_forall_not_mem.mpr fun each member => once.1 ?_
        rw [all call (by simp [calls]), ← all each (fewer member)]
        exact member
      simp [last, shuts] at ends
    · simp [SharedOutgoing.take, writing]

theorem Settles.acted {action : SharedOutgoing.Action Entry Thread} {world : World Entry Thread}
    (settles : Settles toRaw connection) (acted : connection.world.act toRaw action = some world)
    (clear : action = .take → connection.world.shared.settler = none)
    (inWorld : after.world = world) (held : Held after) : Settles toRaw after := by
  obtain ⟨⟨_, sound⟩, short, settling, orderly, -⟩ := settles
  subst inWorld
  exact ⟨act_sound sound acted, act_short sound short acted, act_settling sound short settling clear acted,
    act_orderly sound settling orderly acted, held⟩

theorem act_settles {step : Step Entry Thread} (settles : Settles toRaw connection)
    (acted : connection.act toRaw step = some after) : Settles toRaw after := by
  obtain ⟨progress, sound⟩ := settles.sound
  have held := settles.held
  cases step with
  | turn action =>
    simp only [act] at acted
    split at acted
    · cases acted
    · rename_i allowed
      have notTake : action ≠ .take := by
        rintro rfl
        exact allowed (.inl rfl)
      obtain ⟨world, turned, rfl⟩ := map_eq_some_iff.mp acted
      refine settles.acted turned (fun takes => absurd takes notTake) (hear_world _) ?_
      refine (held.onWorld (act_keeps sound turned notTake)).hear (fun party heard => ?_) fun heard => ?_
      · exact .inl ((act_told turned heard).1 rfl)
      · exact .inr ((act_told turned heard).2 rfl rfl)
  | register =>
    simp only [act] at acted
    split at acted
    · cases acted
    · cases acted
      exact settles.same rfl { held with }
  | closeWhenFlushed =>
    simp only [act] at acted
    split at acted
    · cases acted
      exact settles
    split at acted
    · cases acted
      exact settles.same shutdown_world held.shutdown
    · obtain ⟨world, turned, rfl⟩ := map_eq_some_iff.mp acted
      have kept := held.onWorld (act_keeps sound turned (by simp))
      split
      · rename_i flushed
        refine settles.acted turned (by simp) (readOn_world _) (kept.readOn (.inl ?_) false)
        simp only [World.act, some.injEq] at turned
        subst turned
        unfold SharedOutgoing.closeWhenFlushed at flushed ⊢
        split at flushed
        · rw [if_pos ‹_›]
          rfl
        · cases flushed
      · exact settles.acted turned (by simp) rfl kept
  | close =>
    simp only [act] at acted
    split at acted
    · rename_i closes posted calls
      cases acted
      have stopped := held.closes (by omega)
      have fewer : Held { connection with closes } := { held with closes := fun _ => stopped }
      exact settles.same (readOn_world _) (fewer.readOn stopped false)
    · cases acted
  | shutdown =>
    cases acted
    exact settles.same shutdown_world held.shutdown
  | orphan =>
    simp only [act] at acted
    split at acted
    · cases acted
    · rename_i call orphaning calls
      obtain ⟨world, turned, rfl⟩ := map_eq_some_iff.mp acted
      refine settles.acted turned (fun _ => held.clear (.inl ?_)) rfl (held.orphan sound calls turned)
      simp [calls]

theorem run_settles {steps : List (Step Entry Thread)} (settles : Settles toRaw connection)
    (ran : connection.run toRaw steps = some after) : Settles toRaw after := by
  induction steps generalizing connection with
  | nil =>
    cases ran
    exact settles
  | cons _ _ ih =>
    obtain ⟨_, acted, ran⟩ := bind_eq_some_iff.mp ran
    exact ih (act_settles settles acted) ran

/-- A frame under way when a shared connection ends is settled by the end of the write that had it,
once, as written when all its bytes are on the socket; whoever else hears of the end is told it is
gone. -/
theorem shared_outgoing_settles {steps : List (Step Entry Thread)}
    (ran : ({} : SharedConnection Entry Thread).run toRaw steps = some connection) :
    (∀ before front party after, connection.world.log = before ++ .took (some (front, party)) :: after →
      settlements before = [] ∧ ((connection.world.Busy party ∧ settlements after = []) ∨
          ∃ ending, settlements after = [(party, ending)] ∧ ¬connection.world.Busy party ∧
            (ending = .written ↔ connection.world.socket =
              bytesOf toRaw connection.world.popped ++ (toRaw front.entry).bytes) ∧
            (connection.world.settles = [] → connection.world.aside = [] ∧
              connection.world.settled = [(front, decide (ending = .written))]))) ∧
      (asides connection.world.log = [] →
        settlements connection.world.log = [] ∧ connection.world.settled = []) ∧
      (∀ party ending, .told party ending true ∈ connection.world.log → ending ≠ .gone →
        (party, ending) ∈ settlements connection.world.log) := by
  obtain ⟨-, -, settling, orderly, -⟩ := run_settles settles_new ran
  refine ⟨?_, ?_, ?_⟩
  · intro before front party after split
    have none_ : settlements before = [] := orderly before _ after split
    have later : settlements connection.world.log = settlements after := by
      rw [split, append_cons, settlements_append, settlements_append, none_]
      rfl
    have noted : (front, party) ∈ asides connection.world.log := by
      simp [split, asides]
    refine ⟨none_, ?_⟩
    cases settling with
    | alive _ clean | unasked _ _ clean => simp [clean.noAsides] at noted
    | pending held writer _ owed _ _ _ asides settlements =>
      rw [asides, mem_singleton] at noted
      cases noted
      exact .inl ⟨owed.busy, later.symm.trans settlements⟩
    | finished held writer whole _ nobody _ _ ended asides settlements exactly =>
      rw [asides, mem_singleton] at noted
      cases noted
      refine .inr ⟨settledAs whole, later.symm.trans settlements, nobody party, ?_, ?_⟩
      · rw [← exactly]
        cases whole <;> simp [settledAs]
      · intro ran
        rcases ended with ⟨-, posted, -⟩ | ⟨aside, -, settled⟩
        · simp [ran] at posted
        · refine ⟨aside, settled.trans ?_⟩
          cases whole <;> rfl
  · intro nothing
    cases settling with
    | alive _ clean | unasked _ _ clean => exact ⟨clean.noSettlements, clean.settled⟩
    | pending _ _ _ _ _ _ _ asides | finished _ _ _ _ _ _ _ _ asides => simp [asides] at nothing
  · intro party ending told notGone
    obtain ⟨before, after, split⟩ := append_of_mem told
    have fits : ending = .gone ∨ ending = .written ∨ ending = .lost :=
      orderly before _ after split
    rcases fits with gone | rfl | rfl
    · exact absurd gone notGone
    · simp [split, settlements]
    · simp [split, settlements]

/-- The connection shuts down while a thread writes its only frame. -/
def shutInWrite : List (Step RawMessage Nat) :=
  [.register, .turn (.enqueue 0 (blank 1) false false), .turn (.begin 0 0), .shutdown, .orphan,
    .turn (.send 0 (some 9)), .shutdown, .turn (.finish 0 1), .turn .settle]

theorem shared_outgoing_settles_shutInWrite :
    ∃ connection, ({} : SharedConnection RawMessage Nat).run id shutInWrite = some connection ∧
      connection.world.log = [.took (some (⟨0, blank 1⟩, .thread 0)), .told (.thread 0) .written true] ∧
      connection.world.settled = [(⟨0, blank 1⟩, true)] ∧
      ((connection.world.Busy (.thread 0) ∧ settlements connection.world.log.tail = []) ∨
        ∃ ending, settlements connection.world.log.tail = [(.thread 0, ending)] ∧
          ¬connection.world.Busy (.thread 0) ∧
          (ending = .written ↔
            connection.world.socket = bytesOf id connection.world.popped ++ (blank 1).bytes) ∧
          (connection.world.settles = [] → connection.world.aside = [] ∧
            connection.world.settled = [(⟨0, blank 1⟩, decide (ending = .written))])) := by
  have ran : ({} : SharedConnection RawMessage Nat).run id shutInWrite = some _ := rfl
  exact ⟨_, ran, rfl, rfl, ((shared_outgoing_settles ran).1 [] _ _ _ rfl).2⟩

end SharedConnection

end Multiplexer
