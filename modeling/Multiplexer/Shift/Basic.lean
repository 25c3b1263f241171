import Multiplexer.Core.Event

/-! Changes of the core that leave its connections, what waits, its open batches and what was handed
to the outbox as they were, but for timers. Most functions of the core are made of these. -/

set_option autoImplicit false

namespace Multiplexer

open Program List

/-! ## What is left alone -/

def ClientState.view (client : ClientState) : ClientState :=
  { client with
    acknowledgedCallbacks := [], acknowledgedVersion := 0, acknowledgedWake := false
    framesHandled := 0, readDrainsWanted := 0, dropObserver := false, dropped := 0
    incomingDropped := 0, firstConnectionOver := ∅, closing := [], droppedWhileClosing := 0
    refusing := false }

structure Outbox.Lines where
  slab : Slab Waiting
  backlogs : List Backlog
  held : List WaitKey
  displaced : List WaitKey
  waiting : Nat
  heldLive : Nat
  expiring : List (Instant × WaitKey)
  compactAt : Nat
  timer : Option TimerKey
  armed : Option Instant

def Outbox.lines (outbox : Outbox) : Outbox.Lines :=
  { slab := outbox.slab, backlogs := outbox.backlogs, held := outbox.held
    displaced := outbox.displaced, waiting := outbox.waiting, heldLive := outbox.heldLive
    expiring := outbox.expiring, compactAt := outbox.compactAt, timer := outbox.timer
    armed := outbox.armed }

def Outbox.flushCount (outbox : Outbox) (id : FlushId) : Option (Nat × Nat) :=
  outbox.flushStates[id]?.map fun flush => (flush.lastNumber, flush.waiting)

structure Outbox.Same (outbox after : Outbox) : Prop where
  lines : after.lines = outbox.lines
  numbers : outbox.lastNumber ≤ after.lastNumber
  nextFlush : after.nextFlush = outbox.nextFlush
  flushes : after.flushes.Sublist outbox.flushes
  counts : ∀ id ∈ after.flushes, after.flushCount id = outbox.flushCount id
  callbacks : outbox.callbacksPosted = true → after.callbacksPosted = true

namespace Outbox.Same

theorem refl (outbox : Outbox) : outbox.Same outbox where
  lines := rfl
  numbers := le_rfl
  nextFlush := rfl
  flushes := .refl _
  counts _ _ := rfl
  callbacks := id

theorem trans {first second third : Outbox} (one : first.Same second) (two : second.Same third) :
    first.Same third where
  lines := two.lines.trans one.lines
  numbers := one.numbers.trans two.numbers
  nextFlush := two.nextFlush.trans one.nextFlush
  flushes := two.flushes.trans one.flushes
  counts id waits := (two.counts id waits).trans (one.counts id (two.flushes.subset waits))
  callbacks posted := two.callbacks (one.callbacks posted)

theorem of_eq {outbox after : Outbox}
    (same : (after.lines, after.lastNumber, after.nextFlush, after.flushes, after.flushCount,
        after.callbacksPosted) =
      (outbox.lines, outbox.lastNumber, outbox.nextFlush, outbox.flushes, outbox.flushCount,
        outbox.callbacksPosted)) : outbox.Same after := by
  simp only [Prod.mk.injEq] at same
  obtain ⟨lines, numbers, nextFlush, flushes, counts, callbacks⟩ := same
  exact ⟨lines, numbers.ge, nextFlush, flushes ▸ .refl _, fun _ _ => congrFun counts _, callbacks.trans⟩

end Outbox.Same

def Batcher.view (batcher : Batcher) : Batcher :=
  { batcher with waitingForIdle := [], byDue := [], timer := none, armed := none }

def OutboxNote.isPlaced : OutboxNote → Bool
  | .taken .. | .queued .. => true
  | _ => false

def OutboxNote.mark : OutboxNote → Option Nat
  | .flushBegan _ _ mark => some mark
  | _ => none

/-- Whether a note is of messages put in an envelope, or of what a consumer confirms. -/
def ConfirmNote.isWatched : ConfirmNote → Bool
  | .enveloped .. | .confirmed .. | .told .. => true
  | _ => false

def Confirmer.dues (confirmer : Confirmer) : Std.TreeMap Nat Owed × Nat :=
  (confirmer.owed, confirmer.owedCount)

/-- All but the connections, the outbox and the batches is as it was; more may be posted, drawn
and tracked. -/
structure Steady (core after : Core) : Prop where
  now : after.now = core.now
  ids : after.ids = core.ids
  instanceId : after.instanceId = core.instanceId
  drawn : core.drawn ≤ after.drawn
  nextConn : after.nextConn = core.nextConn
  byPeerId : after.byPeerId = core.byPeerId
  roundRobin : after.roundRobin.Perm core.roundRobin
  client : after.client.view = core.client.view
  queries : after.queries = core.queries
  queryNotes : after.queryNotes = core.queryNotes
  arrivals : after.arrivals = core.arrivals
  owes : after.confirmer.posted = core.confirmer.posted
  trackers : core.nextTracker ≤ after.nextTracker
  numbers : core.outbox.lastNumber ≤ after.outbox.lastNumber
  posted : ∃ more, after.posted = core.posted ++ more ∧ ∀ conn, .connectFailed conn ∉ more

structure Aloof (core after : Core) : Prop extends Steady core after where
  conns : after.conns = core.conns
  actions : after.actions = core.actions

structure Silent (core after : Core) : Prop extends Aloof core after where
  outbox : core.outbox.Same after.outbox
  batches : after.batcher.view = core.batcher.view
  placed : after.notes.filter OutboxNote.isPlaced = core.notes.filter OutboxNote.isPlaced
  marks : after.notes.filterMap OutboxNote.mark = core.notes.filterMap OutboxNote.mark
  watched : after.confirmNotes.filter ConfirmNote.isWatched = core.confirmNotes.filter ConfirmNote.isWatched
  dues : after.confirmer.dues = core.confirmer.dues

structure Apart (core after : Core) : Prop where
  confirmer : after.confirmer = core.confirmer
  batcher : after.batcher = core.batcher
  confirmNotes : after.confirmNotes = core.confirmNotes

namespace Steady

theorem refl (core : Core) : Steady core core where
  now := rfl
  ids := rfl
  instanceId := rfl
  drawn := le_rfl
  nextConn := rfl
  byPeerId := rfl
  roundRobin := .refl _
  client := rfl
  queries := rfl
  queryNotes := rfl
  arrivals := rfl
  owes := rfl
  trackers := le_rfl
  numbers := le_rfl
  posted := ⟨[], by simp⟩

theorem trans {first second third : Core} (one : Steady first second)
    (two : Steady second third) : Steady first third where
  now := two.now.trans one.now
  ids := two.ids.trans one.ids
  instanceId := two.instanceId.trans one.instanceId
  drawn := one.drawn.trans two.drawn
  nextConn := two.nextConn.trans one.nextConn
  byPeerId := two.byPeerId.trans one.byPeerId
  roundRobin := two.roundRobin.trans one.roundRobin
  client := two.client.trans one.client
  queries := two.queries.trans one.queries
  queryNotes := two.queryNotes.trans one.queryNotes
  arrivals := two.arrivals.trans one.arrivals
  owes := two.owes.trans one.owes
  trackers := one.trackers.trans two.trackers
  numbers := one.numbers.trans two.numbers
  posted := by
    obtain ⟨more, appended, none⟩ := one.posted
    obtain ⟨further, also, neither⟩ := two.posted
    refine ⟨more ++ further, by rw [also, appended, append_assoc], fun conn member => ?_⟩
    rcases mem_append.mp member with here | there
    · exact none conn here
    · exact neither conn there

end Steady

namespace Aloof

theorem refl (core : Core) : Aloof core core where
  toSteady := .refl core
  conns := rfl
  actions := rfl

theorem trans {first second third : Core} (one : Aloof first second)
    (two : Aloof second third) : Aloof first third where
  toSteady := one.toSteady.trans two.toSteady
  conns := two.conns.trans one.conns
  actions := two.actions.trans one.actions

end Aloof

namespace Silent

theorem refl (core : Core) : Silent core core where
  toAloof := .refl core
  outbox := .refl _
  batches := rfl
  placed := rfl
  marks := rfl
  watched := rfl
  dues := rfl

theorem trans {first second third : Core} (one : Silent first second)
    (two : Silent second third) : Silent first third where
  toAloof := one.toAloof.trans two.toAloof
  outbox := one.outbox.trans two.outbox
  batches := two.batches.trans one.batches
  placed := two.placed.trans one.placed
  marks := two.marks.trans one.marks
  watched := two.watched.trans one.watched
  dues := two.dues.trans one.dues

end Silent

namespace Apart

theorem refl (core : Core) : Apart core core := ⟨rfl, rfl, rfl⟩

theorem trans {first second third : Core} (one : Apart first second)
    (two : Apart second third) : Apart first third where
  confirmer := two.confirmer.trans one.confirmer
  batcher := two.batcher.trans one.batcher
  confirmNotes := two.confirmNotes.trans one.confirmNotes

end Apart

/-! ## Slots -/

inductive Keeper where
  | batches
  | confirmations
  | sends
  | drain
  | connect (id : Nat)
  | flush (id : Nat)

def Keeper.due : Keeper → Due
  | .batches => .batches
  | .confirmations => .confirmations
  | .sends => .sendsExpire
  | .drain => .drain
  | .connect id => .connectWait id
  | .flush id => .flushWait id

def Keeper.isThreaded : Keeper → Bool
  | .batches | .confirmations => false
  | _ => true

def Threaded.Slot (threaded : Threaded) : Keeper → TimerKey → Prop
  | .sends, key => threaded.expiryTimer = some key
  | .drain, key => threaded.drainTimer = some key
  | .connect id, key => ∃ waiter ∈ threaded.connects, waiter.id = id ∧ waiter.timer = some key
  | .flush id, key => ∃ wait ∈ threaded.flushWaits, wait.id = id ∧ wait.timer = some key
  | _, _ => False

def Core.Slot (core : Core) : Keeper → TimerKey → Prop
  | .batches, key => core.batcher.timer = some key
  | .confirmations, key => core.confirmer.timer = some key
  | keeper, key => core.threaded.Slot keeper key

/-! ## Shifts -/

/-- One change that leaves all that alone: of anything else, or of a timer kept apart from the
outbox and the connections. -/
inductive Shift (strict : Bool) : Core → Core → Prop
  | silent {core after} (same : Silent core after) (apart : strict = true → Apart core after)
      (timers : after.timers = core.timers)
      (slots : ∀ keeper key, after.Slot keeper key → core.Slot keeper key) : Shift strict core after
  | arm {core after} (deadline : Instant) (keeper : Keeper) (same : Silent core after)
      (apart : strict = true → Apart core after ∧ keeper.isThreaded = true)
      (timers : after.timers = core.timers.arm deadline keeper.due)
      (slots : ∀ each key, after.Slot each key →
        core.Slot each key ∨ each = keeper ∧ key = core.timers.nextKey + 1) :
      Shift strict core after
  | cancel {core} (keeper : Keeper) (key : TimerKey) (slot : core.Slot keeper key)
      (apart : strict = true → keeper.isThreaded = true) :
      Shift strict core { core with timers := core.timers.cancel (some key) }

abbrev Shifts (strict : Bool) : Core → Core → Prop := Relation.ReflTransGen (Shift strict)

instance (strict : Bool) : Std.Refl (Shifts strict) := ⟨fun _ => .refl⟩

instance (strict : Bool) : IsTrans Core (Shifts strict) := ⟨fun _ _ _ => .trans⟩

abbrev Shifting {α : Type} (strict : Bool) (program : Client α) : Prop :=
  Keeps (Shifts strict) program

/-! ## The commands every part is written with -/

section Commands

variable {strict : Bool}

theorem Shift.hush {core after : Core} (silent : Silent core after)
    (same : (after.confirmer, after.batcher, after.confirmNotes, after.timers, after.threaded) =
      (core.confirmer, core.batcher, core.confirmNotes, core.timers, core.threaded)) :
    Shift strict core after := by
  simp only [Prod.mk.injEq] at same
  obtain ⟨confirmer, batcher, confirmNotes, timers, threaded⟩ := same
  refine .silent silent (fun _ => ⟨confirmer, batcher, confirmNotes⟩) timers fun keeper key kept => ?_
  cases keeper <;> simpa only [Core.Slot, batcher, confirmer, threaded] using kept

theorem modifyOutbox_shifting {change : Outbox → Outbox}
    (same : ∀ outbox : Outbox, outbox.Same (change outbox)) : Shifting strict (modifyOutbox change) :=
  fun core => .single (.hush
    { Silent.refl core with numbers := (same core.outbox).numbers, outbox := same core.outbox } rfl)

theorem modifyBatcher_shifting {change : Batcher → Batcher}
    (batches : ∀ batcher, (change batcher).view = batcher.view)
    (slot : ∀ batcher, (change batcher).timer = batcher.timer ∨ (change batcher).timer = none) :
    Shifting false (modifyBatcher change) := by
  intro core
  refine .single (.silent { Silent.refl core with batches := batches core.batcher } nofun rfl ?_)
  intro keeper _ kept
  cases keeper with
  | batches =>
    rcases slot core.batcher with same | none
    · exact same.symm.trans kept
    · exact nomatch none.symm.trans kept
  | _ => exact kept

theorem modifyConfirmer_shifting {change : Confirmer → Confirmer}
    (owes : ∀ confirmer, (change confirmer).posted = confirmer.posted)
    (dues : ∀ confirmer, (change confirmer).dues = confirmer.dues)
    (slot : ∀ confirmer, (change confirmer).timer = confirmer.timer ∨ (change confirmer).timer = none) :
    Shifting false (modifyConfirmer change) := by
  intro core
  refine .single (.silent
    { Silent.refl core with owes := owes core.confirmer, dues := dues core.confirmer } nofun rfl ?_)
  intro keeper _ kept
  cases keeper with
  | confirmations =>
    rcases slot core.confirmer with same | none
    · exact same.symm.trans kept
    · exact nomatch none.symm.trans kept
  | _ => exact kept

theorem modifyConfirmer_steady {change : Confirmer → Confirmer}
    (same : (fun confirmer =>
        ((change confirmer).posted, (change confirmer).dues, (change confirmer).timer)) =
      fun confirmer => (confirmer.posted, confirmer.dues, confirmer.timer)) :
    Shifting false (modifyConfirmer change) := by
  simp only [funext_iff, Prod.mk.injEq] at same
  exact modifyConfirmer_shifting (fun confirmer => (same confirmer).1)
    (fun confirmer => (same confirmer).2.1) fun confirmer => .inl (same confirmer).2.2

theorem modifyThreaded_shifting {change : Threaded → Threaded}
    (slots : ∀ threaded keeper key, (change threaded).Slot keeper key → threaded.Slot keeper key) :
    Shifting strict (modifyThreaded change) := by
  intro core
  refine .single (.silent { Silent.refl core with } (fun _ => { Apart.refl core with }) rfl ?_)
  intro keeper key kept
  cases keeper with
  | batches | confirmations => exact kept
  | sends => exact slots core.threaded .sends key kept
  | drain => exact slots core.threaded .drain key kept
  | connect id => exact slots core.threaded (.connect id) key kept
  | flush id => exact slots core.threaded (.flush id) key kept

theorem modifyClient_shifting {change : ClientState → ClientState}
    (client : ∀ client, (change client).view = client.view) :
    Shifting strict (modifyClient change) :=
  fun core => .single (.hush { Silent.refl core with client := client core.client } rfl)

theorem post_shifting {posted : Posted} (other : ∀ conn, posted ≠ .connectFailed conn) :
    Shifting strict (post posted) :=
  fun core => .single (.hush
    { Silent.refl core with
      posted := ⟨[posted], rfl, fun conn member => other conn (mem_singleton.mp member).symm⟩ } rfl)

theorem note_shifting {taken : OutboxNote} (other : taken.isPlaced = false)
    (unmarked : taken.mark = none) : Shifting strict (note taken) :=
  fun core => .single (.hush
    { Silent.refl core with
      placed := filter_cons_of_neg (by simp [other])
      marks := filterMap_cons_none unmarked } rfl)

theorem noteConfirm_shifting {taken : ConfirmNote} (other : taken.isWatched = false) :
    Shifting false (noteConfirm taken) :=
  fun core => .single (.silent
    { Silent.refl core with watched := filter_cons_of_neg (by simp [other]) }
    nofun rfl fun _ _ kept => kept)

theorem call_shifting (made : Call) : Shifting strict (call made) :=
  fun core => .single (.hush { Silent.refl core with } rfl)

theorem random64_shifting : Shifting strict random64 :=
  fun core => .single (.hush { Silent.refl core with drawn := Nat.le_succ core.drawn } rfl)

theorem newTracker_shifting (state : SendState) : Shifting strict (newTracker state) :=
  fun core => .single (.hush
    { Silent.refl core with trackers := Nat.le_succ core.nextTracker } rfl)

theorem setTracker_shifting (tracker : TrackerId) (state : SendState) :
    Shifting strict (setTracker tracker state) :=
  fun core => .single (.hush { Silent.refl core with } rfl)

theorem trackerOrNew_shifting (frame : OutFrame) (tracker : Option TrackerId) :
    Shifting strict (trackerOrNew frame tracker) := by
  cases tracker with
  | some tracker => exact .pure tracker
  | none => exact .bind (newTracker_shifting _) fun _ => .bind (note_shifting rfl rfl) fun _ => .pure _

theorem newRecord_shifting : Shifting strict newRecord :=
  fun core => .single (.hush { Silent.refl core with } rfl)

theorem endRecord_shifting (record : RecordId) (sent : Bool) : Shifting strict (endRecord record sent) := by
  intro core
  change Shifts strict core (if core.recordStates record = .queued then _ else core)
  split
  · exact .single (.hush { Silent.refl core with } rfl)
  · exact .refl

theorem seededLane_shifting (connection : Wrapper) (pinned : Bool) :
    Shifting strict (seededLane connection pinned) :=
  fun core => .single (.hush { Silent.refl core with } rfl)

theorem newLane_shifting (pinned : Bool) : Shifting strict (newLane pinned) :=
  fun core => .single (.hush { Silent.refl core with } rfl)

theorem adopt_shifting (lane : LaneId) (connection : Wrapper) : Shifting strict (adopt lane connection) :=
  fun core => .single (.hush { Silent.refl core with } rfl)

end Commands

/-! ## Timers -/

section Timers

variable {strict : Bool}

variable {core : Core}

theorem cancelTimer_shifts {slot : Option TimerKey} (keeper : Keeper)
    (own : strict = true → keeper.isThreaded = true)
    (kept : ∀ key, slot = some key → core.Slot keeper key) :
    Shifts strict core ((cancelTimer slot).after core) := by
  cases slot with
  | none => exact .refl
  | some key => exact .single (.cancel keeper key (kept key rfl) own)

structure Stores (strict : Bool) (keeper : Keeper) (store : TimerKey → Client Unit) : Prop where
  same : ∀ core key, Silent core ((store key).after core)
  apart : strict = true → keeper.isThreaded = true ∧ ∀ core key, Apart core ((store key).after core)
  timers : ∀ core key, ((store key).after core).timers = core.timers
  slots : ∀ core key each other, ((store key).after core).Slot each other →
    core.Slot each other ∨ each = keeper ∧ other = key

theorem armTimer_shifts {deadline : Instant} {due : Due} {store : TimerKey → Client Unit}
    (keeper : Keeper) (is : keeper.due = due) (stores : Stores strict keeper store) :
    Shifts strict core ((armTimer deadline due >>= store).after core) := by
  subst is
  have armed : Silent core ((armTimer deadline keeper.due).after core) := { Silent.refl core with }
  have apart : Apart core ((armTimer deadline keeper.due).after core) := { Apart.refl core with }
  exact .single (.arm deadline keeper (armed.trans (stores.same _ _))
    (fun own => ⟨apart.trans ((stores.apart own).2 _ _), (stores.apart own).1⟩) (stores.timers _ _)
    (stores.slots ((armTimer deadline keeper.due).after core) _))

theorem rearmTimer_shifts {slot : Option TimerKey} {deadline : Instant} {due : Due}
    {store : TimerKey → Client Unit} (keeper : Keeper) (is : keeper.due = due)
    (kept : ∀ key, slot = some key → core.Slot keeper key) (stores : Stores strict keeper store) :
    Shifts strict core ((rearmTimer slot deadline due >>= store).after core) :=
  (cancelTimer_shifts keeper (fun own => (stores.apart own).1) kept).trans (armTimer_shifts keeper is stores)

theorem stores_batcher {change : TimerKey → Batcher → Batcher}
    (batches : ∀ key batcher, (change key batcher).view = batcher.view)
    (slot : ∀ key batcher, (change key batcher).timer = some key) :
    Stores false .batches fun key => modifyBatcher (change key) where
  same core key := { Silent.refl core with batches := batches key core.batcher }
  apart := nofun
  timers _ _ := rfl
  slots core key each _ kept := by
    cases each with
    | batches => exact .inr ⟨rfl, Option.some.inj (kept.symm.trans (slot key core.batcher))⟩
    | _ => exact .inl kept

theorem stores_confirmer {change : TimerKey → Confirmer → Confirmer}
    (owes : ∀ key confirmer, (change key confirmer).posted = confirmer.posted)
    (dues : ∀ key confirmer, (change key confirmer).dues = confirmer.dues)
    (slot : ∀ key confirmer, (change key confirmer).timer = some key) :
    Stores false .confirmations fun key => modifyConfirmer (change key) where
  same core key :=
    { Silent.refl core with owes := owes key core.confirmer, dues := dues key core.confirmer }
  apart := nofun
  timers _ _ := rfl
  slots core key each _ kept := by
    cases each with
    | confirmations => exact .inr ⟨rfl, Option.some.inj (kept.symm.trans (slot key core.confirmer))⟩
    | _ => exact .inl kept

theorem stores_threaded {keeper : Keeper} {change : TimerKey → Threaded → Threaded}
    (own : keeper.isThreaded = true)
    (slots : ∀ key threaded each other, (change key threaded).Slot each other →
      threaded.Slot each other ∨ each = keeper ∧ other = key) :
    Stores strict keeper fun key => modifyThreaded (change key) where
  same core key := { Silent.refl core with }
  apart _ := ⟨own, fun core key => { Apart.refl core with }⟩
  timers _ _ := rfl
  slots core key each other kept := by
    cases each with
    | batches | confirmations => exact .inl kept
    | sends => exact slots key core.threaded .sends other kept
    | drain => exact slots key core.threaded .drain other kept
    | connect id => exact slots key core.threaded (.connect id) other kept
    | flush id => exact slots key core.threaded (.flush id) other kept

end Timers

/-- A strict shift is a shift. -/
theorem Shift.loose {core after : Core} (shift : Shift true core after) : Shift false core after := by
  cases shift with
  | silent same _ timers slots => exact .silent same nofun timers slots
  | arm deadline keeper same _ timers slots => exact .arm deadline keeper same nofun timers slots
  | cancel keeper key slot => exact .cancel keeper key slot nofun

end Multiplexer
