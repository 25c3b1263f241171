import Multiplexer.Io.Inbox

/-! No wakeup is lost on the way to a sleeping io thread, one push is told to wake it, and what
was pushed is taken once and in order, in every interleaving of the threads' atomic steps. -/

set_option autoImplicit false

namespace Multiplexer.Inbox

open List Option Function

variable {Thread Posted Confirmation : Type} [DecidableEq Thread]
variable {inbox after : Inbox Thread Posted Confirmation}

/-! ## What a step does -/

inductive Turn (inbox : Inbox Thread Posted Confirmation) : Inbox Thread Posted Confirmation → Prop where
  | looked : Turn inbox inbox
  | push (thread : Thread) (handed : Handed Posted Confirmation) (away : inbox.pushers thread = .away) :
      Turn inbox
        { inbox.place thread (.locking handed) with
          calls := update inbox.calls thread (inbox.calls thread ++ [handed]) }
  | lock (thread : Thread) (handed : Handed Posted Confirmation)
      (locking : inbox.pushers thread = .locking handed) (free : inbox.holder = none) :
      Turn inbox { inbox.place thread (.locked handed) with holder := some (.pusher thread) }
  | queue (thread : Thread) (handed : Handed Posted Confirmation)
      (locked : inbox.pushers thread = .locked handed) :
      Turn inbox
        { (inbox.place thread .queued).pushBack handed with
          pushed := inbox.pushed ++ [(thread, handed)] }
  | store (thread : Thread) (queued : inbox.pushers thread = .queued) :
      Turn inbox { inbox.place thread .stored with pending := true }
  | unlock (thread : Thread) (stored : inbox.pushers thread = .stored) :
      Turn inbox { inbox.place thread .looking with holder := none }
  | look (thread : Thread) (looking : inbox.pushers thread = .looking)
      (asleep : inbox.asleep = true) : Turn inbox (inbox.place thread .swapping)
  | lookAwake (thread : Thread) (looking : inbox.pushers thread = .looking)
      (awake : inbox.asleep = false) : Turn inbox (inbox.answer thread false)
  | swap (thread : Thread) (swapping : inbox.pushers thread = .swapping) :
      Turn inbox { inbox.answer thread inbox.asleep with asleep := false }
  | begin (running : inbox.io = .running) (next : IoThread Posted Confirmation)
      (locking : next = .takeLocking ∨ next = .confirmationsLocking) :
      Turn inbox { inbox with io := next }
  | ioLock (free : inbox.holder = none) (next : IoThread Posted Confirmation)
      (locks : inbox.io = .takeLocking ∧ next = .takeLocked ∨
        inbox.io = .confirmationsLocking ∧ next = .confirmationsLocked) :
      Turn inbox { inbox with holder := some .io, io := next }
  | clear (locked : inbox.io = .takeLocked) : Turn inbox { inbox with pending := false, io := .takeCleared }
  | takePosted (cleared : inbox.io = .takeCleared) :
      Turn inbox { inbox with posted := [], io := .takeSwapped inbox.posted }
  | takeConfirmations (taken : List Posted)
      (locked : inbox.io = .takeSwapped taken ∨ inbox.io = .confirmationsLocked ∧ taken = []) :
      Turn inbox { inbox with confirmations := [], io := .unlocking taken inbox.confirmations }
  | ioUnlock (taken : List Posted) (confirmations : List Confirmation)
      (unlocking : inbox.io = .unlocking taken confirmations) :
      Turn inbox
        { inbox with
          holder := none
          io := .running
          given := inbox.given ++ taken
          confirmed := inbox.confirmed ++ confirmations }
  | fallAsleep (running : inbox.io = .running) :
      Turn inbox { inbox with asleep := true, io := .fallingAsleep, answers := [] }
  | stayAwake (falling : inbox.io = .fallingAsleep) (pending : inbox.pending = true) :
      Turn inbox { inbox with io := .fallingBack }
  | sleep (falling : inbox.io = .fallingAsleep) (nothing : inbox.pending = false) :
      Turn inbox { inbox with io := .asleep }
  | wakeUp (wakes : inbox.io = .fallingBack ∨ inbox.io = .asleep) :
      Turn inbox { inbox with asleep := false, io := .running }

theorem pushOn_turn {thread : Thread} (ran : inbox.pushOn thread = some after) :
    Turn inbox after := by
  unfold pushOn at ran
  split at ran
  · cases ran
  · rename_i handed locking
    split at ran
    · rename_i free
      cases ran
      exact .lock thread handed locking free
    · cases ran
  · rename_i handed locked
    cases ran
    exact .queue thread handed locked
  · rename_i queued
    cases ran
    exact .store thread queued
  · rename_i stored
    cases ran
    exact .unlock thread stored
  · rename_i looking
    split at ran
    · rename_i asleep
      cases ran
      exact .look thread looking asleep
    · rename_i awake
      cases ran
      exact .lookAwake thread looking (Bool.not_eq_true _ ▸ awake)
  · rename_i swapping
    cases ran
    exact .swap thread swapping

theorem ioOn_turn (ran : inbox.ioOn = some after) : Turn inbox after := by
  unfold ioOn at ran
  split at ran
  · cases ran
  · rename_i locking
    split at ran
    · rename_i free
      cases ran
      exact .ioLock free _ (.inl ⟨locking, rfl⟩)
    · cases ran
  · rename_i locked
    cases ran
    exact .clear locked
  · rename_i cleared
    cases ran
    exact .takePosted cleared
  · rename_i taken swapped
    cases ran
    exact .takeConfirmations taken (.inl swapped)
  · rename_i locking
    split at ran
    · rename_i free
      cases ran
      exact .ioLock free _ (.inr ⟨locking, rfl⟩)
    · cases ran
  · rename_i locked
    cases ran
    exact .takeConfirmations [] (.inr ⟨locked, rfl⟩)
  · rename_i taken confirmations unlocking
    cases ran
    exact .ioUnlock taken confirmations unlocking
  · rename_i falling
    cases ran
    by_cases pending : inbox.pending = true
    · rw [if_pos pending]
      exact .stayAwake falling pending
    · rw [if_neg pending]
      exact .sleep falling (Bool.not_eq_true _ ▸ pending)
  · rename_i falling
    cases ran
    exact .wakeUp (.inl falling)
  · cases ran

theorem act_turn {step : Step Thread Posted Confirmation} (acted : inbox.act step = some after) :
    Turn inbox after := by
  cases step with
  | push thread handed =>
    simp only [act] at acted
    split at acted
    · rename_i away
      cases acted
      exact .push thread handed away
    · cases acted
  | pushOn => exact pushOn_turn acted
  | take spent =>
    simp only [act] at acted
    split at acted
    · rename_i running
      split at acted
      · cases acted
        exact .looked
      · cases acted
        exact .begin running _ (.inl rfl)
    · cases acted
  | takeConfirmations =>
    simp only [act] at acted
    split at acted
    · rename_i running
      split at acted
      · cases acted
        exact .looked
      · cases acted
        exact .begin running _ (.inr rfl)
    · cases acted
  | fallAsleep =>
    simp only [act] at acted
    split at acted
    · rename_i running
      cases acted
      exact .fallAsleep running
    · cases acted
  | wakeUp =>
    simp only [act] at acted
    split at acted
    · rename_i asleep
      cases acted
      exact .wakeUp (.inr asleep)
    · cases acted
  | ioOn => exact ioOn_turn acted

/-! ## The flags -/

def told (inbox : Inbox Thread Posted Confirmation) : List (Thread × Bool) :=
  inbox.answers.filter Prod.snd

structure Watched (inbox : Inbox Thread Posted Confirmation) : Prop where
  awake : inbox.io.sleeps = false → inbox.asleep = false
  unheard : inbox.asleep = true → inbox.told = []
  one : inbox.told.length ≤ 1
  heard : inbox.io.sleeps = true → inbox.asleep = false → inbox.told ≠ []

namespace Watched

omit [DecidableEq Thread] in
theorem move (watched : Watched inbox) (sleeps : after.io.sleeps = inbox.io.sleeps)
    (asleep : after.asleep = inbox.asleep) (told : after.told = inbox.told) : Watched after := by
  obtain ⟨_, _, _, _⟩ := watched
  constructor
  · rwa [sleeps, asleep]
  · rwa [asleep, told]
  · rwa [told]
  · rwa [sleeps, asleep, told]

theorem turn (watched : Watched inbox) (turn : Turn inbox after) : Watched after := by
  cases turn with
  | looked => exact watched
  | push thread handed away | lock thread handed locking free | queue thread handed locked
  | store thread queued | unlock thread stored | look thread looking asleep =>
    exact watched.move rfl rfl rfl
  | lookAwake =>
    refine watched.move rfl rfl ?_
    simp [told, answer]
  | swap thread =>
    obtain ⟨_, unheard, _, heard⟩ := watched
    cases asleep : inbox.asleep with
    | true =>
      have told : told { inbox.answer thread true with asleep := false } = [(thread, true)] := by
        have none_ := unheard asleep
        simp_all [told, answer]
      constructor
      · exact fun _ => rfl
      · nofun
      · rw [told]
        exact Nat.le_refl 1
      · intro _ _
        rw [told]
        exact cons_ne_nil _ _
    | false =>
      have told : told { inbox.answer thread false with asleep := false } = inbox.told := by
        simp [told, answer]
      constructor
      · exact fun _ => rfl
      · nofun
      · rwa [told]
      · intro sleeps _
        rw [told]
        exact heard sleeps asleep
  | begin running _ locking =>
    refine watched.move ?_ rfl rfl
    obtain rfl | rfl := locking
    · rw [running]
      rfl
    · rw [running]
      rfl
  | ioLock _ _ locks =>
    refine watched.move ?_ rfl rfl
    obtain ⟨was, rfl⟩ | ⟨was, rfl⟩ := locks
    · rw [was]
      rfl
    · rw [was]
      rfl
  | clear locked =>
    refine watched.move ?_ rfl rfl
    rw [locked]
    rfl
  | takePosted cleared =>
    refine watched.move ?_ rfl rfl
    rw [cleared]
    rfl
  | takeConfirmations _ locked =>
    refine watched.move ?_ rfl rfl
    obtain locked | ⟨locked, -⟩ := locked
    · rw [locked]
      rfl
    · rw [locked]
      rfl
  | ioUnlock _ _ unlocking =>
    refine watched.move ?_ rfl rfl
    rw [unlocking]
    rfl
  | fallAsleep =>
    constructor
    · nofun
    · exact fun _ => rfl
    · exact Nat.zero_le 1
    · nofun
  | stayAwake falling pending | sleep falling nothing =>
    refine watched.move ?_ rfl rfl
    rw [falling]
    rfl
  | wakeUp =>
    constructor
    · exact fun _ => rfl
    · nofun
    · exact watched.one
    · nofun

end Watched

def Queued (inbox : Inbox Thread Posted Confirmation) : Prop :=
  inbox.posted ≠ [] ∨ inbox.confirmations ≠ []

/-- What is queued shows in `pending`, but for a push that has not stored it yet and a take
that has not swapped yet. -/
def Shown (inbox : Inbox Thread Posted Confirmation) : Prop :=
  inbox.pending = false → inbox.Queued →
    (∃ thread, inbox.pushers thread = .queued) ∨ inbox.io = .takeCleared ∨
      (∃ taken, inbox.io = .takeSwapped taken) ∧ inbox.posted = []

namespace Shown

theorem place {thread : Thread} {pusher : Pusher Posted Confirmation} (shown : Shown inbox)
    (before : inbox.pushers thread ≠ .queued)
    (pushers : after.pushers = update inbox.pushers thread pusher)
    (pending : after.pending = inbox.pending) (posted : after.posted = inbox.posted)
    (confirmations : after.confirmations = inbox.confirmations) (io : after.io = inbox.io) :
    Shown after := by
  intro hidden queued
  rw [Queued, posted, confirmations] at queued
  obtain ⟨other, isQueued⟩ | takes := shown (pending ▸ hidden) queued
  · refine .inl ⟨other, ?_⟩
    rw [pushers, update_of_ne]
    · exact isQueued
    · rintro rfl
      exact before isQueued
  · rw [io, posted]
    exact .inr takes

omit [DecidableEq Thread] in
theorem move (shown : Shown inbox) (swaps : inbox.io ≠ .takeCleared)
    (swapped : ∀ taken, inbox.io ≠ .takeSwapped taken)
    (pushers : after.pushers = inbox.pushers) (pending : after.pending = inbox.pending)
    (queued : after.Queued → inbox.Queued) : Shown after := by
  intro hidden isQueued
  obtain waits | takes | ⟨⟨taken, takes⟩, -⟩ := shown (pending ▸ hidden) (queued isQueued)
  · rw [pushers]
    exact .inl waits
  · exact absurd takes swaps
  · exact absurd takes (swapped taken)

theorem turn (shown : Shown inbox) (turn : Turn inbox after) : Shown after := by
  cases turn with
  | looked => exact shown
  | push _ _ away =>
    refine shown.place ?_ rfl rfl rfl rfl rfl
    rw [away]
    nofun
  | lock _ _ locking =>
    refine shown.place ?_ rfl rfl rfl rfl rfl
    rw [locking]
    nofun
  | queue thread => exact fun _ _ => .inl ⟨thread, update_self ..⟩
  | store => nofun
  | unlock _ stored =>
    refine shown.place ?_ rfl rfl rfl rfl rfl
    rw [stored]
    nofun
  | look thread looking asleep | lookAwake thread looking awake =>
    refine shown.place ?_ rfl rfl rfl rfl rfl
    rw [looking]
    nofun
  | swap _ swapping =>
    refine shown.place ?_ rfl rfl rfl rfl rfl
    rw [swapping]
    nofun
  | begin running | fallAsleep running =>
    exact shown.move (by simp [running]) (by simp [running]) rfl rfl id
  | ioLock _ _ locks =>
    obtain ⟨was, -⟩ | ⟨was, -⟩ := locks
    · exact shown.move (by simp [was]) (by simp [was]) rfl rfl id
    · exact shown.move (by simp [was]) (by simp [was]) rfl rfl id
  | clear => exact fun _ _ => .inr (.inl rfl)
  | takePosted => exact fun _ _ => .inr (.inr ⟨⟨_, rfl⟩, rfl⟩)
  | takeConfirmations _ locked =>
    intro hidden queued
    obtain queued | none_ := queued
    · obtain waits | takes | ⟨-, nothing⟩ := shown hidden (.inl queued)
      · exact .inl waits
      · simp [takes] at locked
      · exact absurd nothing queued
    · exact absurd rfl none_
  | ioUnlock _ _ unlocking =>
    exact shown.move (by simp [unlocking]) (by simp [unlocking]) rfl rfl id
  | stayAwake falling =>
    exact shown.move (by simp [falling]) (by simp [falling]) rfl rfl id
  | sleep falling => exact shown.move (by simp [falling]) (by simp [falling]) rfl rfl id
  | wakeUp wakes =>
    obtain was | was := wakes
    · exact shown.move (by simp [was]) (by simp [was]) rfl rfl id
    · exact shown.move (by simp [was]) (by simp [was]) rfl rfl id

end Shown

def Heeded (inbox : Inbox Thread Posted Confirmation) : Prop :=
  inbox.io = .asleep → inbox.Queued → inbox.asleep = true →
    ∃ thread, (inbox.pushers thread).underWay = true

namespace Heeded

theorem place {thread : Thread} {pusher : Pusher Posted Confirmation} (heeded : Heeded inbox)
    (stays : (inbox.pushers thread).underWay = true → pusher.underWay = true)
    (pushers : after.pushers = update inbox.pushers thread pusher)
    (asleep : after.asleep = inbox.asleep) (posted : after.posted = inbox.posted)
    (confirmations : after.confirmations = inbox.confirmations) (io : after.io = inbox.io) :
    Heeded after := by
  intro sleeps queued unheard
  rw [Queued, posted, confirmations] at queued
  obtain ⟨other, underWay⟩ := heeded (io ▸ sleeps) queued (asleep ▸ unheard)
  refine ⟨other, ?_⟩
  rw [pushers]
  by_cases is : other = thread
  · subst is
    rw [update_self]
    exact stays underWay
  · rw [update_of_ne is]
    exact underWay

theorem turn (heeded : Heeded inbox) (shown : Shown inbox) (turn : Turn inbox after) :
    Heeded after := by
  cases turn with
  | looked => exact heeded
  | push _ _ away =>
    refine heeded.place ?_ rfl rfl rfl rfl rfl
    rw [away]
    nofun
  | lock _ _ locking =>
    refine heeded.place ?_ rfl rfl rfl rfl rfl
    rw [locking]
    nofun
  | queue thread =>
    intro _ _ _
    refine ⟨thread, ?_⟩
    simp [pushBack, Inbox.place, Pusher.underWay]
  | store thread queued | unlock thread stored | look thread looking asleep =>
    exact heeded.place (fun _ => rfl) rfl rfl rfl rfl rfl
  | lookAwake _ _ awake =>
    intro _ _ asleep
    rw [← Bool.not_eq_true] at awake
    exact absurd asleep awake
  | swap | wakeUp => nofun
  | begin _ _ locking =>
    rintro rfl
    simp at locking
  | ioLock _ _ locks =>
    rintro rfl
    simp at locks
  | clear locked | takePosted cleared | takeConfirmations taken locked
  | ioUnlock taken confirmations unlocking | fallAsleep running | stayAwake falling pending => nofun
  | sleep falling nothing =>
    -- nothing pending: what is queued is of a push that has not stored it yet
    intro _ queued _
    obtain ⟨thread, waits⟩ | takes | ⟨⟨_, takes⟩, -⟩ := shown nothing queued
    · refine ⟨thread, ?_⟩
      simp [waits, Pusher.underWay]
    · simp [falling] at takes
    · simp [falling] at takes

end Heeded

/-! ## Order -/

/-- What was queued, in the order of the lock, is what the takes gave, then what the one under way
swapped out, then what is queued. -/
structure Ordered (inbox : Inbox Thread Posted Confirmation) : Prop where
  posted : inbox.given ++ inbox.io.taken ++ inbox.posted = inbox.pushed.filterMap (·.2.posted?)
  confirmations : inbox.confirmed ++ inbox.io.confirmations ++ inbox.confirmations =
    inbox.pushed.filterMap (·.2.confirmation?)
  calls : ∀ thread, (inbox.pushed.filter (·.1 = thread)).map Prod.snd ++
    (inbox.pushers thread).unqueued = inbox.calls thread

namespace Ordered

theorem place {thread : Thread} {pusher : Pusher Posted Confirmation} (ordered : Ordered inbox)
    (same : pusher.unqueued = (inbox.pushers thread).unqueued)
    (pushers : after.pushers = update inbox.pushers thread pusher)
    (pushed : after.pushed = inbox.pushed) (calls : after.calls = inbox.calls)
    (posted : after.posted = inbox.posted)
    (confirmations : after.confirmations = inbox.confirmations) (io : after.io = inbox.io)
    (given : after.given = inbox.given) (confirmed : after.confirmed = inbox.confirmed) :
    Ordered after := by
  constructor
  · rw [given, io, posted, pushed]
    exact ordered.posted
  · rw [confirmed, io, confirmations, pushed]
    exact ordered.confirmations
  · intro other
    rw [pushed, calls, pushers, ← ordered.calls other]
    by_cases is : other = thread
    · subst is
      rw [update_self, same]
    · rw [update_of_ne is]

theorem move {next : IoThread Posted Confirmation} (ordered : Ordered inbox)
    (taken : next.taken = inbox.io.taken)
    (confirmations : next.confirmations = inbox.io.confirmations) (pending asleep : Bool)
    (holder : Option (Holder Thread)) (answers : List (Thread × Bool)) :
    Ordered { inbox with io := next, pending, asleep, holder, answers } := by
  constructor
  · dsimp only
    rw [taken]
    exact ordered.posted
  · dsimp only
    rw [confirmations]
    exact ordered.confirmations
  · exact ordered.calls

theorem turn (ordered : Ordered inbox) (turn : Turn inbox after) : Ordered after := by
  cases turn with
  | looked => exact ordered
  | push thread _ away =>
    constructor
    · exact ordered.posted
    · exact ordered.confirmations
    · intro other
      by_cases is : other = thread
      · subst is
        have before := ordered.calls other
        rw [away] at before
        simp only [Pusher.unqueued, append_nil] at before
        simp [Inbox.place, Pusher.unqueued, before]
      · have before := ordered.calls other
        simpa [Inbox.place, update_of_ne is] using before
  | lock _ _ locking =>
    refine ordered.place ?_ rfl rfl rfl rfl rfl rfl rfl rfl
    rw [locking]
    rfl
  | queue thread handed locked =>
    constructor
    · have before := ordered.posted
      simp only [pushBack, Inbox.place, filterMap_append, ← before, append_assoc]
      cases handed <;> rfl
    · have before := ordered.confirmations
      simp only [pushBack, Inbox.place, filterMap_append, ← before, append_assoc]
      cases handed <;> rfl
    · intro other
      have before := ordered.calls other
      by_cases is : other = thread
      · subst is
        rw [locked] at before
        simpa [pushBack, Inbox.place, Pusher.unqueued] using before
      · simpa [pushBack, Inbox.place, update_of_ne is, Ne.symm is] using before
  | store _ queued =>
    refine ordered.place ?_ rfl rfl rfl rfl rfl rfl rfl rfl
    rw [queued]
    rfl
  | unlock _ stored =>
    refine ordered.place ?_ rfl rfl rfl rfl rfl rfl rfl rfl
    rw [stored]
    rfl
  | look thread looking asleep | lookAwake thread looking awake =>
    refine ordered.place ?_ rfl rfl rfl rfl rfl rfl rfl rfl
    rw [looking]
    rfl
  | swap _ swapping =>
    refine ordered.place ?_ rfl rfl rfl rfl rfl rfl rfl rfl
    rw [swapping]
    rfl
  | begin running _ locking =>
    obtain rfl | rfl := locking
    · exact ordered.move (by rw [running]; rfl) (by rw [running]; rfl) _ _ _ _
    · exact ordered.move (by rw [running]; rfl) (by rw [running]; rfl) _ _ _ _
  | ioLock _ _ locks =>
    obtain ⟨was, rfl⟩ | ⟨was, rfl⟩ := locks
    · exact ordered.move (by rw [was]; rfl) (by rw [was]; rfl) _ _ _ _
    · exact ordered.move (by rw [was]; rfl) (by rw [was]; rfl) _ _ _ _
  | clear locked => exact ordered.move (by rw [locked]; rfl) (by rw [locked]; rfl) _ _ _ _
  | takePosted cleared =>
    have posted := ordered.posted
    have confirmations := ordered.confirmations
    rw [cleared] at posted confirmations
    simp only [IoThread.taken, IoThread.confirmations, append_nil] at posted confirmations
    constructor
    · simpa [IoThread.taken] using posted
    · simpa [IoThread.confirmations] using confirmations
    · exact ordered.calls
  | takeConfirmations taken locked =>
    have posted := ordered.posted
    have confirmations := ordered.confirmations
    have isTaken : inbox.io.taken = taken ∧ inbox.io.confirmations = [] := by
      obtain locked | ⟨locked, rfl⟩ := locked
      · rw [locked]
        exact ⟨rfl, rfl⟩
      · rw [locked]
        exact ⟨rfl, rfl⟩
    rw [isTaken.1] at posted
    rw [isTaken.2, append_nil] at confirmations
    constructor
    · exact posted
    · simpa [IoThread.confirmations] using confirmations
    · exact ordered.calls
  | ioUnlock _ _ unlocking =>
    have posted := ordered.posted
    have confirmed := ordered.confirmations
    rw [unlocking] at posted confirmed
    constructor
    · simpa [IoThread.taken] using posted
    · simpa [IoThread.confirmations] using confirmed
    · exact ordered.calls
  | fallAsleep running =>
    exact ordered.move (by rw [running]; rfl) (by rw [running]; rfl) _ _ _ _
  | stayAwake falling pending | sleep falling nothing =>
    exact ordered.move (by rw [falling]; rfl) (by rw [falling]; rfl) _ _ _ _
  | wakeUp wakes =>
    obtain was | was := wakes
    · exact ordered.move (by rw [was]; rfl) (by rw [was]; rfl) _ _ _ _
    · exact ordered.move (by rw [was]; rfl) (by rw [was]; rfl) _ _ _ _

end Ordered

/-! ## Runs -/

structure Sound (inbox : Inbox Thread Posted Confirmation) : Prop where
  watched : Watched inbox
  shown : Shown inbox
  heeded : Heeded inbox
  ordered : Ordered inbox

theorem sound_start : Sound ({} : Inbox Thread Posted Confirmation) where
  watched := ⟨fun _ => rfl, nofun, Nat.zero_le 1, nofun⟩
  shown := by simp [Shown, Queued]
  heeded := nofun
  ordered := ⟨rfl, rfl, fun _ => rfl⟩

theorem Sound.act {step : Step Thread Posted Confirmation} (sound : Sound inbox)
    (acted : inbox.act step = some after) : Sound after where
  watched := sound.watched.turn (act_turn acted)
  shown := sound.shown.turn (act_turn acted)
  heeded := sound.heeded.turn sound.shown (act_turn acted)
  ordered := sound.ordered.turn (act_turn acted)

theorem Sound.run {steps : List (Step Thread Posted Confirmation)} (sound : Sound inbox)
    (ran : run steps inbox = some after) : Sound after := by
  induction steps generalizing inbox with
  | nil =>
    cases ran
    exact sound
  | cons _ _ ih =>
    obtain ⟨_, acted, ran⟩ := bind_eq_some_iff.mp ran
    exact ih (sound.act acted) ran

/-- In every interleaving: while the io thread sleeps with something queued, one pusher was told
to wake it or is about to be, and no two in one sleep. What the takes gave is what was pushed,
each once, in the order of the lock, which keeps each thread's own. -/
theorem inbox_loses_nothing {steps : List (Step Thread Posted Confirmation)}
    (ran : run steps {} = some inbox) : (inbox.io = .asleep → inbox.Queued →
      (∃ thread, (thread, true) ∈ inbox.answers) ∨
        inbox.asleep = true ∧ ∃ thread, (inbox.pushers thread).underWay = true) ∧
      (inbox.io = .asleep → inbox.Queued → (∀ thread, (inbox.pushers thread).underWay = false) →
          ∃ thread, (thread, true) ∈ inbox.answers) ∧
      (inbox.answers.filter Prod.snd).length ≤ 1 ∧
      inbox.given ++ inbox.io.taken ++ inbox.posted = inbox.pushed.filterMap (·.2.posted?) ∧
      inbox.confirmed ++ inbox.io.confirmations ++ inbox.confirmations =
        inbox.pushed.filterMap (·.2.confirmation?) ∧
      ∀ thread, (inbox.pushed.filter (·.1 = thread)).map Prod.snd ++
        (inbox.pushers thread).unqueued = inbox.calls thread := by
  have sound := sound_start.run ran
  have wakes (sleeps : inbox.io = .asleep) (queued : inbox.Queued) : (∃ thread, (thread, true) ∈ inbox.answers) ∨
        inbox.asleep = true ∧ ∃ thread, (inbox.pushers thread).underWay = true := by
    cases asleep : inbox.asleep with
    | true => exact .inr ⟨rfl, sound.heeded sleeps queued asleep⟩
    | false =>
      have heard := sound.watched.heard (by rw [sleeps]; rfl) asleep
      obtain ⟨⟨thread, told⟩, member⟩ := exists_mem_of_ne_nil _ heard
      obtain ⟨member, isTold⟩ := mem_filter.mp member
      cases isTold
      exact .inl ⟨thread, member⟩
  refine ⟨wakes, ?_, sound.watched.one, sound.ordered.posted, sound.ordered.confirmations, sound.ordered.calls⟩
  intro sleeps queued none_
  obtain told | ⟨-, thread, underWay⟩ := wakes sleeps queued
  · exact told
  · cases (none_ thread).symm.trans underWay

def wakesSleeper : List (Step Nat Nat Nat) :=
  [.fallAsleep, .ioOn, .push 0 (.posted 7)] ++ replicate 6 (.pushOn 0)

theorem wakesSleeper_shows : (run wakesSleeper {}).map (fun inbox =>
        (inbox.io, inbox.posted, inbox.pushers 0, inbox.answers)) =
      some (.asleep, [7], .away, [(0, true)]) := by
  decide

theorem inbox_loses_nothing_wakesSleeper :
    ∃ inbox, run wakesSleeper {} = some inbox ∧ inbox.io = .asleep ∧ inbox.Queued ∧
      inbox.given ++ inbox.io.taken ++ inbox.posted = inbox.pushed.filterMap (·.2.posted?) ∧
      ((∃ thread, (thread, true) ∈ inbox.answers) ∨
        inbox.asleep = true ∧ ∃ thread, (inbox.pushers thread).underWay = true) := by
  obtain ⟨inbox, ran, shows⟩ := map_eq_some_iff.mp wakesSleeper_shows
  simp only [Prod.mk.injEq] at shows
  obtain ⟨io, posted, -, -⟩ := shows
  have queued : inbox.Queued := .inl (by simp [posted])
  have holds := inbox_loses_nothing ran
  exact ⟨inbox, ran, io, queued, holds.2.2.2.1, holds.1 io queued⟩

/-- Between a push's queueing and its look, no pusher was told anything. -/
theorem push_queued_unheard : (run [.fallAsleep, .ioOn, .push 0 (.posted 7), .pushOn 0, .pushOn 0]
        ({} : Inbox Nat Nat Nat)).map (fun inbox => (inbox.io, inbox.posted, inbox.answers)) =
      some (.asleep, [7], []) := by
  decide

end Multiplexer.Inbox
