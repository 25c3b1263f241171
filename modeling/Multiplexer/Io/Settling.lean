import Multiplexer.Io.SharedOrder

/-! The frame under way when a shared connection ends: a take sets it aside, and the end of
the write that had it settles it. -/

set_option autoImplicit false

namespace Multiplexer.SharedOutgoing

open List Option

variable {Entry Thread : Type}

namespace World

/-! ## What the takes set aside, and what the writers were told -/

def asides (log : List (Note (Ticketed Entry) Thread)) : List (Ticketed Entry × Party Thread) :=
  log.filterMap fun
    | .took aside => aside
    | .told .. => none

def settlements (log : List (Note (Ticketed Entry) Thread)) : List (Party Thread × Ending) :=
  log.filterMap fun
    | .told party .written _ => some (party, .written)
    | .told party .lost _ => some (party, .lost)
    | _ => none

def Busy (world : World Entry Thread) : Party Thread → Prop
  | .thread thread => world.phase thread ≠ .idle
  | .own => world.own ≠ .idle

def settledAs (whole : Bool) : Ending := if whole then .written else .lost

variable {log : List (Note (Ticketed Entry) Thread)}

@[simp] theorem asides_append (first second : List (Note (Ticketed Entry) Thread)) :
    asides (first ++ second) = asides first ++ asides second := filterMap_append

@[simp] theorem settlements_append (first second : List (Note (Ticketed Entry) Thread)) :
    settlements (first ++ second) = settlements first ++ settlements second :=
  filterMap_append

@[simp] theorem asides_told (party : Party Thread) (ending : Ending) (ended : Bool) :
    asides ([.told party ending ended] : List (Note (Ticketed Entry) Thread)) = [] := rfl

@[simp] theorem asides_took (aside : Option (Ticketed Entry × Party Thread)) :
    asides [.took aside] = aside.toList := by
  cases aside <;> rfl

@[simp] theorem settlements_took (aside : Option (Ticketed Entry × Party Thread)) :
    settlements [.took aside] = [] := rfl

theorem settlements_told {party : Party Thread} {ending : Ending} {ended : Bool}
    (notWritten : ending ≠ .written) (notLost : ending ≠ .lost) :
    settlements ([.told party ending ended] : List (Note (Ticketed Entry) Thread)) = [] := by
  cases ending <;> first | rfl | contradiction

@[simp] theorem settlements_settledAs (party : Party Thread) (whole ended : Bool) :
    settlements ([.told party (settledAs whole) ended] : List (Note (Ticketed Entry) Thread)) =
      [(party, settledAs whole)] := by
  cases whole <;> rfl

/-- Whether a note may follow those before it. -/
def Fits (before : List (Note (Ticketed Entry) Thread)) : Note (Ticketed Entry) Thread → Prop
  | .took (some _) => settlements before = []
  | .told _ ending true => ending = .gone ∨ ending = .written ∨ ending = .lost
  | _ => True

def Orderly (log : List (Note (Ticketed Entry) Thread)) : Prop :=
  ∀ before note after, log = before ++ note :: after → Fits before note

theorem Orderly.snoc {note : Note (Ticketed Entry) Thread} (orderly : Orderly log)
    (fits : Fits log note) : Orderly (log ++ [note]) := by
  intro before other after split
  rcases eq_nil_or_concat after with rfl | ⟨front, last, rfl⟩
  · obtain ⟨rfl, same⟩ := append_inj' split rfl
    cases same
    exact fits
  · rw [concat_eq_append, ← cons_append, ← append_assoc] at split
    exact orderly before other front (append_inj' split rfl).1

variable {toRaw : Entry → RawMessage} {world after : World Entry Thread} {progress : Nat}

/-! ## The front is never written whole before its turn -/

variable (toRaw) in
def Short (world : World Entry Thread) : Prop :=
  ∀ front rest, world.shared.queue = front :: rest →
    world.shared.frontWritten < (toRaw front.entry).size

theorem Short.same (short : Short toRaw world) (queue : after.shared.queue = world.shared.queue)
    (offset : after.shared.frontWritten = world.shared.frontWritten) : Short toRaw after := by
  intro front rest shows
  rw [offset]
  exact short front rest (queue ▸ shows)

theorem Short.start (offset : world.shared.frontWritten = 0) : Short toRaw world := by
  intro front rest shows
  rw [offset]
  exact RawMessage.size_pos _

theorem ownerNext_offset (shared : SharedOutgoing Entry Thread) :
    shared.ownerNext.2.frontWritten = shared.frontWritten := by
  unfold ownerNext
  split
  · rfl
  · cases shared.queue <;> rfl

/-! ## Who settles -/

structure Clean (world : World Entry Thread) : Prop where
  settler : world.shared.settler = none
  ownerSettles : world.shared.ownerSettles = false
  aside : world.aside = []
  settles : world.settles = []
  settled : world.settled = []
  noAsides : asides world.log = []
  noSettlements : settlements world.log = []

variable (toRaw) in
inductive Owed (world : World Entry Thread) (front : Ticketed Entry) : Party Thread → Prop where
  | thread (thread : Thread) (offset progress : Nat) (settler : world.shared.settler = some thread)
      (ownerSettles : world.shared.ownerSettles = false)
      (short : offset < (toRaw front.entry).size)
      (through : Through front offset progress (world.phase thread))
      (others : ∀ other, other ≠ thread → world.phase other = .idle) (own : world.own = .idle)
      (within : progress ≤ (toRaw front.entry).size)
      (written : world.socket = bytesOf toRaw world.popped ++ (toRaw front.entry).bytes.take progress) :
      Owed world front (.thread thread)
  | own (offset transferred : Nat) (settler : world.shared.settler = none)
      (ownerSettles : world.shared.ownerSettles = true)
      (ownerWrites : world.shared.ownerWrites = true)
      (idle : ∀ thread, world.phase thread = .idle)
      (own : world.own = .writing front offset transferred)
      (within : offset + transferred ≤ (toRaw front.entry).size)
      (written : world.socket =
        bytesOf toRaw world.popped ++ (toRaw front.entry).bytes.take (offset + transferred)) :
      Owed world front .own

variable (toRaw) in
inductive Settling (world : World Entry Thread) : Prop where
  | alive (state : world.shared.state ≠ .broken) (clean : Clean world)
  | unasked (state : world.shared.state = .broken) (nobody : ∀ party, ¬world.Busy party) (clean : Clean world)
  | pending (front : Ticketed Entry) (party : Party Thread)
      (state : world.shared.state = .broken) (owed : Owed toRaw world front party)
      (aside : world.aside = [front]) (settles : world.settles = [])
      (settled : world.settled = []) (asides : asides world.log = [(front, party)])
      (settlements : settlements world.log = [])
  | finished (front : Ticketed Entry) (party : Party Thread) (whole : Bool)
      (state : world.shared.state = .broken) (nobody : ∀ party, ¬world.Busy party)
      (settler : world.shared.settler = none) (ownerSettles : world.shared.ownerSettles = false)
      (ended : (world.aside = [front] ∧ world.settles = [whole] ∧ world.settled = []) ∨
        (world.aside = [] ∧ world.settles = [] ∧ world.settled = [(front, whole)]))
      (asides : asides world.log = [(front, party)])
      (settlements : settlements world.log = [(party, settledAs whole)])
      (exactly : whole = true ↔ world.socket = bytesOf toRaw world.popped ++ (toRaw front.entry).bytes)

theorem ownerWritten_settles {shared : SharedOutgoing Entry Thread}
    (state : shared.state = .owner) (whole : Bool) (now : Instant) :
    (shared.ownerWritten whole now).2.settler = shared.settler ∧
      (shared.ownerWritten whole now).2.ownerSettles = shared.ownerSettles ∧
      (shared.ownerWritten whole now).1 ≠ .written ∧
      (shared.ownerWritten whole now).1 ≠ .lost := by
  unfold ownerWritten
  dsimp only
  rw [if_neg (by simp [state])]
  split
  · exact ⟨rfl, rfl, nofun, nofun⟩
  · split
    · exact ⟨rfl, rfl, nofun, nofun⟩
    · obtain ⟨ending, after, emptied, -, ends, -, -, settler, ownerSettles, -⟩ :=
        emptied_cases now { shared with
          ownerWrites := false, queue := shared.queue.tail, frontWritten := 0,
          heartbeatOwed := false }
      rw [emptied]
      refine ⟨settler, ownerSettles, ?_⟩
      rcases ends with ⟨rfl, -⟩ | ⟨rfl | rfl, -⟩ <;> simp

theorem ownerNext_settles (shared : SharedOutgoing Entry Thread) : shared.ownerNext.2.settler = shared.settler ∧
      shared.ownerNext.2.ownerSettles = shared.ownerSettles := by
  unfold ownerNext
  split
  · exact ⟨rfl, rfl⟩
  · cases shared.queue <;> exact ⟨rfl, rfl⟩

theorem Clean.ownerHears (clean : Clean world) {ending : Ending}
    (notWritten : ending ≠ .written) (notLost : ending ≠ .lost) :
    Clean (World.ownerHears ending world) := by
  obtain ⟨noSettler, noOwner, aside, settles, settled, noAsides, noSettlements⟩ := clean
  cases ending with
  | written | lost => contradiction
  | _ => exact ⟨noSettler, noOwner, aside, settles, settled, noAsides, noSettlements⟩

structure Same (world after : World Entry Thread) : Prop where
  state : after.shared.state = world.shared.state
  settler : after.shared.settler = world.shared.settler
  ownerSettles : after.shared.ownerSettles = world.shared.ownerSettles
  ownerWrites : after.shared.ownerWrites = world.shared.ownerWrites
  phase : after.phase = world.phase
  own : after.own = world.own
  aside : after.aside = world.aside
  settles : after.settles = world.settles
  settled : after.settled = world.settled
  socket : after.socket = world.socket
  popped : after.popped = world.popped

theorem Same.nobody (same : Same world after) (nobody : ∀ party, ¬world.Busy party)
    (party : Party Thread) : ¬after.Busy party := by
  have idle := nobody party
  cases party with
  | thread => simpa [Busy, same.phase] using idle
  | own => simpa [Busy, same.own] using idle

theorem Owed.same {front : Ticketed Entry} {party : Party Thread}
    (owed : Owed toRaw world front party) (same : Same world after) :
    Owed toRaw after front party := by
  cases owed with
  | thread thread offset progress settler ownerSettles short _ _ own within =>
    exact .thread thread offset progress (same.settler.trans settler)
      (same.ownerSettles.trans ownerSettles) short (by rwa [same.phase]) (by rwa [same.phase])
      (same.own.trans own) within (by rwa [same.socket, same.popped])
  | own offset transferred settler ownerSettles ownerWrites _ own within =>
    exact .own offset transferred (same.settler.trans settler)
      (same.ownerSettles.trans ownerSettles) (same.ownerWrites.trans ownerWrites)
      (by rwa [same.phase]) (same.own.trans own) within (by rwa [same.socket, same.popped])

theorem Settling.same (settling : Settling toRaw world)
    (broken : world.shared.state = .broken) (same : Same world after)
    (noted : asides after.log = asides world.log)
    (told : settlements after.log = settlements world.log) : Settling toRaw after := by
  have state := same.state.trans broken
  cases settling with
  | alive alive => exact absurd broken alive
  | unasked _ nobody clean =>
    obtain ⟨settler, ownerSettles, aside, settles, settled, noAsides, noSettlements⟩ := clean
    exact .unasked state (same.nobody nobody) ⟨same.settler.trans settler,
      same.ownerSettles.trans ownerSettles, same.aside.trans aside, same.settles.trans settles,
      same.settled.trans settled, noted.trans noAsides, told.trans noSettlements⟩
  | pending front party _ owed aside settles settled asides settlements =>
    exact .pending front party state (owed.same same) (same.aside.trans aside)
      (same.settles.trans settles) (same.settled.trans settled) (noted.trans asides)
      (told.trans settlements)
  | finished front party whole _ nobody settler ownerSettles _ asides settlements =>
    refine .finished front party whole state (same.nobody nobody) (same.settler.trans settler)
      (same.ownerSettles.trans ownerSettles) ?_ (noted.trans asides) (told.trans settlements) ?_
    · rwa [same.aside, same.settles, same.settled]
    · rwa [same.socket, same.popped]

theorem take_full {bytes : List UInt8} {count : Nat} (within : count ≤ bytes.length) :
    bytes.take count = bytes ↔ count = bytes.length := by
  constructor
  · intro same
    have := congrArg List.length same
    simpa [Nat.min_eq_left within] using this
  · rintro rfl
    exact take_length

theorem Settling.owed {party : Party Thread} (settling : Settling toRaw world)
    (broken : world.shared.state = .broken) (busy : world.Busy party) :
    ∃ front, Owed toRaw world front party ∧ world.aside = [front] ∧ world.settles = [] ∧
      world.settled = [] ∧ asides world.log = [(front, party)] ∧ settlements world.log = [] := by
  cases settling with
  | alive alive => exact absurd broken alive
  | unasked _ nobody | finished _ _ _ _ nobody => exact absurd busy (nobody party)
  | pending front writer _ owed aside settles settled asides settlements =>
    have same : party = writer := by
      cases owed with
      | thread thread _ _ _ _ _ _ others own =>
        cases party with
        | thread other =>
          by_contra different
          exact busy (others other fun same => different (by rw [same]))
        | own => exact absurd own busy
      | own _ _ _ _ _ idle =>
        cases party with
        | thread other => exact absurd (idle other) busy
        | own => rfl
    subst same
    exact ⟨front, owed, aside, settles, settled, asides, settlements⟩

theorem Settling.owned {front : Ticketed Entry} {offset transferred : Nat} {whole : Bool}
    (settling : Settling toRaw world) (broken : world.shared.state = .broken)
    (writes : world.own = .writing front offset transferred)
    (all : whole = true ↔ transferred = (toRaw front.entry).size - offset) (now : Instant) :
    Settling toRaw (world.ownWritten whole now) := by
  have busy : world.Busy .own := by simp [Busy, writes]
  obtain ⟨held, owed, aside, settles, settled, asides, settlements⟩ := settling.owed broken busy
  cases owed with
  | own _ _ settler ownerSettles ownerWrites idle own _ written =>
    cases own.symm.trans writes
    have settling : world.shared.ownerWritten whole now =
        (settledAs whole, { world.shared with ownerWrites := false, ownerSettles := false }) := by
      rcases settleOwned_cases whole { world.shared with ownerWrites := false } with
        ⟨unowed, -⟩ | ⟨-, settled⟩
      · simp [ownerSettles] at unowed
      · simpa [SharedOutgoing.ownerWritten, broken, settledAs] using settled
    have heard : ∀ world : World Entry Thread, ownerHears (settledAs whole) world = world.settleAside whole := by
      cases whole <;> exact fun _ => rfl
    rw [ownWritten, settling]
    simp only [heard, settleAside, aside, leaving_self, append_nil]
    refine .finished front .own whole broken ?_ settler rfl (.inr ⟨rfl, settles, by simp [settled]⟩)
      (by simp [asides]) (by simp [settlements]) ?_
    · rintro (other | _)
      · simpa [Busy] using idle other
      · simp [Busy]
    · dsimp only
      rw [written, append_cancel_left_eq, take_full (by rwa [RawMessage.length_bytes]),
        RawMessage.length_bytes, all]
      omega

theorem take_unasked {aside : Option (Ticketed Entry)} (clean : Clean world)
    (nothing : aside = none) (state : world.shared.state ≠ .writing)
    (idle : ∀ thread, world.phase thread = .idle) (own : world.own = .idle ∨ world.own = .failing)
    (ownerWrites : world.shared.ownerWrites = false) : Settling toRaw (world.taking aside) := by
  obtain ⟨-, -, noAside, settles, settled, noAsides, noSettlements⟩ := clean
  subst nothing
  refine .unasked rfl ?_ ⟨by simp [take, state], ownerWrites, by simp [noAside], settles, settled,
    by simp [noAsides], by simp [noSettlements]⟩
  rintro (thread | _)
  · simpa [Busy] using idle thread
  · rcases own with own | own <;> simp [Busy, own]

theorem take_settling {aside : Option (Ticketed Entry)} (sound : Sound toRaw world progress)
    (short : Short toRaw world) (settling : Settling toRaw world)
    (clear : world.shared.settler = none)
    (shows : aside = if world.shared.take.1.2 then world.shared.queue.head? else none) :
    Settling toRaw (world.taking aside) := by
  obtain ⟨-, written, within, standing⟩ := sound
  unfold take at shows
  dsimp only at shows
  cases standing with
  | free state queue _ idle own _ ownerWrites =>
    cases settling with
    | unasked broken | pending _ _ broken | finished _ _ _ broken => simp [state] at broken
    | alive _ clean =>
      have nothing : aside = none := by simp [shows, queue]
      exact take_unasked clean nothing (by simp [state]) idle (.inl own) ownerWrites
  | under front rest queue _ holder =>
    cases settling with
    | unasked broken | pending _ _ broken | finished _ _ _ broken => exact absurd broken holder.alive
    | alive _ clean =>
      obtain ⟨-, -, noAside, settles, settled, noAsides, noSettlements⟩ := id clean
      have started := short front rest queue
      rw [current_cons queue, bytesOf_single] at written within
      rw [RawMessage.length_bytes] at within
      cases holder with
      | writing thread state writer others through own _ ownerWrites =>
        have found : aside = some front := by simp [shows, queue, state]
        subst found
        refine .pending front (.thread thread) rfl ?_ (by simp [noAside]) settles settled
          (by simp [noAsides, writerOf, writer]) (by simp [noSettlements])
        exact .thread thread _ progress (by simp [take, state, writer]) ownerWrites started through others
          (by simp [own]) within written
      | owning transferred state writer idle own _ ownerWrites reached =>
        have found : aside = some front := by simp [shows, queue, ownerWrites]
        subst found
        subst reached
        refine .pending front .own rfl ?_ (by simp [noAside]) settles settled
          (by simp [noAsides, writerOf, writer]) (by simp [noSettlements])
        exact .own _ transferred (by simp [take, state]) ownerWrites ownerWrites idle (by simp [own]) within written
      | handed state _ idle own _ ownerWrites =>
        have nothing : aside = none := by simp [shows, state, ownerWrites]
        exact take_unasked clean nothing (by simp [state]) idle (.inl own) ownerWrites
      | failing state _ idle own _ ownerWrites =>
        have nothing : aside = none := by simp [shows, state, ownerWrites]
        exact take_unasked clean nothing (by simp [state]) idle (.inr own) ownerWrites
  | ended state queue leftover =>
    have nothing : aside = none := by simp [shows, queue]
    subst nothing
    have ownerSettles : world.shared.ownerSettles = world.shared.ownerWrites := by
      cases leftover with
      | nobody _ own _ ownerWrites =>
        cases settling with
        | alive alive => exact absurd state alive
        | unasked _ _ clean => rw [clean.ownerSettles, ownerWrites]
        | finished _ _ _ _ _ _ ownerSettles => rw [ownerSettles, ownerWrites]
        | pending _ _ _ owed =>
          cases owed with
          | thread _ _ _ _ ownerSettles => rw [ownerSettles, ownerWrites]
          | own _ _ _ _ _ _ writes => simp [own] at writes
      | through thread _ _ _ _ _ through _ _ ownerWrites =>
        obtain ⟨_, owed, -⟩ := settling.owed state (show world.Busy (.thread thread) from through.busy)
        cases owed with
        | thread _ _ _ _ ownerSettles => rw [ownerSettles, ownerWrites]
      | owning _ _ _ _ _ _ own _ ownerWrites =>
        obtain ⟨_, owed, -⟩ := settling.owed state (show world.Busy .own by simp [Busy, own])
        cases owed with
        | own _ _ _ ownerSettles => rw [ownerSettles, ownerWrites]
    have going : (world.taking none).own = world.own := by
      cases leftover with
      | nobody _ own | through _ _ _ _ _ _ _ own | owning _ _ _ _ _ _ own => simp [own]
    exact settling.same state ⟨state.symm, by simp [take, state, clear], ownerSettles.symm, rfl, rfl,
      going, by simp, rfl, rfl, rfl, rfl⟩ (by simp) (by simp)

theorem Sound.nobody (sound : Sound toRaw world progress) (broken : world.shared.state = .broken)
    (taken : world.taken = []) (party : Party Thread) : ¬world.Busy party := by
  cases sound.standing with
  | free state => simp [state] at broken
  | under _ _ _ _ holder => exact absurd broken holder.alive
  | ended _ _ leftover =>
    cases leftover with
    | through _ _ _ _ some_ | owning _ _ _ _ some_ => simp [some_] at taken
    | nobody idle own =>
      cases party with
      | thread thread => simpa [Busy] using idle thread
      | own => simpa [Busy] using own

theorem handOn_log (ending : Ending) (world : World Entry Thread) : (handOn ending world).log = world.log := by
  cases ending <;> rfl

theorem ownerHears_log (ending : Ending) (world : World Entry Thread) :
    (ownerHears ending world).log = world.log := by
  have aside : ∀ whole, (world.settleAside whole).log = world.log := by
    intro whole
    unfold settleAside
    split <;> rfl
  cases ending <;> first | rfl | exact aside _

theorem settleOwned_fits (whole : Bool) (shared : SharedOutgoing Entry Thread) :
    (shared.settleOwned whole).1 = .gone ∨ (shared.settleOwned whole).1 = .written ∨
      (shared.settleOwned whole).1 = .lost := by
  rcases settleOwned_cases whole shared with ⟨-, settled⟩ | ⟨-, settled⟩
  · simp [settled]
  · cases whole <;> simp [settled]

theorem Settling.fresh : Settling toRaw ({} : World Entry Thread) :=
  .alive nofun ⟨rfl, rfl, rfl, rfl, rfl, rfl, rfl⟩

theorem Owed.busy {front : Ticketed Entry} {party : Party Thread}
    (owed : Owed toRaw world front party) : world.Busy party := by
  cases owed with
  | thread _ _ _ _ _ _ through => exact through.busy
  | own _ _ _ _ _ _ own => simp [Busy, own]

variable [DecidableEq Thread]

theorem goOn_shared (thread : Thread) (frames : Nat)
    (next : Next (Ticketed Entry) × SharedOutgoing (Ticketed Entry) Thread)
    (world : World Entry Thread) : (world.goOn thread frames next).shared = next.2 := by
  unfold goOn
  dsimp only
  split
  · rfl
  · rw [(handOn_queue _ _).1]

theorem finish_short {thread : Thread} {front : Ticketed Entry} {offset frames : Nat}
    {count : Option Nat} {now : Instant} (sound : Sound toRaw world progress)
    (short : Short toRaw world) (phase : world.phase thread = .sent front offset frames count) :
    Short toRaw (world.goOn thread (frames + 1) (world.shared.writtenThrough thread frames
      ((toRaw front.entry).size - offset) count now)) := by
  unfold writtenThrough
  split
  · refine short.same ?_ ?_ <;>
      rcases settleThrough_cases thread (decide (count = some ((toRaw front.entry).size - offset)))
        world.shared with ⟨-, settled⟩ | ⟨-, settled⟩ <;>
      simp [goOn_shared, settled]
  · rename_i mine
    split
    · rename_i part
      intro head rest shows
      rw [goOn_shared] at shows ⊢
      dsimp only at shows ⊢
      have busy : world.phase thread ≠ .idle := by simp [phase]
      have within := sound.within
      cases sound.atWork busy with
      | left _ _ _ _ queue => simp [queue] at shows
      | live _ _ queue _ _ _ _ through =>
        rw [phase] at through
        cases through with
        | sent _ _ reached =>
          rw [current_cons queue, bytesOf_single, RawMessage.length_bytes] at within
          obtain ⟨rfl, -⟩ := List.cons.inj (queue.symm.trans shows)
          have started := short _ _ queue
          cases count with
          | none => simpa using started
          | some sent =>
            simp only [getD_some] at reached ⊢
            have different : sent ≠ (toRaw front.entry).size - world.shared.frontWritten :=
              fun same => part (by rw [same])
            omega
    · exact .start (by rw [goOn_shared, (nextThrough_keeps _ _ _ _).2])

theorem act_short (sound : Sound toRaw world progress) (short : Short toRaw world)
    {action : Action Entry Thread} (acted : world.act toRaw action = some after) :
    Short toRaw after := by
  cases act_turn acted with
  | refused => exact short
  | queued _ entry _ asap _ alive _ queue_eq busy =>
    cases sound.standing with
    | free state => exact absurd state busy
    | ended state => exact absurd state alive
    | under front rest before =>
      obtain ⟨rest', cons⟩ := queued_cons ⟨world.accepted, entry⟩ front asap rest
      rw [before, cons] at queue_eq
      intro head tail shows
      obtain ⟨rfl, -⟩ := List.cons.inj (queue_eq.symm.trans shows)
      exact short front rest before
  | claimed _ _ _ _ _ _ _ free =>
    cases sound.standing with
    | free _ _ _ _ _ _ _ offset => exact .start offset
    | under _ _ _ _ holder => exact absurd free holder.busy
    | ended state => simp [state] at free
  | setLimit | send | ownerSends => exact short.same rfl rfl
  | begin =>
    exact short.same (by rw [goOn_shared, (nextThrough_keeps _ _ _ _).1])
      (by rw [goOn_shared, (nextThrough_keeps _ _ _ _).2])
  | finish _ _ _ _ _ _ phase => exact finish_short sound short phase
  | quiet =>
    unfold quiet
    split <;> exact short.same rfl rfl
  | closeWhenFlushed =>
    unfold closeWhenFlushed
    split <;> exact short.same rfl rfl
  | ownerNext =>
    rcases ownerNext_cases world.shared with ⟨same, -⟩ | ⟨_, same, -⟩ <;>
      exact short.same same (ownerNext_offset _)
  | ownerWritten _ now _ _ _ whole =>
    obtain ⟨shared, -⟩ := ownerHears_queue (world.shared.ownerWritten whole now).1 _
    rcases ownerWritten_front whole now world.shared with ⟨queue, same⟩ | ⟨-, start⟩
    · exact short.same (by rw [shared]; exact queue) (by rw [shared]; exact same)
    · exact .start (by rw [shared]; exact start)
  | take => exact .start rfl
  | settle whole settles =>
    obtain ⟨shared, -⟩ := settleAside_queue whole { world with settles }
    exact short.same (by rw [shared]) (by rw [shared])

/-! ## A live channel settles nothing -/

theorem nextThrough_live {self : Thread} {shared : SharedOutgoing Entry Thread}
    (state : shared.state = .writing) (writer : shared.writer = some self) (frames : Nat)
    (now : Instant) : (shared.nextThrough self frames now).2.settler = shared.settler ∧
      (shared.nextThrough self frames now).2.ownerSettles = shared.ownerSettles ∧
      ∀ ending, (shared.nextThrough self frames now).1 = .stop ending → ending ≠ .written ∧ ending ≠ .lost := by
  have mine : ¬(shared.state ≠ .writing ∨ shared.writer ≠ some self) := by
    simp [state, writer]
  unfold nextThrough
  rw [if_neg mine]
  cases shared.queue with
  | nil =>
    obtain ⟨ending, after, emptied, -, ends, -, -, settler, ownerSettles, -⟩ :=
      emptied_cases now shared
    dsimp only
    rw [emptied]
    refine ⟨settler, ownerSettles, ?_⟩
    rintro _ ⟨⟩
    rcases ends with ⟨rfl, -⟩ | ⟨rfl | rfl, -⟩ <;> simp
  | cons =>
    dsimp only
    split
    · refine ⟨rfl, rfl, ?_⟩
      rintro _ ⟨⟩
      simp
    · exact ⟨rfl, rfl, fun _ => nofun⟩

theorem writtenThrough_live {self : Thread} {shared : SharedOutgoing Entry Thread}
    (state : shared.state = .writing) (writer : shared.writer = some self) (frames rest : Nat)
    (sent : Option Nat) (now : Instant) :
    (shared.writtenThrough self frames rest sent now).2.settler = shared.settler ∧
      (shared.writtenThrough self frames rest sent now).2.ownerSettles = shared.ownerSettles ∧
      ∀ ending, (shared.writtenThrough self frames rest sent now).1 = .stop ending →
        ending ≠ .written ∧ ending ≠ .lost := by
  have mine : ¬(shared.state ≠ .writing ∨ shared.writer ≠ some self) := by
    simp [state, writer]
  unfold writtenThrough
  rw [if_neg mine]
  split
  · refine ⟨rfl, rfl, ?_⟩
    rintro _ ⟨⟩
    simp
  · let popped := { shared with queue := shared.queue.tail, frontWritten := 0 }
    exact @nextThrough_live _ _ _ self popped state writer (frames + 1) now

theorem Clean.goOn (clean : Clean world) {thread : Thread} {frames : Nat}
    {next : Next (Ticketed Entry) × SharedOutgoing (Ticketed Entry) Thread}
    (settler : next.2.settler = world.shared.settler)
    (ownerSettles : next.2.ownerSettles = world.shared.ownerSettles)
    (ends : ∀ ending, next.1 = .stop ending → ending ≠ .written ∧ ending ≠ .lost) :
    Clean (world.goOn thread frames next) := by
  obtain ⟨noSettler, noOwner, aside, settles, settled, noAsides, noSettlements⟩ := clean
  rcases next with ⟨front | ending, shared⟩
  · exact ⟨settler.trans noSettler, ownerSettles.trans noOwner, aside, settles, settled, noAsides, noSettlements⟩
  · obtain ⟨notWritten, notLost⟩ := ends ending rfl
    have told : settlements (world.log ++
        [.told (.thread thread) ending (decide (world.shared.state = .broken))]) = [] := by
      simp [noSettlements, settlements_told notWritten notLost]
    have asked : asides (world.log ++
        [.told (.thread thread) ending (decide (world.shared.state = .broken))]) = [] := by
      simp [noAsides]
    cases ending with
    | written | lost => contradiction
    | _ =>
      exact ⟨settler.trans noSettler, ownerSettles.trans noOwner, aside, settles, settled, asked, told⟩

theorem Turn.clean {action : Action Entry Thread} (turn : Turn toRaw world action after)
    (sound : Sound toRaw world progress) (alive : world.shared.state ≠ .broken)
    (clean : Clean world) (notTake : action ≠ .take) : Clean after := by
  obtain ⟨noSettler, noOwner, aside, settles, settled, noAsides, noSettlements⟩ := id clean
  cases turn with
  | refused => exact clean
  | queued | claimed | setLimit | send | ownerSends =>
    exact ⟨noSettler, noOwner, aside, settles, settled, noAsides, noSettlements⟩
  | quiet =>
    unfold SharedOutgoing.quiet
    split <;> exact ⟨noSettler, noOwner, aside, settles, settled, noAsides, noSettlements⟩
  | closeWhenFlushed =>
    unfold SharedOutgoing.closeWhenFlushed
    split <;> exact ⟨noSettler, noOwner, aside, settles, settled, noAsides, noSettlements⟩
  | ownerNext =>
    obtain ⟨settler, ownerSettles⟩ := ownerNext_settles world.shared
    exact ⟨settler.trans noSettler, ownerSettles.trans noOwner, aside, settles, settled, noAsides, noSettlements⟩
  | begin thread now phase =>
    have busy : world.phase thread ≠ .idle := by simp [phase]
    cases sound.atWork busy with
    | left _ _ _ state => exact absurd state alive
    | live _ _ _ _ state writer =>
      obtain ⟨settler, ownerSettles, ends⟩ := nextThrough_live state writer 0 now
      exact clean.goOn settler ownerSettles ends
  | finish thread now front offset frames count phase =>
    have busy : world.phase thread ≠ .idle := by simp [phase]
    cases sound.atWork busy with
    | left _ _ _ state => exact absurd state alive
    | live _ _ _ _ state writer =>
      obtain ⟨settler, ownerSettles, ends⟩ := writtenThrough_live state writer frames
        ((toRaw front.entry).size - offset) count now
      exact clean.goOn settler ownerSettles ends
  | ownerWritten _ now _ _ _ whole writes =>
    cases sound.ownAtWork writes with
    | left _ state => exact absurd state alive
    | live _ _ _ state =>
      obtain ⟨settler, ownerSettles, notWritten, notLost⟩ := ownerWritten_settles state whole now
      refine Clean.ownerHears ?_ notWritten notLost
      exact ⟨settler.trans noSettler, ownerSettles.trans noOwner, aside, settles, settled,
        by simp [noAsides], by simp [noSettlements, settlements_told notWritten notLost]⟩
  | take => contradiction
  | settle _ _ posted => simp [settles] at posted

/-! ## An ended channel's writer settles -/

theorem Settling.through {thread : Thread} {whole : Bool} (settling : Settling toRaw world)
    (broken : world.shared.state = .broken) (busy : world.phase thread ≠ .idle) (frames : Nat)
    (exactly : ∀ front offset progress, offset < (toRaw front.entry).size → progress ≤ (toRaw front.entry).size →
      Through front offset progress (world.phase thread) →
      (whole = true ↔ progress = (toRaw front.entry).size)) :
    Settling toRaw (world.goOn thread frames (.stop (world.shared.settleThrough thread whole).1,
        (world.shared.settleThrough thread whole).2)) := by
  have held : world.Busy (.thread thread) := busy
  obtain ⟨front, owed, aside, settles, settled, asides, settlements⟩ := settling.owed broken held
  cases owed with
  | thread _ offset progress settler ownerSettles short through others own within written =>
    have settling : world.shared.settleThrough thread whole =
        (settledAs whole, { world.shared with settler := none }) := by
      rcases settleThrough_cases thread whole world.shared with ⟨other, -⟩ | ⟨-, settled⟩
      · exact absurd settler other
      · exact settled
    have posted : ∀ world : World Entry Thread,
        handOn (settledAs whole) world = { world with settles := world.settles ++ [whole] } := by
      cases whole <;> exact fun _ => rfl
    rw [settling]
    simp only [goOn, posted, leaving_self, append_nil]
    refine .finished front (.thread thread) whole broken ?_ rfl ownerSettles
      (.inl ⟨aside, by simp [settles], settled⟩) (by simp [asides]) (by simp [settlements]) ?_
    · rintro (other | _)
      · simpa [Busy] using idle_of_others others other
      · simpa [Busy] using own
    · rw [exactly front offset progress short within through]
      dsimp only
      rw [written, append_cancel_left_eq, take_full (by rwa [RawMessage.length_bytes]), RawMessage.length_bytes]

theorem Turn.settling {action : Action Entry Thread} (turn : Turn toRaw world action after)
    (sound : Sound toRaw world progress) (short : Short toRaw world)
    (settling : Settling toRaw world) (clear : action = .take → world.shared.settler = none)
    (broken : world.shared.state = .broken) : Settling toRaw after := by
  cases turn with
  | refused => exact settling
  | queued _ _ _ _ _ alive => exact absurd broken alive
  | claimed _ _ _ _ _ _ _ free => simp [broken] at free
  | setLimit =>
    exact settling.same broken ⟨rfl, rfl, rfl, rfl, rfl, rfl, rfl, rfl, rfl, rfl, rfl⟩ rfl rfl
  | quiet =>
    unfold SharedOutgoing.quiet
    split <;>
      exact settling.same broken ⟨rfl, rfl, rfl, rfl, rfl, rfl, rfl, rfl, rfl, rfl, rfl⟩ rfl rfl
  | closeWhenFlushed =>
    have busy : world.shared.state ≠ .free := by simp [broken]
    unfold SharedOutgoing.closeWhenFlushed
    rw [if_neg busy]
    exact settling.same broken ⟨rfl, rfl, rfl, rfl, rfl, rfl, rfl, rfl, rfl, rfl, rfl⟩ rfl rfl
  | ownerNext _ _ _ next =>
    have turn : world.shared.ownerNext = (none, world.shared) := by
      simp [SharedOutgoing.ownerNext, broken]
    rw [turn] at next ⊢
    exact settling.same broken ⟨rfl, rfl, rfl, rfl, rfl, next, rfl, rfl, rfl, rfl, rfl⟩ rfl rfl
  | begin thread _ phase =>
    have busy : world.phase thread ≠ .idle := by simp [phase]
    have settled := @Settling.through _ _ _ _ _ thread false settling broken busy 0 ?_
    · simpa [nextThrough, broken] using settled
    · intro front offset progress short within through
      rw [phase] at through
      obtain ⟨reached⟩ | _ | _ := through
      simp only [Bool.false_eq_true, false_iff]
      omega
  | send thread count _ _ frames phase offered =>
    have busy : world.Busy (.thread thread) := by simp [Busy, phase]
    obtain ⟨held, owed, aside, settles, settled, asides, settlements⟩ := settling.owed broken busy
    refine .pending held (.thread thread) broken ?_ aside settles settled asides settlements
    cases owed with
    | thread _ _ progress settler ownerSettles short through others own _ written =>
      rw [phase] at through
      cases through with
      | sending _ reached =>
        subst reached
        simp only [length_drop, RawMessage.length_bytes] at offered
        refine .thread thread progress (progress + count.getD 0) settler ownerSettles short ?_
          (others_update others _) own (by omega) ?_
        · simpa using Through.sent frames count rfl
        · dsimp only
          rw [written, take_add, append_assoc]
  | finish thread _ front offset frames count phase =>
    have busy : world.phase thread ≠ .idle := by simp [phase]
    have settled := @Settling.through _ _ _ _ _ thread
      (decide (count = some ((toRaw front.entry).size - offset))) settling broken busy
      (frames + 1) ?_
    · simpa [writtenThrough, broken] using settled
    · intro held at_ progress short within through
      rw [phase] at through
      cases through with
      | sent _ _ reached =>
        cases count with
        | none =>
          simp only [reduceCtorEq, decide_false, Bool.false_eq_true, false_iff]
          simp only [getD_none] at reached
          omega
        | some =>
          simp only [Option.some.injEq, decide_eq_true_eq]
          simp only [getD_some] at reached
          omega
  | ownerSends count _ offset transferred writes offered =>
    have busy : world.Busy .own := by simp [Busy, writes]
    obtain ⟨held, owed, aside, settles, settled, asides, settlements⟩ := settling.owed broken busy
    refine .pending held .own broken ?_ aside settles settled asides settlements
    cases owed with
    | own _ _ settler ownerSettles ownerWrites idle own _ written =>
      cases own.symm.trans writes
      simp only [length_drop, RawMessage.length_bytes] at offered
      refine .own offset (transferred + count) settler ownerSettles ownerWrites idle rfl (by omega) ?_
      dsimp only
      rw [written, append_assoc, ← take_add, Nat.add_assoc]
  | ownerWritten _ now _ _ _ _ writes all =>
    exact settling.owned broken writes all now
  | take _ shows => exact take_settling sound short settling (clear rfl) shows
  | settle whole _ posted =>
    cases settling with
    | alive alive => exact absurd broken alive
    | unasked _ _ clean => simp [clean.settles] at posted
    | pending _ _ _ _ _ none_ => simp [none_] at posted
    | finished front party _ _ nobody settler ownerSettles ended asides settlements exactly =>
      rcases ended with ⟨aside, one, settled⟩ | ⟨-, none_, -⟩
      · cases one.symm.trans posted
        simp only [settleAside, aside]
        exact .finished front party whole broken nobody settler ownerSettles
          (.inr ⟨rfl, rfl, by simp [settled]⟩) asides settlements exactly
      · simp [none_] at posted

/-- One action keeps what is owed to the front while it is settled. -/
theorem act_settling {action : Action Entry Thread} (sound : Sound toRaw world progress)
    (short : Short toRaw world) (settling : Settling toRaw world)
    (clear : action = .take → world.shared.settler = none)
    (acted : world.act toRaw action = some after) : Settling toRaw after := by
  by_cases broken : world.shared.state = .broken
  · exact (act_turn acted).settling sound short settling clear broken
  by_cases takes : action = .take
  · subst takes
    cases act_turn acted with
    | take _ shows => exact take_settling sound short settling (clear rfl) shows
  have clean : Clean after := by
    cases settling with
    | alive _ clean => exact (act_turn acted).clean sound broken clean takes
    | unasked state | pending _ _ state | finished _ _ _ state => exact absurd state broken
  by_cases ended : after.shared.state = .broken
  · obtain ⟨_, sound'⟩ := act_sound sound acted
    exact .unasked ended (sound'.nobody ended (act_taken sound acted takes broken)) clean
  · exact .alive ended clean

/-! ## The log -/

theorem settleThrough_fits (self : Thread) (whole : Bool) (shared : SharedOutgoing Entry Thread) :
    (shared.settleThrough self whole).1 = .gone ∨ (shared.settleThrough self whole).1 = .written ∨
      (shared.settleThrough self whole).1 = .lost := by
  rcases settleThrough_cases self whole shared with ⟨-, settled⟩ | ⟨-, settled⟩
  · simp [settled]
  · cases whole <;> simp [settled]

theorem Orderly.goOn (orderly : Orderly world.log) {thread : Thread} {frames : Nat}
    {next : Next (Ticketed Entry) × SharedOutgoing (Ticketed Entry) Thread}
    (ends : ∀ ending, next.1 = .stop ending → world.shared.state = .broken →
      ending = .gone ∨ ending = .written ∨ ending = .lost) :
    Orderly (world.goOn thread frames next).log := by
  rcases next with ⟨front | ending, shared⟩
  · exact orderly
  · simp only [World.goOn, handOn_log]
    refine orderly.snoc ?_
    by_cases broken : world.shared.state = .broken
    · simpa [Fits, broken] using ends ending rfl broken
    · simp [Fits, broken]

/-- One action keeps the notes in order. -/
theorem act_orderly {action : Action Entry Thread} (sound : Sound toRaw world progress)
    (settling : Settling toRaw world) (orderly : Orderly world.log)
    (acted : world.act toRaw action = some after) : Orderly after.log := by
  cases act_turn acted with
  | refused | queued | claimed | setLimit | send | quiet | closeWhenFlushed | ownerNext
  | ownerSends => exact orderly
  | begin thread now phase =>
    refine orderly.goOn ?_
    intro ending stops broken
    simp only [nextThrough, broken, ne_eq, reduceCtorEq, not_false_eq_true, true_or, if_true,
      Next.stop.injEq] at stops
    exact stops ▸ settleThrough_fits _ _ _
  | finish thread now front offset frames count phase =>
    refine orderly.goOn ?_
    intro ending stops broken
    simp only [writtenThrough, broken, ne_eq, reduceCtorEq, not_false_eq_true, true_or, if_true,
      Next.stop.injEq] at stops
    exact stops ▸ settleThrough_fits _ _ _
  | ownerWritten failed now front offset transferred whole =>
    rw [ownerHears_log]
    refine orderly.snoc ?_
    by_cases broken : world.shared.state = .broken
    · have turn : world.shared.ownerWritten whole now =
          settleOwned whole { world.shared with ownerWrites := false } := by
        simp [SharedOutgoing.ownerWritten, broken]
      rw [turn]
      simpa only [Fits, broken, decide_true] using settleOwned_fits whole _
    · simp [Fits, broken]
  | take aside shows =>
    refine orderly.snoc ?_
    cases aside with
    | none => trivial
    | some =>
      cases settling with
      | alive _ clean | unasked _ _ clean => exact clean.noSettlements
      | pending _ _ _ _ _ _ _ _ settlements => exact settlements
      | finished _ _ _ state =>
        have empty : world.shared.queue = [] := by
          cases sound.standing with
          | free free => simp [state] at free
          | under _ _ _ _ holder => exact absurd state holder.alive
          | ended _ queue => exact queue
        simp [empty] at shows
  | settle whole settles posted =>
    unfold settleAside
    split <;> exact orderly

end World

end Multiplexer.SharedOutgoing
