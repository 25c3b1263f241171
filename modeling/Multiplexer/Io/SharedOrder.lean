import Multiplexer.Io.SharedOutgoingProperties

/-! The order of a shared connection's queue over whole runs, and what comes of it: one
writer, the bytes of the frames in the order they leave, each frame once. -/

set_option autoImplicit false

namespace Multiplexer.SharedOutgoing

open List

variable {Entry Thread : Type}

namespace World

variable {toRaw : Entry → RawMessage} {world after : World Entry Thread}

/-! ## The queue's order -/

inductive Moves (action : Action Entry Thread) (world after : World Entry Thread) : Prop where
  | same (queue : after.shared.queue = world.shared.queue) (popped : after.popped = world.popped)
      (taken : after.taken = world.taken)
  | queued (entry : Ticketed Entry) (asap : Bool) (queue : after.shared.queue =
        if asap then behindFront entry world.shared.queue else world.shared.queue ++ [entry])
      (popped : after.popped = world.popped) (taken : after.taken = world.taken)
  | popped (front : Ticketed Entry) (queue : world.shared.queue = front :: after.shared.queue)
      (popped : after.popped = world.popped ++ [front]) (taken : after.taken = world.taken)
  | taken (takes : action = .take) (queue : after.shared.queue = [])
      (popped : after.popped = world.popped) (taken : after.taken = world.taken ++ world.shared.queue)

theorem handOn_queue (ending : Ending) (world : World Entry Thread) :
    (handOn ending world).shared = world.shared ∧ (handOn ending world).popped = world.popped ∧
      (handOn ending world).taken = world.taken := by
  cases ending <;> exact ⟨rfl, rfl, rfl⟩

theorem settleAside_queue (whole : Bool) (world : World Entry Thread) :
    (world.settleAside whole).shared = world.shared ∧ (world.settleAside whole).popped = world.popped ∧
      (world.settleAside whole).taken = world.taken := by
  unfold settleAside
  split <;> exact ⟨rfl, rfl, rfl⟩

theorem ownerHears_queue (ending : Ending) (world : World Entry Thread) :
    (ownerHears ending world).shared = world.shared ∧ (ownerHears ending world).popped = world.popped ∧
      (ownerHears ending world).taken = world.taken := by
  cases ending <;> first | exact ⟨rfl, rfl, rfl⟩ | exact settleAside_queue _ world

theorem ownerNext_cases (shared : SharedOutgoing Entry Thread) :
    (shared.ownerNext.2.queue = shared.queue ∧ shared.ownerNext = (none, shared.ownerNext.2)) ∨
      ∃ front, shared.ownerNext.2.queue = shared.queue ∧ shared.ownerNext = (some front, shared.ownerNext.2) := by
  unfold ownerNext
  split
  · exact .inl ⟨rfl, rfl⟩
  · cases queue : shared.queue with
    | nil => exact .inl ⟨rfl, rfl⟩
    | cons => exact .inr ⟨_, rfl, rfl⟩

theorem Moves.of_leaving {action : Action Entry Thread} {queue : List (Ticketed Entry)}
    (left : queue = world.shared.queue ∨ queue = world.shared.queue.tail)
    (sameQueue : after.shared.queue = queue)
    (popped : after.popped = world.popped ++ leaving world.shared.queue queue)
    (taken : after.taken = world.taken) : Moves action world after := by
  rcases left with rfl | rfl
  · exact .same sameQueue (by simpa using popped) taken
  · cases shows : world.shared.queue with
    | nil =>
      rw [shows] at sameQueue popped
      exact .same (by simpa [shows] using sameQueue) (by simpa using popped) taken
    | cons front =>
      rw [shows] at sameQueue popped
      exact .popped front (by simpa [sameQueue] using shows) (by simpa using popped) taken

theorem ownerWritten_front (whole : Bool) (now : Instant) (shared : SharedOutgoing Entry Thread) :
    ((shared.ownerWritten whole now).2.queue = shared.queue ∧
        (shared.ownerWritten whole now).2.frontWritten = shared.frontWritten) ∨
      (shared.ownerWritten whole now).2.queue = shared.queue.tail ∧
        (shared.ownerWritten whole now).2.frontWritten = 0 := by
  unfold ownerWritten
  dsimp only
  split
  · rcases settleOwned_cases whole { shared with ownerWrites := false } with
      ⟨-, settled⟩ | ⟨-, settled⟩ <;> exact .inl (by rw [settled]; exact ⟨rfl, rfl⟩)
  · split
    · exact .inl ⟨rfl, rfl⟩
    · split
      · exact .inr ⟨rfl, rfl⟩
      · obtain ⟨_, _, emptied, queue, -, -, same, -⟩ := emptied_cases now { shared with
          ownerWrites := false, queue := shared.queue.tail, frontWritten := 0,
          heartbeatOwed := false }
        exact .inr (by rw [emptied]; exact ⟨queue, same⟩)

theorem Moves.front {action : Action Entry Thread} (moves : Moves action world after)
    {front : Ticketed Entry}
    (ahead : (∃ rest, world.shared.queue = front :: rest) ∨ front ∈ world.popped ++ world.taken) :
    (∃ rest, after.shared.queue = front :: rest) ∨ front ∈ after.popped ++ after.taken := by
  cases moves with
  | same queue popped taken => rwa [queue, popped, taken]
  | queued _ _ queue popped taken =>
    rcases ahead with ⟨rest, shows⟩ | left
    · rw [queue, shows]
      exact .inl (queued_cons _ _ _ _)
    · exact .inr (by rwa [popped, taken])
  | popped _ queue popped taken =>
    rw [popped, taken]
    rcases ahead with ⟨rest, shows⟩ | left
    · rw [shows, List.cons.injEq] at queue
      exact .inr (by simp [queue.1])
    · rcases mem_append.mp left with left | left <;> exact .inr (by simp [left])
  | taken _ _ popped taken =>
    rw [popped, taken]
    rcases ahead with ⟨rest, shows⟩ | left
    · exact .inr (by simp [shows])
    · rcases mem_append.mp left with left | left <;> exact .inr (by simp [left])

theorem Sound.left_once {progress : Nat} (sound : Sound toRaw world progress) {entry : Ticketed Entry}
    (left : entry ∈ world.popped ++ world.taken) : entry ∉ world.shared.queue := by
  intro waits
  have once : ((world.popped ++ world.taken ++ world.shared.queue).map Ticketed.number).Nodup :=
    sound.tickets.nodup_iff.mpr nodup_range
  rw [map_append, nodup_append] at once
  exact once.2.2 _ (mem_map_of_mem left) _ (mem_map_of_mem waits) rfl

/-! ## The queue as a whole -/

def Writes (world : World Entry Thread) : Party Thread → Prop
  | .thread thread => world.phase thread ≠ .idle
  | .own => world.own ≠ .idle ∨ 0 < world.handed

def WritesAt (world : World Entry Thread) (front : Ticketed Entry) (reached : Nat) : Prop :=
  (∃ thread frames, world.phase thread = .sending front reached frames) ∨
    ∃ offset transferred, world.own = .writing front offset transferred ∧
      reached = offset + transferred

/-- One writer at a time, whose writes follow one another byte by byte in the queue's order,
each entry accepted once in the queue or out of it. -/
structure Linear (toRaw : Entry → RawMessage) (world : World Entry Thread) : Prop where
  one_writer : ∀ first second, world.Writes first → world.Writes second → first = second
  in_order : world.socket <+: bytesOf toRaw (world.popped ++ world.taken ++ world.shared.queue)
  popped_whole : bytesOf toRaw world.popped <+: world.socket
  goes_on : ∀ front reached, world.WritesAt front reached →
    world.socket = bytesOf toRaw world.popped ++ (toRaw front.entry).bytes.take reached
  each_once : ((world.popped ++ world.taken ++ world.shared.queue).map Ticketed.number).Perm
    (range world.accepted)
  being_written : world.shared.queue ≠ [] → world.shared.state ≠ .broken →
    (∃ thread, world.shared.writer = some thread ∧ world.Writes (.thread thread)) ∨ world.Writes .own

variable {progress : Nat}

theorem Through.busy {front : Ticketed Entry} {offset : Nat} {phase : Phase (Ticketed Entry)}
    (through : Through front offset progress phase) : phase ≠ .idle := by
  cases through <;> simp

theorem Through.at {front writes : Ticketed Entry} {offset reached frames : Nat}
    (through : Through front offset progress (.sending writes reached frames)) :
    writes = front ∧ reached = progress := by
  cases through with
  | sending _ shows => exact ⟨rfl, shows.symm⟩

theorem Sound.one_writer (sound : Sound toRaw world progress) (first second : Party Thread)
    (one : world.Writes first) (two : world.Writes second) : first = second := by
  -- all parties but one have nothing to do
  have only : ∃ party, ∀ other, world.Writes other → other = party := by
    have idleThread : ∀ thread, world.phase thread = .idle → ¬world.Writes (.thread thread) :=
      fun thread idle writes => writes idle
    have idleOwn : world.own = .idle → world.handed = 0 → ¬world.Writes .own := by
      rintro own handed (writes | writes)
      · exact writes own
      · omega
    have ofThread : ∀ thread, (∀ other, other ≠ thread → world.phase other = .idle) →
        world.own = .idle → world.handed = 0 →
        ∃ party, ∀ other, world.Writes other → other = party := by
      intro thread others own handed
      refine ⟨.thread thread, ?_⟩
      rintro (other | _) writes
      · by_contra different
        exact idleThread other (others other fun same => different (by rw [same])) writes
      · exact absurd writes (idleOwn own handed)
    have ofOwn : (∀ thread, world.phase thread = .idle) → ∃ party, ∀ other, world.Writes other → other = party := by
      intro idle
      refine ⟨.own, ?_⟩
      rintro (other | _) writes
      · exact absurd writes (idleThread other (idle other))
      · rfl
    cases sound.standing with
    | free _ _ _ idle => exact ofOwn idle
    | under _ _ _ _ holder =>
      cases holder with
      | writing thread _ _ others _ own handed => exact ofThread thread others own handed
      | handed _ _ idle | owning _ _ _ idle | failing _ _ idle => exact ofOwn idle
    | ended _ _ leftover =>
      cases leftover with
      | nobody idle | owning _ _ _ _ _ idle => exact ofOwn idle
      | through thread _ _ _ _ others _ own handed => exact ofThread thread others own handed
  obtain ⟨party, all⟩ := only
  exact (all first one).trans (all second two).symm

theorem Sound.writesAt (sound : Sound toRaw world progress) {front : Ticketed Entry}
    {reached : Nat} (writes : world.WritesAt front reached) :
    world.current = [front] ∧ reached = progress := by
  rcases writes with ⟨thread, frames, phase⟩ | ⟨offset, transferred, own, total⟩
  · have busy : world.phase thread ≠ .idle := by simp [phase]
    cases sound.atWork busy with
    | live _ _ queue _ _ _ _ through =>
      rw [phase] at through
      obtain ⟨rfl, shows⟩ := through.at
      exact ⟨current_cons queue, shows⟩
    | left _ _ _ _ queue taken _ through =>
      rw [phase] at through
      obtain ⟨rfl, shows⟩ := through.at
      exact ⟨current_taken queue taken, shows⟩
  · cases sound.ownAtWork own with
    | live _ queue _ _ _ _ _ _ _ shows =>
      exact ⟨current_cons queue, total.trans shows.symm⟩
    | left _ _ queue taken _ _ _ shows =>
      exact ⟨current_taken queue taken, total.trans shows.symm⟩

theorem Sound.linear (sound : Sound toRaw world progress) : Linear toRaw world where
  one_writer := sound.one_writer
  in_order := by
    rw [sound.written, append_assoc, bytesOf_append]
    have start : bytesOf toRaw world.current <+: bytesOf toRaw (world.taken ++ world.shared.queue) := by
      cases sound.standing with
      | free _ queue taken => simp [current, queue, taken, bytesOf]
      | under _ rest queue taken =>
        rw [current_cons queue, queue, taken]
        exact ⟨bytesOf toRaw rest, by simp [bytesOf]⟩
      | ended _ queue =>
        cases taken : world.taken with
        | nil => simp [current, queue, taken, bytesOf]
        | cons _ rest =>
          rw [current_taken queue taken, queue]
          exact ⟨bytesOf toRaw rest, by simp [bytesOf]⟩
    exact (prefix_append_right_inj _).mpr ((List.take_prefix _ _).trans start)
  popped_whole := ⟨_, sound.written.symm⟩
  goes_on := by
    intro front reached writes
    obtain ⟨shows, rfl⟩ := sound.writesAt writes
    rw [sound.written, shows, bytesOf_single]
  each_once := sound.tickets
  being_written := by
    intro waiting alive
    cases sound.standing with
    | free _ queue => exact absurd queue waiting
    | under _ _ _ _ holder =>
      cases holder with
      | writing thread _ writer _ through => exact .inl ⟨thread, writer, through.busy⟩
      | handed => exact .inr (.inr (by omega))
      | owning _ _ _ _ own | failing _ _ _ own => exact .inr (.inl (by simp [own]))
    | ended state => exact absurd state alive

variable [DecidableEq Thread]

theorem goOn_moves {action : Action Entry Thread} {thread : Thread} {frames : Nat}
    {next : Next (Ticketed Entry) × SharedOutgoing (Ticketed Entry) Thread}
    (left : next.2.queue = world.shared.queue ∨ next.2.queue = world.shared.queue.tail) :
    Moves action world (world.goOn thread frames next) := by
  unfold goOn
  dsimp only
  split
  · exact .of_leaving left rfl rfl rfl
  · obtain ⟨shared, popped, taken⟩ := handOn_queue _ _
    exact .of_leaving left (by rw [shared]) popped taken

theorem settleThrough_queue (self : Thread) (whole : Bool) (shared : SharedOutgoing Entry Thread) :
    (shared.settleThrough self whole).2.queue = shared.queue := by
  rcases settleThrough_cases self whole shared with ⟨-, settled⟩ | ⟨-, settled⟩ <;> rw [settled]

theorem writtenThrough_queue (self : Thread) (frames rest : Nat) (sent : Option Nat)
    (now : Instant) (shared : SharedOutgoing Entry Thread) :
    (shared.writtenThrough self frames rest sent now).2.queue = shared.queue ∨
      (shared.writtenThrough self frames rest sent now).2.queue = shared.queue.tail := by
  unfold writtenThrough
  split
  · exact .inl (settleThrough_queue _ _ _)
  · split
    · exact .inl rfl
    · exact .inr ((nextThrough_keeps _ _ _ _).1)

theorem act_moves {action : Action Entry Thread} (acted : world.act toRaw action = some after) :
    Moves action world after := by
  cases act_turn acted with
  | refused | setLimit | send | ownerSends => exact .same rfl rfl rfl
  | queued thread entry force asap queue _ _ shows
  | claimed _ _ _ asap _ _ shows => exact .queued _ asap shows rfl rfl
  | begin => exact goOn_moves (.inl ((nextThrough_keeps _ _ _ _).1))
  | finish => exact goOn_moves (writtenThrough_queue _ _ _ _ _ _)
  | quiet =>
    unfold quiet
    split <;> exact .same rfl rfl rfl
  | closeWhenFlushed =>
    unfold closeWhenFlushed
    split <;> exact .same rfl rfl rfl
  | ownerNext =>
    rcases ownerNext_cases world.shared with ⟨same, -⟩ | ⟨_, same, -⟩ <;> exact .same same rfl rfl
  | ownerWritten =>
    obtain ⟨shared, popped, taken⟩ := ownerHears_queue _ _
    exact .of_leaving ((ownerWritten_front _ _ _).imp And.left And.left) (by rw [shared]) popped taken
  | take => exact .taken rfl rfl rfl rfl
  | settle whole settles =>
    obtain ⟨shared, popped, taken⟩ := settleAside_queue whole { world with settles }
    exact .same (by rw [shared]) popped taken

theorem run_front {actions : List (Action Entry Thread)} {front : Ticketed Entry}
    (ahead : (∃ rest, world.shared.queue = front :: rest) ∨ front ∈ world.popped ++ world.taken)
    (ran : world.run toRaw actions = some after) :
    (∃ rest, after.shared.queue = front :: rest) ∨ front ∈ after.popped ++ after.taken := by
  induction actions generalizing world with
  | nil =>
    cases ran
    exact ahead
  | cons _ _ ih =>
    obtain ⟨next, acted, ran⟩ := Option.bind_eq_some_iff.mp ran
    exact ih ((act_moves acted).front ahead) ran

theorem run_append {first second : List (Action Entry Thread)} :
    world.run toRaw (first ++ second) = (world.run toRaw first).bind (run toRaw second) := by
  induction first generalizing world with
  | nil => rfl
  | cons action _ ih =>
    simp only [cons_append, run]
    cases world.act toRaw action with
    | none => rfl
    | some => exact ih

theorem act_taken {action : Action Entry Thread} (sound : Sound toRaw world progress)
    (acted : world.act toRaw action = some after) (notTake : action ≠ .take)
    (alive : world.shared.state ≠ .broken) : after.taken = [] := by
  have before : world.taken = [] := by
    cases sound.standing with
    | free _ _ taken | under _ _ _ taken => exact taken
    | ended state => exact absurd state alive
  cases act_moves acted with
  | same _ _ taken | queued _ _ _ _ taken | popped _ _ _ taken => rw [taken, before]
  | taken takes => exact absurd takes notTake

/-- Whatever order the threads take their turns in: one writer, the bytes in the order the frames
leave, no frame ahead of one that was started, no entry lost or doubled, the limit kept, the
writing always somebody's, and the channel closed only when all queued is written. -/
theorem shared_outgoing_linear {actions : List (Action Entry Thread)}
    (ran : ({} : World Entry Thread).run toRaw actions = some world) : Linear toRaw world ∧
      (∀ first second earlier front reached, actions = first ++ second →
        ({} : World Entry Thread).run toRaw first = some earlier →
        earlier.WritesAt front reached → front ∈ world.shared.queue →
        world.shared.queue.head? = some front) ∧
      (∀ thread entry force asap after, world.act toRaw (.enqueue thread entry force asap) = some after →
        world.accepted < after.accepted →
        after.shared.queue.length ≤ world.shared.limit + FORCED_FRAMES_PAST_FULL_QUEUE) ∧
      (∀ action after, world.act toRaw action = some after → action ≠ .take →
        world.shared.state ≠ .broken → after.shared.state = .broken →
        after.shared.queue = [] ∧ after.taken = []) := by
  obtain ⟨progress, sound⟩ := run_sound fresh_sound ran
  refine ⟨sound.linear, ?_, ?_, ?_⟩
  · intro first second earlier front reached split reachedEarlier writes waits
    obtain ⟨_, before⟩ := run_sound fresh_sound reachedEarlier
    obtain ⟨shows, -⟩ := before.writesAt writes
    rw [split, run_append, reachedEarlier] at ran
    have ahead : (∃ rest, earlier.shared.queue = front :: rest) ∨ front ∈ earlier.popped ++ earlier.taken := by
      unfold current at shows
      cases queue : earlier.shared.queue with
      | cons _ rest =>
        rw [queue] at shows
        simp only [cons_append, take_succ_cons, take_zero] at shows
        exact .inl ⟨rest, by simp_all⟩
      | nil =>
        rw [queue, nil_append] at shows
        exact .inr (mem_append_right _ (mem_of_mem_take (by rw [shows]; simp)))
    rcases run_front ahead ran with ⟨rest, queue⟩ | left
    · simp [queue]
    · exact absurd waits (sound.left_once left)
  · intro thread entry force asap after acted accepted
    rcases enqueue_cases ⟨world.accepted, entry⟩ force asap thread world.shared with
      ⟨same, refused⟩ | ⟨-, room, queue, queue_eq, ⟨-, enqueued⟩ | ⟨-, enqueued⟩⟩
    · have unchanged : world = after := by
        rcases refused with refused | refused <;> simpa [act, refused, same] using acted
      exact absurd accepted (by simp [unchanged])
    all_goals
      have longer : queue.length = world.shared.queue.length + 1 := by
        rw [queue_eq]
        simpa using (queued_perm (⟨world.accepted, entry⟩ : Ticketed Entry) asap world.shared.queue).length_eq
      simp only [act, enqueued, Option.some.injEq] at acted
      subst acted
      dsimp only
      omega
  · intro action after acted notTake alive broken
    obtain ⟨_, sound'⟩ := act_sound sound acted
    have empty : after.shared.queue = [] := by
      cases sound'.standing with
      | free state => simp [state] at broken
      | under _ _ _ _ holder => exact absurd broken holder.alive
      | ended _ queue => exact queue
    exact ⟨empty, act_taken sound acted notTake alive⟩

def blank (count : Nat) : RawMessage :=
  { header := replicate HEADER_LENGTH 0
    body := replicate count 0
    header_length := length_replicate }

/-- A thread writes three bytes, the own loop the rest, a frame queued behind it
meanwhile. -/
def handedOver : List (Action RawMessage Nat) :=
  [.setLimit 2, .enqueue 0 (blank 1) false false, .begin 0 0, .send 0 (some 3),
    .enqueue 1 (blank 0) false true, .finish 0 1, .ownerNext, .ownerSends 6,
    .ownerWritten false 2]

theorem shared_outgoing_linear_handedOver :
    ∃ world, ({} : World RawMessage Nat).run id handedOver = some world ∧
      world.popped = [⟨0, blank 1⟩] ∧ world.shared.queue = [⟨1, blank 0⟩] ∧ Linear id world := by
  have ran : ({} : World RawMessage Nat).run id handedOver = some _ := rfl
  exact ⟨_, ran, rfl, rfl, (shared_outgoing_linear ran).1⟩

end World

end Multiplexer.SharedOutgoing
