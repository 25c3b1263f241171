import Multiplexer.Io.SharedLoops
import Mathlib.Data.List.Range

/-! What holds of a shared connection's outgoing side whatever order its threads come in:
who may be writing in each state of the channel, and what the socket has been given. -/

set_option autoImplicit false

namespace Multiplexer.SharedOutgoing

open List Option Function

variable {Entry Thread : Type}

/-! ## Single turns -/

theorem enqueue_cases (entry : Entry) (force asap : Bool) (self : Thread)
    (shared : SharedOutgoing Entry Thread) : ((shared.enqueue entry force asap self).2 = shared ∧
        ((shared.enqueue entry force asap self).1 = .full ∨ (shared.enqueue entry force asap self).1 = .ended)) ∨
      (shared.state ≠ .broken ∧ shared.queue.length < shared.limit + FORCED_FRAMES_PAST_FULL_QUEUE ∧
        ∃ queue, queue = (if asap then behindFront entry shared.queue else shared.queue ++ [entry]) ∧
          ((shared.state ≠ .free ∧
              shared.enqueue entry force asap self = (.queued, { shared with queue })) ∨
            (shared.state = .free ∧ shared.enqueue entry force asap self =
              (.claimed, { shared with queue, state := .writing, writer := some self })))) := by
  unfold enqueue
  split
  · exact .inl ⟨rfl, .inr rfl⟩
  · rename_i open_
    split
    · exact .inl ⟨rfl, .inl rfl⟩
    · rename_i room
      refine .inr ⟨open_, ?_, _, rfl, ?_⟩
      · simp only [FORCED_FRAMES_PAST_FULL_QUEUE] at room ⊢
        omega
      · by_cases free : shared.state = .free
        · exact .inr ⟨free, by simp [free]⟩
        · exact .inl ⟨free, by simp [free]⟩

theorem emptied_cases (now : Instant) (shared : SharedOutgoing Entry Thread) :
    ∃ ending after, shared.emptied now = (ending, after) ∧ after.queue = shared.queue ∧
      (ending = .close ∧ after.state = .broken ∨ (ending = .idle ∨ ending = .heartbeat) ∧ after.state = .free) ∧
      after.ownerWrites = shared.ownerWrites ∧ after.frontWritten = shared.frontWritten ∧
      after.settler = shared.settler ∧ after.ownerSettles = shared.ownerSettles ∧
      after.writer = none := by
  unfold emptied endForClose
  dsimp only
  split
  · exact ⟨_, _, rfl, rfl, .inl ⟨rfl, rfl⟩, rfl, rfl, rfl, rfl, rfl⟩
  · split
    · exact ⟨_, _, rfl, rfl, .inr ⟨.inr rfl, rfl⟩, rfl, rfl, rfl, rfl, rfl⟩
    · exact ⟨_, _, rfl, rfl, .inr ⟨.inl rfl, rfl⟩, rfl, rfl, rfl, rfl, rfl⟩

theorem settleThrough_cases [DecidableEq Thread] (self : Thread) (whole : Bool)
    (shared : SharedOutgoing Entry Thread) :
    (shared.settler ≠ some self ∧ shared.settleThrough self whole = (.gone, shared)) ∨
      (shared.settler = some self ∧ shared.settleThrough self whole =
        (if whole then .written else .lost, { shared with settler := none })) := by
  unfold settleThrough
  split
  · rename_i other
    exact .inl ⟨other, rfl⟩
  · rename_i mine
    exact .inr ⟨not_not.mp mine, rfl⟩

theorem settleOwned_cases (whole : Bool) (shared : SharedOutgoing Entry Thread) :
    (shared.ownerSettles = false ∧ shared.settleOwned whole = (.gone, shared)) ∨
      (shared.ownerSettles = true ∧ shared.settleOwned whole =
        (if whole then .written else .lost, { shared with ownerSettles := false })) := by
  unfold settleOwned
  cases settles : shared.ownerSettles with
  | false => exact .inl ⟨rfl, rfl⟩
  | true => exact .inr ⟨rfl, rfl⟩

theorem nextThrough_keeps [DecidableEq Thread] (self : Thread) (frames : Nat) (now : Instant)
    (shared : SharedOutgoing Entry Thread) :
    (shared.nextThrough self frames now).2.queue = shared.queue ∧
      (shared.nextThrough self frames now).2.frontWritten = shared.frontWritten := by
  unfold nextThrough
  split
  · rcases settleThrough_cases self false shared with ⟨-, settled⟩ | ⟨-, settled⟩ <;>
      simp [settled]
  · cases queue : shared.queue with
    | nil =>
      obtain ⟨_, _, emptied, same, -, -, offset, -⟩ := emptied_cases now shared
      simpa [emptied, queue, offset] using same
    | cons =>
      dsimp only
      split
      · exact ⟨rfl, rfl⟩
      · exact ⟨queue, rfl⟩

theorem behindFront_perm (entry : Entry) (queue : List Entry) :
    (behindFront entry queue).Perm (queue ++ [entry]) := by
  cases queue with
  | nil => exact .refl _
  | cons front rest =>
    exact .cons front (@List.perm_append_comm _ [entry] rest)

theorem queued_perm (entry : Entry) (asap : Bool) (queue : List Entry) :
    (if asap then behindFront entry queue else queue ++ [entry]).Perm (queue ++ [entry]) := by
  cases asap with
  | true => exact behindFront_perm entry queue
  | false => exact .refl _

theorem queued_cons (entry front : Entry) (asap : Bool) (rest : List Entry) :
    ∃ rest', (if asap then behindFront entry (front :: rest) else front :: rest ++ [entry]) = front :: rest' := by
  cases asap with
  | true | false => exact ⟨_, rfl⟩

namespace World

/-- The own loop heard how its write ended. -/
abbrev ownWritten (world : World Entry Thread) (whole : Bool) (now : Instant) : World Entry Thread :=
  ownerHears (world.shared.ownerWritten whole now).1
    { world with
      shared := (world.shared.ownerWritten whole now).2
      own := .idle
      popped := world.popped ++ leaving world.shared.queue (world.shared.ownerWritten whole now).2.queue
      log := world.log ++ [.told .own (world.shared.ownerWritten whole now).1
        (decide (world.shared.state = .broken))] }

/-- The queue is taken, `aside` set aside. -/
abbrev taking (world : World Entry Thread) (aside : Option (Ticketed Entry)) : World Entry Thread :=
  { world with
    shared := world.shared.take.2
    own := match world.own with
      | .failing => .idle
      | own => own
    aside := world.aside ++ aside.toList
    taken := world.taken ++ world.shared.queue
    log := world.log ++ [.took (aside.map (·, writerOf world.shared))] }

/-! ## Who writes -/

/-- A thread at the front from `offset`, `progress` bytes of which are on the socket. -/
inductive Through (front : Ticketed Entry) (offset progress : Nat) : Phase (Ticketed Entry) → Prop where
  | claimed (reached : progress = offset) : Through front offset progress .claimed
  | sending (frames : Nat) (reached : progress = offset) :
      Through front offset progress (.sending front offset frames)
  | sent (frames : Nat) (count : Option Nat) (reached : progress = offset + count.getD 0) :
      Through front offset progress (.sent front offset frames count)

inductive Holder (world : World Entry Thread) (front : Ticketed Entry) (progress : Nat) : Prop where
  | writing (thread : Thread) (state : world.shared.state = .writing)
      (writer : world.shared.writer = some thread)
      (others : ∀ other, other ≠ thread → world.phase other = .idle)
      (through : Through front world.shared.frontWritten progress (world.phase thread))
      (own : world.own = .idle) (handed : world.handed = 0)
      (ownerWrites : world.shared.ownerWrites = false)
  | handed (state : world.shared.state = .owner) (writer : world.shared.writer = none)
      (idle : ∀ thread, world.phase thread = .idle) (own : world.own = .idle)
      (handed : world.handed = 1) (ownerWrites : world.shared.ownerWrites = false)
      (reached : progress = world.shared.frontWritten)
  | owning (transferred : Nat) (state : world.shared.state = .owner)
      (writer : world.shared.writer = none) (idle : ∀ thread, world.phase thread = .idle)
      (own : world.own = .writing front world.shared.frontWritten transferred)
      (handed : world.handed = 0) (ownerWrites : world.shared.ownerWrites = true)
      (reached : progress = world.shared.frontWritten + transferred)
  | failing (state : world.shared.state = .owner) (writer : world.shared.writer = none)
      (idle : ∀ thread, world.phase thread = .idle) (own : world.own = .failing)
      (handed : world.handed = 0) (ownerWrites : world.shared.ownerWrites = false)

/-- What is left of the writing once the channel ended: the write of the front taken. -/
inductive Leftover (world : World Entry Thread) (progress : Nat) : Prop where
  | nobody (idle : ∀ thread, world.phase thread = .idle) (own : world.own = .idle)
      (handed : world.handed ≤ 1) (ownerWrites : world.shared.ownerWrites = false)
  | through (thread : Thread) (front : Ticketed Entry) (rest : List (Ticketed Entry))
      (offset : Nat) (taken : world.taken = front :: rest)
      (others : ∀ other, other ≠ thread → world.phase other = .idle)
      (through : Through front offset progress (world.phase thread)) (own : world.own = .idle)
      (handed : world.handed = 0) (ownerWrites : world.shared.ownerWrites = false)
  | owning (front : Ticketed Entry) (rest : List (Ticketed Entry)) (offset transferred : Nat)
      (taken : world.taken = front :: rest) (idle : ∀ thread, world.phase thread = .idle)
      (own : world.own = .writing front offset transferred) (handed : world.handed = 0)
      (ownerWrites : world.shared.ownerWrites = true) (reached : progress = offset + transferred)

inductive Standing (world : World Entry Thread) (progress : Nat) : Prop where
  | free (state : world.shared.state = .free) (queue : world.shared.queue = [])
      (taken : world.taken = []) (idle : ∀ thread, world.phase thread = .idle)
      (own : world.own = .idle) (handed : world.handed = 0)
      (ownerWrites : world.shared.ownerWrites = false) (offset : world.shared.frontWritten = 0)
  | under (front : Ticketed Entry) (rest : List (Ticketed Entry))
      (queue : world.shared.queue = front :: rest) (taken : world.taken = [])
      (holder : Holder world front progress)
  | ended (state : world.shared.state = .broken) (queue : world.shared.queue = [])
      (leftover : Leftover world progress)

/-- The frame whose bytes go out: the queue's front, or the front of what was taken. -/
def current (world : World Entry Thread) : List (Ticketed Entry) :=
  (world.shared.queue ++ world.taken).take 1

variable (toRaw : Entry → RawMessage)

structure Sound (world : World Entry Thread) (progress : Nat) : Prop where
  tickets : ((world.popped ++ world.taken ++ world.shared.queue).map Ticketed.number).Perm
    (range world.accepted)
  written : world.socket = bytesOf toRaw world.popped ++ (bytesOf toRaw world.current).take progress
  within : progress ≤ (bytesOf toRaw world.current).length
  standing : Standing world progress

variable {toRaw} {world after : World Entry Thread} {front : Ticketed Entry} {progress : Nat}

variable {rest queue : List (Ticketed Entry)} {entry : Entry} {transferred offset frames : Nat}
  {thread : Thread} {now : Instant}

theorem current_cons (queue : world.shared.queue = front :: rest) : world.current = [front] := by
  simp [current, queue]

theorem current_taken (queue : world.shared.queue = []) (taken : world.taken = front :: rest) :
    world.current = [front] := by
  simp [current, queue, taken]

@[simp] theorem bytesOf_single (front : Ticketed Entry) : bytesOf toRaw [front] = (toRaw front.entry).bytes := by
  simp [bytesOf]

theorem bytesOf_append (first second : List (Ticketed Entry)) :
    bytesOf toRaw (first ++ second) = bytesOf toRaw first ++ bytesOf toRaw second := by
  simp [bytesOf]

@[simp] theorem leaving_self (queue : List (Ticketed Entry)) : leaving queue queue = [] := by
  simp [leaving]

@[simp] theorem leaving_front (front : Ticketed Entry) (rest : List (Ticketed Entry)) :
    leaving (front :: rest) rest = [front] := by
  simp [leaving]

theorem onward {count : Nat} (written : world.socket =
      bytesOf toRaw world.popped ++ (bytesOf toRaw world.current).take progress)
    (shows : world.current = [front])
    (offered : count ≤ ((toRaw front.entry).bytes.drop progress).length) :
    world.socket ++ ((toRaw front.entry).bytes.drop progress).take count =
        bytesOf toRaw world.popped ++ (bytesOf toRaw world.current).take (progress + count) ∧
      (progress ≤ (bytesOf toRaw world.current).length →
        progress + count ≤ (bytesOf toRaw world.current).length) := by
  rw [shows, bytesOf_single] at written ⊢
  refine ⟨by rw [written, take_add, append_assoc], ?_⟩
  intro within
  simp only [length_drop] at offered
  omega

theorem Holder.alive (holder : Holder world front progress) : world.shared.state ≠ .broken := by
  cases holder <;> simp_all

theorem Holder.busy (holder : Holder world front progress) : world.shared.state ≠ .free := by
  cases holder <;> simp_all

structure Alike (world after : World Entry Thread) : Prop where
  state : after.shared.state = world.shared.state
  writer : after.shared.writer = world.shared.writer
  offset : after.shared.frontWritten = world.shared.frontWritten
  ownerWrites : after.shared.ownerWrites = world.shared.ownerWrites
  phase : after.phase = world.phase
  own : after.own = world.own
  handed : after.handed = world.handed
  taken : after.taken = world.taken

theorem Holder.alike (holder : Holder world front progress) (alike : Alike world after) :
    Holder after front progress := by
  cases holder with
  | writing thread state writer _ _ own handed ownerWrites =>
    refine .writing thread (alike.state.trans state) (alike.writer.trans writer) ?_ ?_
      (alike.own.trans own) (alike.handed.trans handed) (alike.ownerWrites.trans ownerWrites)
    · rwa [alike.phase]
    · rwa [alike.phase, alike.offset]
  | handed state writer _ own handed ownerWrites reached =>
    exact .handed (alike.state.trans state) (alike.writer.trans writer) (by rwa [alike.phase])
      (alike.own.trans own) (alike.handed.trans handed) (alike.ownerWrites.trans ownerWrites)
      (reached.trans alike.offset.symm)
  | owning transferred state writer _ _ handed ownerWrites =>
    exact .owning transferred (alike.state.trans state) (alike.writer.trans writer)
      (by rwa [alike.phase]) (by rwa [alike.own, alike.offset]) (alike.handed.trans handed)
      (alike.ownerWrites.trans ownerWrites) (by rwa [alike.offset])
  | failing state writer _ own handed ownerWrites =>
    exact .failing (alike.state.trans state) (alike.writer.trans writer) (by rwa [alike.phase])
      (alike.own.trans own) (alike.handed.trans handed) (alike.ownerWrites.trans ownerWrites)

theorem Leftover.alike (leftover : Leftover world progress) (alike : Alike world after) :
    Leftover after progress := by
  cases leftover with
  | nobody _ own _ ownerWrites =>
    exact .nobody (by rwa [alike.phase]) (alike.own.trans own) (by rwa [alike.handed])
      (alike.ownerWrites.trans ownerWrites)
  | through thread front rest offset taken _ _ own handed ownerWrites =>
    exact .through thread front rest offset (alike.taken.trans taken) (by rwa [alike.phase])
      (by rwa [alike.phase]) (alike.own.trans own) (alike.handed.trans handed)
      (alike.ownerWrites.trans ownerWrites)
  | owning front rest offset transferred taken _ own handed ownerWrites reached =>
    exact .owning front rest offset transferred (alike.taken.trans taken) (by rwa [alike.phase])
      (alike.own.trans own) (alike.handed.trans handed) (alike.ownerWrites.trans ownerWrites)
      reached

theorem Sound.alike (sound : Sound toRaw world progress) (alike : Alike world after)
    (queue : after.shared.queue = world.shared.queue) (popped : after.popped = world.popped)
    (socket : after.socket = world.socket) (accepted : after.accepted = world.accepted) :
    Sound toRaw after progress := by
  obtain ⟨_, _, _, standing⟩ := sound
  have same : after.current = world.current := by
    simp [current, queue, alike.taken]
  refine ⟨?_, ?_, ?_, ?_⟩
  · rwa [popped, alike.taken, queue, accepted]
  · rwa [same, socket, popped]
  · rwa [same]
  · cases standing with
    | free state empty taken _ own handed ownerWrites offset =>
      exact .free (alike.state.trans state) (queue.trans empty) (alike.taken.trans taken)
        (by rwa [alike.phase]) (alike.own.trans own) (alike.handed.trans handed)
        (alike.ownerWrites.trans ownerWrites) (alike.offset.trans offset)
    | under front rest shows taken holder =>
      exact .under front rest (queue.trans shows) (alike.taken.trans taken) (holder.alike alike)
    | ended state empty leftover =>
      exact .ended (alike.state.trans state) (queue.trans empty) (leftover.alike alike)

/-! ## The steps

Nothing of a frame under way moves but by its writer, so that each step moves the standing
along one edge. -/

theorem quiet_sound (sound : Sound toRaw world progress) (now : Instant) :
    Sound toRaw { world with shared := (world.shared.quiet now).2 } progress := by
  unfold quiet
  split <;> exact sound.alike ⟨rfl, rfl, rfl, rfl, rfl, rfl, rfl, rfl⟩ rfl rfl rfl rfl

theorem closeWhenFlushed_sound (sound : Sound toRaw world progress) :
    Sound toRaw { world with shared := world.shared.closeWhenFlushed.2 } progress := by
  unfold closeWhenFlushed
  split
  · rename_i free
    obtain ⟨tickets, written, within, standing⟩ := sound
    refine ⟨tickets, written, within, ?_⟩
    cases standing with
    | free _ queue _ idle own handed ownerWrites =>
      exact .ended rfl queue (.nobody idle own (by simp [handed]) ownerWrites)
    | under _ _ _ _ holder => exact absurd free holder.busy
    | ended state => simp [state] at free
  · exact sound.alike ⟨rfl, rfl, rfl, rfl, rfl, rfl, rfl, rfl⟩ rfl rfl rfl rfl

theorem tickets_enqueue (tickets : ((world.popped ++ world.taken ++ world.shared.queue).map Ticketed.number).Perm
      (range world.accepted))
    (added : queue.Perm (world.shared.queue ++ [⟨world.accepted, entry⟩])) :
    ((world.popped ++ world.taken ++ queue).map Ticketed.number).Perm (range (world.accepted + 1)) := by
  have moved : ((world.popped ++ world.taken ++ queue).map Ticketed.number).Perm
      ((world.popped ++ world.taken ++ world.shared.queue).map Ticketed.number ++ [world.accepted]) := by
    have := (Perm.append_left (world.popped ++ world.taken) added).map Ticketed.number
    simpa using this
  rw [range_succ]
  exact moved.trans (tickets.append_right _)

theorem settleAside_sound (sound : Sound toRaw world progress) (whole : Bool) :
    Sound toRaw (world.settleAside whole) progress := by
  unfold settleAside
  split
  · exact sound
  · exact sound.alike ⟨rfl, rfl, rfl, rfl, rfl, rfl, rfl, rfl⟩ rfl rfl rfl rfl

theorem ownerWritten_live (sound : Sound toRaw world progress)
    (queue : world.shared.queue = front :: rest) (taken : world.taken = [])
    (state : world.shared.state = .owner) (writer : world.shared.writer = none)
    (idle : ∀ thread, world.phase thread = .idle) (handed : world.handed = 0)
    (reached : progress = world.shared.frontWritten + transferred) (now : Instant) (whole : Bool)
    (all : whole = true → transferred = (toRaw front.entry).size - world.shared.frontWritten) :
    ∃ progress, Sound toRaw (world.ownWritten whole now) progress := by
  obtain ⟨tickets, written, within, -⟩ := sound
  have owned : ¬(world.shared.state ≠ .owner) := by simp [state]
  unfold ownWritten ownerWritten
  dsimp only
  rw [if_neg owned]
  cases whole with
  | false =>
    refine ⟨progress, ?_⟩
    simp only [Bool.not_false, if_true, ownerHears, leaving_self, append_nil]
    exact ⟨tickets, written, within, .under front rest queue taken (.failing state writer idle rfl handed rfl)⟩
  | true =>
    have sent := all rfl
    rw [current_cons queue, bytesOf_single] at written within
    rw [RawMessage.length_bytes] at within
    have reachedEnd : progress = (toRaw front.entry).size := by omega
    have full : (toRaw front.entry).bytes.take progress = (toRaw front.entry).bytes := by
      rw [reachedEnd, ← RawMessage.length_bytes, take_length]
    have socket : world.socket = bytesOf toRaw (world.popped ++ [front]) := by
      rw [written, full, bytesOf_append, bytesOf_single]
    refine ⟨0, ?_⟩
    simp only [Bool.not_true, Bool.false_eq_true, if_false, queue, tail_cons]
    cases rest with
    | cons next further =>
      simp only [ne_eq, reduceCtorEq, not_false_eq_true, if_true, ownerHears, leaving_front]
      refine ⟨?_, ?_, Nat.zero_le _, .under next further rfl taken
        (.handed state writer idle rfl (by simp [handed]) rfl rfl)⟩
      · simpa [queue, taken] using tickets
      · simpa using socket
    | nil =>
      simp only [ne_eq, not_true_eq_false, if_false]
      obtain ⟨ending, _, emptied, sameQueue, ends, sameOwner, sameOffset, -, -, -⟩ :=
        emptied_cases now { world.shared with
          ownerWrites := false, queue := [], frontWritten := 0, heartbeatOwed := false }
      rw [emptied]
      dsimp only at sameQueue sameOwner sameOffset ⊢
      have heard : ownerHears ending = (id : World Entry Thread → World Entry Thread) := by
        rcases ends with ⟨rfl, -⟩ | ⟨rfl | rfl, -⟩ <;> rfl
      simp only [heard, id_eq, sameQueue, leaving_front]
      refine ⟨?_, ?_, Nat.zero_le _, ?_⟩
      · simpa [queue, taken, sameQueue] using tickets
      · simpa using socket
      · rcases ends with ⟨-, closed⟩ | ⟨-, free⟩
        · exact .ended closed sameQueue (.nobody idle rfl (by simp [handed]) sameOwner)
        · exact .free free sameQueue taken idle rfl handed sameOwner sameOffset

theorem fresh_sound : Sound toRaw ({} : World Entry Thread) 0 :=
  ⟨by simp, by simp [bytesOf], Nat.zero_le _, .free rfl rfl rfl (fun _ => rfl) rfl rfl rfl rfl⟩

inductive AtWork (world : World Entry Thread) (thread : Thread) (progress : Nat) : Prop where
  | live (front : Ticketed Entry) (rest : List (Ticketed Entry))
      (queue : world.shared.queue = front :: rest) (taken : world.taken = [])
      (state : world.shared.state = .writing) (writer : world.shared.writer = some thread)
      (others : ∀ other, other ≠ thread → world.phase other = .idle)
      (through : Through front world.shared.frontWritten progress (world.phase thread))
      (own : world.own = .idle) (handed : world.handed = 0)
      (ownerWrites : world.shared.ownerWrites = false)
  | left (front : Ticketed Entry) (rest : List (Ticketed Entry)) (offset : Nat)
      (state : world.shared.state = .broken) (queue : world.shared.queue = [])
      (taken : world.taken = front :: rest)
      (others : ∀ other, other ≠ thread → world.phase other = .idle)
      (through : Through front offset progress (world.phase thread)) (own : world.own = .idle)
      (handed : world.handed = 0) (ownerWrites : world.shared.ownerWrites = false)

theorem Sound.atWork (sound : Sound toRaw world progress) (busy : world.phase thread ≠ .idle) :
    AtWork world thread progress := by
  cases sound.standing with
  | free _ _ _ idle => exact absurd (idle thread) busy
  | under front rest queue taken holder =>
    cases holder with
    | writing holder state writer others through own handed ownerWrites =>
      have same : thread = holder := by
        by_contra different
        exact busy (others thread different)
      subst same
      exact .live front rest queue taken state writer others through own handed ownerWrites
    | handed _ _ idle | owning _ _ _ idle | failing _ _ idle => exact absurd (idle thread) busy
  | ended state queue leftover =>
    cases leftover with
    | nobody idle | owning _ _ _ _ _ idle => exact absurd (idle thread) busy
    | through holder front rest offset taken others through own handed ownerWrites =>
      have same : thread = holder := by
        by_contra different
        exact busy (others thread different)
      subst same
      exact .left front rest offset state queue taken others through own handed ownerWrites

inductive OwnAtWork (world : World Entry Thread) (front : Ticketed Entry)
    (offset transferred progress : Nat) : Prop where
  | live (rest : List (Ticketed Entry)) (queue : world.shared.queue = front :: rest)
      (taken : world.taken = []) (state : world.shared.state = .owner)
      (writer : world.shared.writer = none) (idle : ∀ thread, world.phase thread = .idle)
      (start : world.shared.frontWritten = offset) (handed : world.handed = 0)
      (ownerWrites : world.shared.ownerWrites = true) (reached : progress = offset + transferred)
  | left (rest : List (Ticketed Entry)) (state : world.shared.state = .broken)
      (queue : world.shared.queue = []) (taken : world.taken = front :: rest)
      (idle : ∀ thread, world.phase thread = .idle) (handed : world.handed = 0)
      (ownerWrites : world.shared.ownerWrites = true) (reached : progress = offset + transferred)

theorem Sound.ownAtWork (sound : Sound toRaw world progress)
    (writes : world.own = .writing front offset transferred) :
    OwnAtWork world front offset transferred progress := by
  cases sound.standing with
  | free _ _ _ _ own => simp [own] at writes
  | under _ rest queue taken holder =>
    cases holder with
    | writing _ _ _ _ _ own | handed _ _ _ own | failing _ _ _ own => simp [own] at writes
    | owning sent state writer idle own handed ownerWrites reached =>
      cases own.symm.trans writes
      exact .live rest queue taken state writer idle rfl handed ownerWrites reached
  | ended state queue leftover =>
    cases leftover with
    | nobody _ own | through _ _ _ _ _ _ _ own => simp [own] at writes
    | owning held rest offset sent taken idle own handed ownerWrites reached =>
      cases own.symm.trans writes
      exact .left rest state queue taken idle handed ownerWrites reached

theorem queued_sound (sound : Sound toRaw world progress) {asap : Bool}
    (alive : world.shared.state ≠ .broken)
    (shows : queue = if asap then behindFront ⟨world.accepted, entry⟩ world.shared.queue
      else world.shared.queue ++ [⟨world.accepted, entry⟩]) (busy : world.shared.state ≠ .free) :
    Sound toRaw
      { world with shared := { world.shared with queue }, accepted := world.accepted + 1 }
      progress := by
  obtain ⟨tickets, written, within, standing⟩ := sound
  have tickets := tickets_enqueue tickets (shows ▸ queued_perm _ asap _)
  cases standing with
  | free state => exact absurd state busy
  | under front rest before taken holder =>
    obtain ⟨rest', cons⟩ := queued_cons ⟨world.accepted, entry⟩ front asap rest
    rw [before, cons] at shows
    rw [current_cons before] at written within
    refine ⟨tickets, ?_, ?_, .under front rest' shows taken (holder.alike ⟨rfl, rfl, rfl, rfl, rfl, rfl, rfl, rfl⟩)⟩
    · rw [current_cons shows]
      exact written
    · rw [current_cons shows]
      exact within
  | ended state => exact absurd state alive

/-! The own loop at its turn. -/

section

variable (sound : Sound toRaw world progress)

include sound

theorem ownerNext_sound {left : Nat}
    {writes : OwnWrite (Ticketed Entry)} (count : world.handed = left + 1)
    (next : writes = match world.shared.ownerNext.1 with
      | none => world.own
      | some (front, offset) => .writing front offset 0) : Sound toRaw
      { world with shared := world.shared.ownerNext.2, handed := left, own := writes }
      progress := by
  obtain ⟨tickets, written, within, standing⟩ := sound
  cases standing with
  | free _ _ _ _ _ handed => simp [handed] at count
  | under front rest queue taken holder =>
    cases holder with
    | writing _ _ _ _ _ _ handed | owning _ _ _ _ _ handed | failing _ _ _ _ handed =>
      simp [handed] at count
    | handed state writer idle own handed ownerWrites reached =>
      have none_ : left = 0 := by omega
      have turn : world.shared.ownerNext = (some (front, world.shared.frontWritten),
          { world.shared with ownerWrites := true }) := by
        simp [ownerNext, state, queue]
      rw [turn] at next ⊢
      subst next
      exact ⟨tickets, written, within, .under front rest queue taken
        (.owning 0 state writer idle rfl none_ rfl reached)⟩
  | ended state queue leftover =>
    have turn : world.shared.ownerNext = (none, world.shared) := by
      simp [ownerNext, state]
    rw [turn] at next ⊢
    subst next
    refine ⟨tickets, written, within, .ended state queue ?_⟩
    cases leftover with
    | nobody idle own _ ownerWrites =>
      exact .nobody idle own (by dsimp only; omega) ownerWrites
    | through _ _ _ _ _ _ _ _ handed | owning _ _ _ _ _ _ _ handed => simp [handed] at count

theorem ownerSends_sound {front : Ticketed Entry} {count : Nat}
    (writes : world.own = .writing front offset transferred)
    (offered : count ≤ ((toRaw front.entry).bytes.drop (offset + transferred)).length) : Sound toRaw
      { world with
        socket :=
          world.socket ++ ((toRaw front.entry).bytes.drop (offset + transferred)).take count
        own := .writing front offset (transferred + count) } (progress + count) := by
  have atWork := sound.ownAtWork writes
  obtain ⟨tickets, written, within, -⟩ := sound
  cases atWork with
  | live rest queue taken state writer idle start handed ownerWrites reached =>
    rw [← reached] at offered ⊢
    obtain ⟨socket, further⟩ := onward written (current_cons queue) offered
    subst start
    exact ⟨tickets, socket, further within, .under front rest queue taken
      (.owning (transferred + count) state writer idle rfl handed ownerWrites (by dsimp only; omega))⟩
  | left rest state queue taken idle handed ownerWrites reached =>
    rw [← reached] at offered ⊢
    obtain ⟨socket, further⟩ := onward written (current_taken queue taken) offered
    exact ⟨tickets, socket, further within, .ended state queue
      (.owning front rest offset (transferred + count) taken idle rfl handed ownerWrites (by omega))⟩

theorem take_sound (aside : List (Ticketed Entry)) (log : List (Note (Ticketed Entry) Thread)) : Sound toRaw
      { world with
        shared := world.shared.take.2
        own := match world.own with
          | .failing => .idle
          | own => own
        aside
        taken := world.taken ++ world.shared.queue
        log } progress := by
  obtain ⟨tickets, written, within, standing⟩ := sound
  unfold take
  dsimp only
  cases standing with
  | free _ queue taken idle own handed ownerWrites =>
    refine ⟨?_, ?_, ?_, .ended rfl rfl ?_⟩
    · simpa [queue, taken] using tickets
    · simpa [current, queue, taken] using written
    · simpa [current, queue, taken] using within
    · exact .nobody idle (by simp [own]) (by simp [handed]) ownerWrites
  | under front rest queue taken holder =>
    refine ⟨?_, ?_, ?_, .ended rfl rfl ?_⟩
    · simpa [queue, taken] using tickets
    · simpa [current, queue, taken] using written
    · simpa [current, queue, taken] using within
    · cases holder with
      | writing thread _ _ others through own handed ownerWrites =>
        exact .through thread front rest _ (by simp [queue, taken]) others through (by simp [own])
          handed ownerWrites
      | handed _ _ idle own handed ownerWrites | failing _ _ idle own handed ownerWrites =>
        exact .nobody idle (by simp [own]) (by simp [handed]) ownerWrites
      | owning transferred _ _ idle own handed ownerWrites reached =>
        exact .owning front rest _ transferred (by simp [queue, taken]) idle (by simp [own])
          handed ownerWrites reached
  | ended _ queue leftover =>
    refine ⟨?_, ?_, ?_, .ended rfl rfl ?_⟩
    · simpa [queue] using tickets
    · simpa [current, queue] using written
    · simpa [current, queue] using within
    · cases leftover with
      | nobody idle own handed ownerWrites =>
        exact .nobody idle (by simp [own]) handed ownerWrites
      | through thread front rest offset taken others through own handed ownerWrites =>
        exact .through thread front rest offset (by simp [queue, taken]) others through
          (by simp [own]) handed ownerWrites
      | owning front rest offset transferred taken idle own handed ownerWrites reached =>
        exact .owning front rest offset transferred (by simp [queue, taken]) idle (by simp [own])
          handed ownerWrites reached

theorem ownerWritten_sound {front : Ticketed Entry}
    {whole : Bool} (writes : world.own = .writing front offset transferred)
    (all : whole = true ↔ transferred = (toRaw front.entry).size - offset) :
    ∃ progress, Sound toRaw (world.ownWritten whole now) progress := by
  obtain ⟨tickets, written, within, -⟩ := id sound
  cases sound.ownAtWork writes with
  | live _ queue taken state writer idle start handed _ reached =>
    subst start
    exact ownerWritten_live sound queue taken state writer idle handed reached now whole all.mp
  | left _ state queue _ idle handed ownerWrites =>
    refine ⟨progress, ?_⟩
    have broken : world.shared.state ≠ .owner := by simp [state]
    have settled : ∀ shared ending, shared.queue = world.shared.queue →
        shared.state = .broken → shared.ownerWrites = false →
        Sound toRaw { world with
          shared, own := .idle
          popped := world.popped ++ leaving world.shared.queue shared.queue
          log := world.log ++ [.told .own ending (decide (world.shared.state = .broken))] }
          progress := by
      intro shared ending sameQueue ended unowned
      simp only [sameQueue, leaving_self, append_nil]
      refine ⟨by simpa [sameQueue] using tickets, ?_, ?_, .ended ended (sameQueue.trans queue)
        (.nobody idle rfl (by simp [handed]) unowned)⟩
      · simpa [current, sameQueue] using written
      · simpa [current, sameQueue] using within
    unfold ownWritten ownerWritten
    dsimp only
    rw [if_pos broken]
    rcases settleOwned_cases whole { world.shared with ownerWrites := false } with
      ⟨-, gone⟩ | ⟨-, settles⟩
    · rw [gone]
      exact settled _ _ rfl state rfl
    · rw [settles]
      cases whole with
      | true =>
        exact settleAside_sound (settled { world.shared with
          ownerWrites := false, ownerSettles := false } _ rfl state rfl) true
      | false =>
        exact settleAside_sound (settled { world.shared with
          ownerWrites := false, ownerSettles := false } _ rfl state rfl) false

end

variable [DecidableEq Thread]

inductive Turn (toRaw : Entry → RawMessage) (world : World Entry Thread) :
    Action Entry Thread → World Entry Thread → Prop where
  | refused (thread : Thread) (entry : Entry) (force asap : Bool) :
      Turn toRaw world (.enqueue thread entry force asap) world
  | queued (thread : Thread) (entry : Entry) (force asap : Bool) (queue : List (Ticketed Entry))
      (alive : world.shared.state ≠ .broken)
      (room : world.shared.queue.length < world.shared.limit + FORCED_FRAMES_PAST_FULL_QUEUE)
      (shows : queue = if asap then behindFront ⟨world.accepted, entry⟩ world.shared.queue
        else world.shared.queue ++ [⟨world.accepted, entry⟩])
      (busy : world.shared.state ≠ .free) :
      Turn toRaw world (.enqueue thread entry force asap)
        { world with shared := { world.shared with queue }, accepted := world.accepted + 1 }
  | claimed (thread : Thread) (entry : Entry) (force asap : Bool) (queue : List (Ticketed Entry))
      (room : world.shared.queue.length < world.shared.limit + FORCED_FRAMES_PAST_FULL_QUEUE)
      (shows : queue = if asap then behindFront ⟨world.accepted, entry⟩ world.shared.queue
        else world.shared.queue ++ [⟨world.accepted, entry⟩])
      (free : world.shared.state = .free) :
      Turn toRaw world (.enqueue thread entry force asap)
        { world with
          shared := { world.shared with queue, state := .writing, writer := some thread }
          accepted := world.accepted + 1
          phase := update world.phase thread .claimed }
  | setLimit (limit : Nat) :
      Turn toRaw world (.setLimit limit) { world with shared := world.shared.setLimit limit }
  | begin (thread : Thread) (now : Instant) (phase : world.phase thread = .claimed) :
      Turn toRaw world (.begin thread now) (world.goOn thread 0 (world.shared.nextThrough thread 0 now))
  | send (thread : Thread) (count : Option Nat) (front : Ticketed Entry) (offset frames : Nat)
      (phase : world.phase thread = .sending front offset frames)
      (offered : count.getD 0 ≤ ((toRaw front.entry).bytes.drop offset).length) :
      Turn toRaw world (.send thread count)
        { world with
          socket := world.socket ++ ((toRaw front.entry).bytes.drop offset).take (count.getD 0)
          phase := update world.phase thread (.sent front offset frames count) }
  | finish (thread : Thread) (now : Instant) (front : Ticketed Entry) (offset frames : Nat)
      (count : Option Nat) (phase : world.phase thread = .sent front offset frames count) :
      Turn toRaw world (.finish thread now)
        (world.goOn thread (frames + 1) (world.shared.writtenThrough thread frames
          ((toRaw front.entry).size - offset) count now))
  | quiet (now : Instant) : Turn toRaw world (.quiet now) { world with shared := (world.shared.quiet now).2 }
  | closeWhenFlushed : Turn toRaw world .closeWhenFlushed
        { world with shared := world.shared.closeWhenFlushed.2 }
  | ownerNext (handed : Nat) (own : OwnWrite (Ticketed Entry)) (count : world.handed = handed + 1)
      (next : own = match world.shared.ownerNext.1 with
        | none => world.own
        | some (front, offset) => .writing front offset 0) :
      Turn toRaw world .ownerNext { world with shared := world.shared.ownerNext.2, handed, own }
  | ownerSends (count : Nat) (front : Ticketed Entry) (offset transferred : Nat)
      (writes : world.own = .writing front offset transferred)
      (offered : count ≤ ((toRaw front.entry).bytes.drop (offset + transferred)).length) :
      Turn toRaw world (.ownerSends count)
        { world with
          socket :=
            world.socket ++ ((toRaw front.entry).bytes.drop (offset + transferred)).take count
          own := .writing front offset (transferred + count) }
  | ownerWritten (failed : Bool) (now : Instant) (front : Ticketed Entry)
      (offset transferred : Nat) (whole : Bool)
      (writes : world.own = .writing front offset transferred)
      (all : whole = true ↔ transferred = (toRaw front.entry).size - offset) :
      Turn toRaw world (.ownerWritten failed now) (world.ownWritten whole now)
  | take (aside : Option (Ticketed Entry))
      (shows : aside = if world.shared.take.1.2 then world.shared.queue.head? else none) :
      Turn toRaw world .take (world.taking aside)
  | settle (whole : Bool) (settles : List Bool) (posted : world.settles = whole :: settles) :
      Turn toRaw world .settle ({ world with settles }.settleAside whole)

/-- Every action that can be taken is a turn of one of these forms. -/
theorem act_turn {action : Action Entry Thread} (acted : world.act toRaw action = some after) :
    Turn toRaw world action after := by
  cases action with
  | enqueue thread entry force asap =>
    rcases enqueue_cases ⟨world.accepted, entry⟩ force asap thread world.shared with
      ⟨same, refused⟩ | ⟨alive, room, queue, shows, ⟨busy, enqueued⟩ | ⟨free, enqueued⟩⟩
    · have unchanged : world = after := by
        rcases refused with refused | refused <;> simpa [act, refused, same] using acted
      exact unchanged ▸ .refused thread entry force asap
    · simp only [act, enqueued, some.injEq] at acted
      exact acted ▸ .queued thread entry force asap queue alive room shows busy
    · simp only [act, enqueued, some.injEq] at acted
      exact acted ▸ .claimed thread entry force asap queue room shows free
  | setLimit limit =>
    cases acted
    exact .setLimit limit
  | begin thread now =>
    cases phase : world.phase thread with
    | claimed =>
      simp only [act, phase, some.injEq] at acted
      exact acted ▸ .begin thread now phase
    | _ => simp [act, phase] at acted
  | send thread count =>
    cases phase : world.phase thread with
    | sending front offset frames =>
      simp only [act, phase, RawMessage.sendRest_eq] at acted
      split at acted
      · rename_i offered
        cases acted
        exact .send thread count front offset frames phase offered
      · cases acted
    | _ => simp [act, phase] at acted
  | finish thread now =>
    cases phase : world.phase thread with
    | sent front offset frames count =>
      simp only [act, phase, some.injEq] at acted
      exact acted ▸ .finish thread now front offset frames count phase
    | _ => simp [act, phase] at acted
  | quiet now =>
    cases acted
    exact .quiet now
  | closeWhenFlushed =>
    cases acted
    exact .closeWhenFlushed
  | ownerNext =>
    cases count : world.handed with
    | zero => simp [act, count] at acted
    | succ left =>
      have turn : Turn toRaw world .ownerNext _ := .ownerNext left _ count rfl
      cases next : world.shared.ownerNext.1 with
      | none | some writes =>
        simp only [act, count, next, some.injEq] at acted
        simpa only [next, acted] using turn
  | ownerSends count =>
    cases writes : world.own with
    | writing front offset transferred =>
      simp only [act, writes] at acted
      split at acted
      · rename_i offered
        cases acted
        exact .ownerSends count front offset transferred writes offered
      · cases acted
    | _ => simp [act, writes] at acted
  | ownerWritten failed now =>
    cases writes : world.own with
    | writing front offset transferred =>
      simp only [act, writes] at acted
      split at acted
      · cases acted
      · rename_i short
        simp only [some.injEq] at acted
        have all : (!failed && decide (transferred = (toRaw front.entry).size - offset)) = true ↔
            transferred = (toRaw front.entry).size - offset := by
          cases failed with
          | false => simp
          | true => simpa using short
        exact acted ▸ .ownerWritten failed now front offset transferred _ writes all
    | _ => simp [act, writes] at acted
  | take =>
    simp only [act, some.injEq] at acted
    exact acted ▸ .take _ rfl
  | settle =>
    cases posted : world.settles with
    | nil => simp [act, posted] at acted
    | cons whole settles =>
      simp only [act, posted, some.injEq] at acted
      exact acted ▸ .settle whole settles posted

theorem claimed_sound (sound : Sound toRaw world progress) {asap : Bool}
    (shows : queue = if asap then behindFront ⟨world.accepted, entry⟩ world.shared.queue
      else world.shared.queue ++ [⟨world.accepted, entry⟩]) (free : world.shared.state = .free) :
    Sound toRaw
      { world with
        shared := { world.shared with queue, state := .writing, writer := some thread }
        accepted := world.accepted + 1
        phase := update world.phase thread .claimed } progress := by
  obtain ⟨tickets, written, within, standing⟩ := sound
  have tickets := tickets_enqueue tickets (shows ▸ queued_perm _ asap _)
  cases standing with
  | free _ before taken idle own handed ownerWrites offset =>
    have nothing : world.current = [] := by simp [current, before, taken]
    have single : queue = [⟨world.accepted, entry⟩] := by
      rw [shows, before]
      cases asap <;> rfl
    rw [nothing] at written within
    have start : progress = 0 := by simpa [bytesOf] using within
    subst start
    refine ⟨tickets, by simpa using written, Nat.zero_le _, .under _ [] single taken
      (.writing thread rfl rfl ?_ ?_ own handed ownerWrites)⟩
    · intro other different
      simp [update_of_ne different, idle]
    · simpa using Through.claimed offset.symm
  | under _ _ _ _ holder => exact absurd free holder.busy
  | ended state => simp [state] at free

/-! A thread at its turn. -/

structure Resuming (world : World Entry Thread) (toRaw : Entry → RawMessage) (thread : Thread) : Prop where
  tickets : ((world.popped ++ world.taken ++ world.shared.queue).map Ticketed.number).Perm
    (range world.accepted)
  written : world.socket = bytesOf toRaw world.popped ++
    (bytesOf toRaw world.current).take world.shared.frontWritten
  within : world.shared.frontWritten ≤ (bytesOf toRaw world.current).length
  state : world.shared.state = .writing
  writer : world.shared.writer = some thread
  taken : world.taken = []
  others : ∀ other, other ≠ thread → world.phase other = .idle
  own : world.own = .idle
  handed : world.handed = 0
  ownerWrites : world.shared.ownerWrites = false

theorem idle_of_others {phase : Thread → Phase (Ticketed Entry)}
    (others : ∀ other, other ≠ thread → phase other = .idle) (other : Thread) :
    update phase thread .idle other = .idle := by
  by_cases same : other = thread
  · subst same
    simp
  · simpa [update_of_ne same] using others other same

theorem others_update {phase : Thread → Phase (Ticketed Entry)}
    (others : ∀ other, other ≠ thread → phase other = .idle) (next : Phase (Ticketed Entry))
    (other : Thread) (different : other ≠ thread) :
    update phase thread next other = .idle := by
  simpa [update_of_ne different] using others other different

theorem Resuming.goOn (resuming : Resuming world toRaw thread) (frames : Nat) (now : Instant) :
    ∃ progress, Sound toRaw (world.goOn thread frames (world.shared.nextThrough thread frames now)) progress := by
  obtain ⟨tickets, written, within, state, writer, taken, others, own, handed, ownerWrites⟩ :=
    resuming
  have mine : ¬(world.shared.state ≠ .writing ∨ world.shared.writer ≠ some thread) := by
    simp [state, writer]
  unfold nextThrough
  rw [if_neg mine]
  cases queue : world.shared.queue with
  | nil =>
    obtain ⟨ending, _, emptied, sameQueue, ends, sameOwner, sameOffset, -, -, -⟩ :=
      emptied_cases now world.shared
    have start : world.shared.frontWritten = 0 := by
      simpa [current, queue, taken, bytesOf] using within
    have nothing : world.socket = bytesOf toRaw world.popped := by
      simpa [start] using written
    dsimp only
    rw [emptied]
    refine ⟨0, ?_⟩
    rcases ends with ⟨rfl, closed⟩ | ⟨quiet, free⟩
    · refine ⟨?_, ?_, Nat.zero_le _, .ended closed (sameQueue.trans queue)
        (.nobody (idle_of_others others) own (by simp [handOn, World.goOn, handed]) (sameOwner.trans ownerWrites))⟩
      · simpa [World.goOn, handOn, sameQueue] using tickets
      · simpa [World.goOn, handOn, sameQueue] using nothing
    · have settled : handOn ending = (id : World Entry Thread → World Entry Thread) := by
        rcases quiet with rfl | rfl <;> rfl
      simp only [World.goOn, settled, id_eq, sameQueue, leaving_self, append_nil]
      refine ⟨?_, ?_, Nat.zero_le _, .free free (sameQueue.trans queue) taken
        (idle_of_others others) own handed (sameOwner.trans ownerWrites)
        (sameOffset.trans start)⟩
      · simpa [sameQueue] using tickets
      · simpa using nothing
  | cons front rest =>
    dsimp only
    split
    · refine ⟨world.shared.frontWritten, ?_⟩
      simp only [World.goOn, handOn]
      simp only [← queue, leaving_self, append_nil]
      exact ⟨tickets, written, within, .under front rest queue taken (.handed rfl rfl
        (idle_of_others others) own (by simp [handed]) ownerWrites rfl)⟩
    · refine ⟨world.shared.frontWritten, ?_⟩
      simp only [World.goOn]
      simp only [leaving_self, append_nil]
      refine ⟨tickets, written, within, .under front rest queue taken (.writing thread state writer
        (others_update others _) ?_ own handed ownerWrites)⟩
      simpa using Through.sending frames rfl

theorem stop_sound (sound : Sound toRaw world progress) (broken : world.shared.state = .broken)
    (busy : world.phase thread ≠ .idle) (whole : Bool) (frames : Nat) :
    Sound toRaw (world.goOn thread frames (.stop (world.shared.settleThrough thread whole).1,
        (world.shared.settleThrough thread whole).2)) progress := by
  have atWork := sound.atWork busy
  obtain ⟨tickets, written, within, -⟩ := sound
  cases atWork with
  | live _ _ _ _ state => simp [state] at broken
  | left _ _ _ state queue _ others _ own handed ownerWrites =>
    have stopped := idle_of_others others
    rcases settleThrough_cases thread whole world.shared with ⟨-, settled⟩ | ⟨-, settled⟩
    · simp only [settled, goOn, handOn, leaving_self, append_nil]
      exact ⟨tickets, written, within, .ended state queue (.nobody stopped own (by simp [handed]) ownerWrites)⟩
    · cases whole <;>
        simp only [settled, goOn, handOn, leaving_self, append_nil, Bool.false_eq_true, if_true, if_false] <;>
        exact ⟨tickets, written, within, .ended state queue (.nobody stopped own (by simp [handed]) ownerWrites)⟩

theorem goOn_rebase {next : Next (Ticketed Entry) × SharedOutgoing (Ticketed Entry) Thread}
    (shared : SharedOutgoing (Ticketed Entry) Thread) (same : next.2.queue = shared.queue)
    (state : shared.state = world.shared.state) : world.goOn thread frames next = World.goOn thread frames next
        { world with
          shared, popped := world.popped ++ leaving world.shared.queue shared.queue } := by
  simp [goOn, same, state]

section

variable (sound : Sound toRaw world progress)

include sound

theorem begin_sound (phase : world.phase thread = .claimed) : ∃ progress, Sound toRaw
      (world.goOn thread 0 (world.shared.nextThrough thread 0 now)) progress := by
  have busy : world.phase thread ≠ .idle := by simp [phase]
  obtain ⟨tickets, written, within, -⟩ := id sound
  cases sound.atWork busy with
  | live _ _ _ taken state writer others through own handed ownerWrites =>
    rw [phase] at through
    obtain ⟨reached⟩ | _ | _ := through
    subst reached
    exact Resuming.goOn ⟨tickets, written, within, state, writer, taken, others, own, handed, ownerWrites⟩ 0 now
  | left _ _ _ state =>
    refine ⟨progress, ?_⟩
    simpa [nextThrough, state] using stop_sound sound state busy false 0

theorem send_sound {count : Option Nat}
    {front : Ticketed Entry} (phase : world.phase thread = .sending front offset frames)
    (offered : count.getD 0 ≤ ((toRaw front.entry).bytes.drop offset).length) : Sound toRaw
      { world with
        socket := world.socket ++ ((toRaw front.entry).bytes.drop offset).take (count.getD 0)
        phase := update world.phase thread (.sent front offset frames count) }
      (progress + count.getD 0) := by
  have busy : world.phase thread ≠ .idle := by simp [phase]
  have atWork := sound.atWork busy
  obtain ⟨tickets, written, within, -⟩ := sound
  cases atWork with
  | live _ rest queue taken state writer others through own handed ownerWrites =>
    rw [phase] at through
    cases through with
    | sending _ reached =>
      subst reached
      obtain ⟨socket, further⟩ := onward written (current_cons queue) offered
      refine ⟨tickets, socket, further within, .under front rest queue taken
        (.writing thread state writer (others_update others _) ?_ own handed ownerWrites)⟩
      simpa using Through.sent frames count rfl
  | left _ rest _ state queue taken others through own handed ownerWrites =>
    rw [phase] at through
    cases through with
    | sending _ reached =>
      subst reached
      obtain ⟨socket, further⟩ := onward written (current_taken queue taken) offered
      refine ⟨tickets, socket, further within, .ended state queue
        (.through thread front rest progress taken (others_update others _) ?_ own handed ownerWrites)⟩
      simpa using Through.sent frames count rfl

theorem finish_sound {front : Ticketed Entry}
    {count : Option Nat} (phase : world.phase thread = .sent front offset frames count) :
    ∃ progress, Sound toRaw (world.goOn thread (frames + 1) (world.shared.writtenThrough thread
      frames ((toRaw front.entry).size - offset) count now)) progress := by
  have busy : world.phase thread ≠ .idle := by simp [phase]
  obtain ⟨tickets, written, within, -⟩ := id sound
  cases sound.atWork busy with
  | live held rest queue taken state writer others through own handed ownerWrites =>
    rw [phase] at through
    cases through with
    | sent _ _ reached =>
      have mine : ¬(world.shared.state ≠ .writing ∨ world.shared.writer ≠ some thread) := by
        simp [state, writer]
      unfold writtenThrough
      rw [if_neg mine]
      split
      · -- part of the frame, or nothing: the own loop goes on from there
        refine ⟨progress, ?_⟩
        simp only [goOn, handOn]
        simp only [leaving_self, append_nil]
        exact ⟨tickets, written, within, .under front rest queue taken
          (.handed rfl rfl (idle_of_others others) own (by simp [handed]) ownerWrites reached)⟩
      · rename_i whole
        have all : count = some ((toRaw front.entry).size - world.shared.frontWritten) :=
          not_not.mp whole
        rw [current_cons queue, bytesOf_single] at written within
        rw [RawMessage.length_bytes] at within
        have reachedEnd : progress = (toRaw front.entry).size := by
          rw [all] at reached
          simp only [getD_some] at reached
          omega
        have full : (toRaw front.entry).bytes.take progress = (toRaw front.entry).bytes := by
          rw [reachedEnd, ← RawMessage.length_bytes, take_length]
        rw [goOn_rebase
          { world.shared with queue := world.shared.queue.tail, frontWritten := 0 }
          (nextThrough_keeps _ _ _ _).1 rfl]
        have popped : leaving world.shared.queue world.shared.queue.tail = [front] := by
          simp [queue]
        have resuming : Resuming { world with
            shared := { world.shared with queue := world.shared.queue.tail, frontWritten := 0 }
            popped := world.popped ++ leaving world.shared.queue world.shared.queue.tail }
            toRaw thread := by
          refine ⟨?_, ?_, Nat.zero_le _, state, writer, taken, others, own, handed, ownerWrites⟩
          · simpa [queue, taken, popped] using tickets
          · simpa [bytesOf_append, full, popped] using written
        exact resuming.goOn (frames + 1) now
  | left _ _ _ state =>
    refine ⟨progress, ?_⟩
    simpa [writtenThrough, state] using stop_sound sound state busy _ (frames + 1)

/-- One action of any thread keeps the account of the bytes written. -/
theorem act_sound {action : Action Entry Thread}
    (acted : world.act toRaw action = some after) : ∃ progress, Sound toRaw after progress := by
  cases act_turn acted with
  | refused => exact ⟨progress, sound⟩
  | queued _ _ _ _ _ alive _ shows busy =>
    exact ⟨progress, queued_sound sound alive shows busy⟩
  | claimed _ _ _ _ _ _ shows free => exact ⟨progress, claimed_sound sound shows free⟩
  | setLimit =>
    exact ⟨progress, sound.alike ⟨rfl, rfl, rfl, rfl, rfl, rfl, rfl, rfl⟩ rfl rfl rfl rfl⟩
  | begin _ _ phase => exact begin_sound sound phase
  | send _ _ _ _ _ phase offered =>
    exact ⟨_, send_sound sound phase offered⟩
  | finish _ _ _ _ _ _ phase => exact finish_sound sound phase
  | quiet now => exact ⟨progress, quiet_sound sound now⟩
  | closeWhenFlushed => exact ⟨progress, closeWhenFlushed_sound sound⟩
  | ownerNext _ _ count next => exact ⟨progress, ownerNext_sound sound count next⟩
  | ownerSends _ _ _ _ writes offered =>
    exact ⟨_, ownerSends_sound sound writes offered⟩
  | ownerWritten _ _ _ _ _ _ writes all =>
    exact ownerWritten_sound sound writes all
  | take => exact ⟨progress, take_sound sound _ _⟩
  | settle whole =>
    refine ⟨progress, settleAside_sound ?_ whole⟩
    exact sound.alike ⟨rfl, rfl, rfl, rfl, rfl, rfl, rfl, rfl⟩ rfl rfl rfl rfl

theorem run_sound {actions : List (Action Entry Thread)}
    (ran : world.run toRaw actions = some after) : ∃ progress, Sound toRaw after progress := by
  induction actions generalizing world progress with
  | nil =>
    cases ran
    exact ⟨progress, sound⟩
  | cons _ _ ih =>
    obtain ⟨_, acted, ran⟩ := bind_eq_some_iff.mp ran
    obtain ⟨_, sound⟩ := act_sound sound acted
    exact ih sound ran

end

end World

end Multiplexer.SharedOutgoing
