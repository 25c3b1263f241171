import Mathlib.Data.List.TakeWhile
import Multiplexer.Servers.Threaded

/-! Acknowledged changes at the threaded server: what each waits for, in what order their
callbacks are released, and who was given each request the queue took. -/

set_option autoImplicit false

namespace Multiplexer.ThreadedServer

open List Option

/-- The requests the queue took before the `before`th that are still queued or in a worker. -/
def outstanding (before : Nat) (server : ThreadedServer) : Nat :=
  server.queue.countP (·.1 < before) + server.workers.countP (Worker.isBefore before)

namespace Closer

def unrefused : Closer → List Nat
  | .refusing left _ => left.map Prod.fst
  | _ => []

def threads? : Closer → Option (List WorkerId)
  | .draining threads | .joining threads => some threads
  | _ => none

def shut : Closer → Bool
  | .away | .closing => false
  | _ => true

end Closer

/-! ## A worker's place -/

variable {place next : Worker} {server : ThreadedServer}

theorem countP_set_worker {workers : List Worker} {worker : WorkerId}
    (found : workers[worker]? = some place) (next : Worker) (counts : Worker → Bool) :
    (workers.set worker next).countP counts + (counts place).toNat =
      workers.countP counts + (counts next).toNat := by
  obtain ⟨inside, rfl⟩ := List.getElem?_eq_some_iff.mp found
  rw [countP_set inside]
  cases held : counts workers[worker] with
  | false => cases counts next <;> simp
  | true =>
    have some_ : 0 < workers.countP counts :=
      countP_pos_iff.mpr ⟨_, getElem_mem inside, held⟩
    cases counts next <;> simp <;> omega

theorem countP_set_worker_same {workers : List Worker} {worker : WorkerId}
    (found : workers[worker]? = some place) {counts : Worker → Bool}
    (same : counts next = counts place) :
    (workers.set worker next).countP counts = workers.countP counts := by
  have moved := countP_set_worker found next counts
  rw [same] at moved
  omega

theorem Worker.isBefore_congr (same : next.number? = place.number?) (before : Nat) :
    next.isBefore before = place.isBefore before := by
  rw [Worker.isBefore, Worker.isBefore, same]

theorem Worker.isBusy_congr (same : next.number? = place.number?) : next.isBusy = place.isBusy := by
  rw [Worker.isBusy, Worker.isBusy, same]

/-! ## What is marked on requests and told the client -/

def Aside (server after : ThreadedServer) : Prop :=
  ∃ requests confirmations replies, after = { server with requests, confirmations, replies }

theorem setRequest_aside (id : RequestId) (state : RequestState) (server : ThreadedServer) :
    Aside server (server.setRequest id state) :=
  ⟨_, _, _, rfl⟩

theorem Aside.trans {between after : ThreadedServer} (one : Aside server between)
    (two : Aside between after) : Aside server after := by
  obtain ⟨_, _, _, rfl⟩ := one
  obtain ⟨_, _, _, rfl⟩ := two
  exact ⟨_, _, _, rfl⟩

theorem send_aside (onIo : Bool) (message : Message) (server : ThreadedServer) :
    Aside server (server.send onIo message) := by
  unfold send
  split <;> exact ⟨_, _, _, rfl⟩

theorem confirm_aside (onIo : Bool) (id : RequestId) (state : RequestState) (outcome : Confirmed)
    (server : ThreadedServer) : Aside server (server.confirm onIo id state outcome) := by
  unfold confirm
  split
  · exact setRequest_aside id state server
  · split <;> exact ⟨_, _, _, rfl⟩

theorem dropState_aside (onIo : Bool) (id : RequestId) (state : RequestState)
    (server : ThreadedServer) : Aside server (server.dropState onIo id state) := by
  unfold dropState
  split
  · exact setRequest_aside id state server
  · exact confirm_aside onIo id state _ server

theorem dropRequest_aside (onIo : Bool) (id : RequestId) (state : RequestState)
    (server : ThreadedServer) : Aside server (server.dropRequest onIo id state) := by
  unfold dropRequest
  split
  · exact setRequest_aside id _ server
  · exact dropState_aside onIo id _ server

theorem dropServed_aside (id : RequestId) (state : RequestState) (server : ThreadedServer) :
    Aside server (server.dropServed id state) := by
  unfold dropServed
  split
  · exact setRequest_aside id _ server
  · exact dropState_aside false id _ server

theorem refuse_aside (options : Options) (onIo : Bool) (id : RequestId) (state : RequestState)
    (server : ThreadedServer) : Aside server (server.refuse options onIo id state) := by
  unfold refuse
  dsimp only
  split
  · exact confirm_aside onIo id _ _ server
  · split
    · exact setRequest_aside id _ server
    · split
      · exact (setRequest_aside id _ server).trans (send_aside onIo _ _)
      · exact setRequest_aside id _ server

/-! ## What the counts say -/

structure Counted (options : Options) (server : ThreadedServer) : Prop where
  order : server.given.map Prod.fst ++ server.left ++ server.queue.map Prod.fst = range server.accepted
  busy : server.busy = server.workers.countP Worker.isBusy
  numbers : ∀ place ∈ server.workers, ∀ number, place.number? = some number → number < server.accepted
  capacity : server.pending ≤ options.capacity
  remaining : ∀ waiting ∈ server.acknowledged, waiting.before ≤ server.accepted ∧
    server.outstanding waiting.before ≤ waiting.remaining ∧
    (server.left = [] → waiting.remaining = server.outstanding waiting.before)
  released : ∀ waiting ∈ server.released, waiting.before ≤ server.accepted ∧
    server.outstanding waiting.before = 0
  changes : (server.released ++ server.acknowledged).map Waiting.change = range server.changes
  ran : server.ran ++ server.due = server.released.filter (·.callback.isSome)
  refused : server.left = server.refused ++ server.closer.unrefused
  -- the workers, from their start to the close's joins
  unstarted : server.connected = false → server.workers = []
  accepts : server.accepting = !server.closer.shut
  threads : server.closer.shut = false → server.threads = range server.workers.length
  joined : ∀ threads, server.closer.threads? = some threads → threads = range server.workers.length
  emptied : Worker.returned ∈ server.workers → server.queue = [] ∧ server.accepting = false
  attended : server.workers ≠ [] → server.left = []
  unclosed : server.closer.shut = false → server.left = []

namespace Counted

variable {options : Options} {server after : ThreadedServer}

theorem initial (options : Options) : Counted options {} where
  order := rfl
  busy := rfl
  numbers _ member := nomatch member
  capacity := Nat.zero_le _
  remaining _ member := nomatch member
  released _ member := nomatch member
  changes := rfl
  ran := rfl
  refused := rfl
  unstarted _ := rfl
  accepts := rfl
  threads _ := rfl
  joined _ is := nomatch is
  emptied member := nomatch member
  attended some_ := absurd rfl some_
  unclosed _ := rfl

theorem aside (counted : Counted options server) (aside : Aside server after) :
    Counted options after := by
  obtain ⟨_, _, _, rfl⟩ := aside
  exact { counted with }

variable {worker : WorkerId} {place : Worker} {id : RequestId}

theorem moves (counted : Counted options server) {next : Worker}
    (found : server.workers[worker]? = some place) (same : next.number? = place.number?)
    (stays : next = .returned → server.queue = [] ∧ server.accepting = false) :
    Counted options (server.setWorker worker next) := by
  have member : place ∈ server.workers := mem_of_getElem? found
  have outstanding : ∀ before, (server.setWorker worker next).outstanding before = server.outstanding before := by
    intro before
    exact congrArg (server.queue.countP (·.1 < before) + ·)
      (countP_set_worker_same found (Worker.isBefore_congr same before))
  refine
    { counted with
      busy := ?_, numbers := ?_, remaining := ?_, released := ?_, unstarted := ?_, threads := ?_,
      joined := ?_, emptied := ?_, attended := ?_ }
  · exact counted.busy.trans (countP_set_worker_same found (Worker.isBusy_congr same)).symm
  · intro each inside number is
    rcases mem_or_eq_of_mem_set inside with there | rfl
    · exact counted.numbers each there number is
    · exact counted.numbers place member number (same ▸ is)
  · intro waiting inside
    rw [outstanding]
    exact counted.remaining waiting inside
  · intro waiting inside
    rw [outstanding]
    exact counted.released waiting inside
  · intro unconnected
    change server.workers.set worker next = []
    rw [counted.unstarted unconnected, set_nil]
  · intro open_
    change server.threads = range (server.workers.set worker next).length
    rw [length_set]
    exact counted.threads open_
  · intro threads is
    change threads = range (server.workers.set worker next).length
    rw [length_set]
    exact counted.joined threads is
  · intro inside
    rcases mem_or_eq_of_mem_set inside with there | rfl
    · exact counted.emptied there
    · exact stays rfl
  · intro _
    exact counted.attended (ne_nil_of_mem member)

theorem movesAside (counted : Counted options server) (aside : Aside server after) {next : Worker}
    (found : server.workers[worker]? = some place) (same : next.number? = place.number?)
    (stays : next = .returned → server.queue = [] ∧ server.accepting = false) :
    Counted options (after.setWorker worker next) := by
  obtain ⟨_, _, _, rfl⟩ := aside
  exact (counted.moves found same stays).aside ⟨_, _, _, rfl⟩

/-! ### The io thread -/

theorem receive {incoming : Incoming} (counted : Counted options server)
    (stepped : server.receive incoming = some after) : Counted options after := by
  unfold ThreadedServer.receive at stepped
  split at stepped
  · cases stepped
    exact { counted with }
  · cases stepped

theorem outstanding_accept (server : ThreadedServer) (id : RequestId) {before : Nat}
    (earlier : before ≤ server.accepted) :
    { server with queue := server.queue ++ [(server.accepted, id)] }.outstanding before =
      server.outstanding before := by
  have later : ¬ server.accepted < before := Nat.not_lt.mpr earlier
  simp [outstanding, countP_append, later]

section

variable (counted : Counted options server)

include counted

theorem onMessage (stepped : server.onMessage options = some after) : Counted options after := by
  unfold ThreadedServer.onMessage at stepped
  split at stepped
  · rename_i id _
    obtain ⟨state, _, rfl⟩ := map_eq_some_iff.mp stepped
    split
    · rename_i room
      simp only [Bool.and_eq_true, decide_eq_true_eq] at room
      obtain ⟨accepts, room⟩ := room
      exact
        { counted with
          order := by
            change server.given.map Prod.fst ++ server.left ++
              (server.queue ++ [(server.accepted, id)]).map Prod.fst = range (server.accepted + 1)
            rw [range_succ, ← counted.order]
            simp
          numbers := fun place member number is =>
            Nat.lt_succ_of_lt (counted.numbers place member number is)
          capacity := by
            change (server.queue ++ [(server.accepted, id)]).length + server.busy ≤ _
            rw [length_append]
            unfold pending at room
            simp only [length_singleton]
            omega
          remaining := fun waiting member => by
            obtain ⟨earlier, counts⟩ := counted.remaining waiting member
            have same := outstanding_accept server id earlier
            exact ⟨Nat.le_succ_of_le earlier, same ▸ counts⟩
          released := fun waiting member => by
            obtain ⟨earlier, none_⟩ := counted.released waiting member
            exact ⟨Nat.le_succ_of_le earlier, (outstanding_accept server id earlier).trans none_⟩
          emptied := fun member => by
            cases accepts.symm.trans (counted.emptied member).2 }
    · exact { counted with }
  · cases stepped

theorem turnAway (stepped : server.turnAway options = some after) : Counted options after := by
  unfold ThreadedServer.turnAway at stepped
  split at stepped
  · obtain ⟨state, _, next⟩ := bind_eq_some_iff.mp stepped
    have told : Counted options { server with dropped := server.dropped + 1, io := .away } :=
      { counted with }
    dsimp only at next
    split at next
    · cases next
      exact told.aside (dropRequest_aside true _ _ _)
    · obtain ⟨_, _, rfl⟩ := map_eq_some_iff.mp next
      exact told.aside ((refuse_aside options true _ _ _).trans (dropRequest_aside true _ _ _))
  · cases stepped

theorem number_lt {number : Nat}
    (member : (number, id) ∈ server.queue) : number < server.accepted := by
  have inside : number ∈ range server.accepted := by
    rw [← counted.order]
    exact mem_append_right _ (List.mem_map.mpr ⟨_, member, rfl⟩)
  exact mem_range.mp inside

theorem outstanding_accepted : server.outstanding server.accepted = server.pending := by
  have queued : server.queue.countP (·.1 < server.accepted) = server.queue.length := by
    rw [countP_eq_length]
    exact fun entry member => decide_eq_true (counted.number_lt member)
  have running : server.workers.countP (Worker.isBefore server.accepted) = server.workers.countP Worker.isBusy := by
    refine countP_congr fun place member => ?_
    unfold Worker.isBefore Worker.isBusy
    cases is : place.number? with
    | none => simp
    | some number => simpa using counted.numbers place member number is
  rw [outstanding, queued, running, pending, counted.busy]

theorem acknowledge (callback : Option CallbackId) : Counted options (server.acknowledge callback) :=
  { counted with
    remaining := fun waiting member => by
      rcases mem_append.mp member with there | new
      · exact counted.remaining waiting there
      · cases mem_singleton.mp new
        exact ⟨le_rfl, counted.outstanding_accepted.le, fun _ => counted.outstanding_accepted.symm⟩
    changes := by
      change (server.released ++ (server.acknowledged ++ [_])).map Waiting.change = range (server.changes + 1)
      rw [range_succ, ← counted.changes, ← append_assoc, map_append]
      rfl }

end

/-! ### The program and the workers -/

theorem connect (counted : Counted options server) (started : Nat) :
    Counted options (server.connect options started) := by
  unfold ThreadedServer.connect
  split
  · rename_i again
    exact { counted with unstarted := fun is => nomatch is }
  · rename_i first
    simp only [Bool.or_eq_true, not_or, Bool.not_eq_true] at first
    obtain ⟨unconnected, _⟩ := first
    have none_ : server.workers = [] := counted.unstarted unconnected
    have fresh : ∀ counts : Worker → Bool, counts .free = false →
        (replicate (min started options.workers) Worker.free).countP counts = server.workers.countP counts := by
      intro counts free
      rw [none_, countP_replicate, free]
      rfl
    split
    · rename_i opens
      simp only [Bool.and_eq_true] at opens
      have open_ : server.closer.shut = false := by
        simpa [counted.accepts] using opens.1
      have same : ∀ before, server.queue.countP (·.1 < before) +
            (replicate (min started options.workers) Worker.free).countP
              (Worker.isBefore before) = server.outstanding before := by
        intro _
        rw [fresh _ rfl, outstanding]
      exact
        { counted with
          busy := counted.busy.trans (fresh _ rfl).symm
          numbers := fun place member number is => by
            cases eq_of_mem_replicate member
            cases is
          remaining := fun waiting member => by
            have counts := counted.remaining waiting member
            rw [← same] at counts
            exact counts
          released := fun waiting member => by
            have counts := counted.released waiting member
            rw [← same] at counts
            exact counts
          unstarted := fun is => nomatch is
          threads := fun _ => by rw [length_replicate]
          joined := fun threads is => by
            cases closer : server.closer <;> simp [closer, Closer.shut, Closer.threads?] at open_ is
          emptied := fun member => nomatch eq_of_mem_replicate member
          attended := fun _ => counted.unclosed open_ }
    · exact { counted with unstarted := fun is => nomatch is }

theorem withProgram {act : RequestState → ThreadedServer}
    (acts : ∀ state, Counted options (act state)) (stepped : server.withProgram id act = some after) :
    Counted options after := by
  obtain ⟨state, _, next⟩ := bind_eq_some_iff.mp stepped
  split at next
  · cases next
    exact acts state
  · cases next

theorem replyMessage {onIo : Bool} {message : Message} (counted : Counted options server)
    (stepped : server.replyMessage onIo id message = some after) : Counted options after := by
  refine withProgram (fun state => ?_) stepped
  split
  · exact counted.aside ((send_aside onIo _ server).trans (setRequest_aside id _ _))
  · exact counted

theorem look (counted : Counted options server) (found : server.workers[worker]? = some place)
    (without : place.number? = none) : Counted options (server.look worker) := by
  unfold ThreadedServer.look
  split
  · rename_i number id queue queued
    have member : place ∈ server.workers := mem_of_getElem? found
    have busy := countP_set_worker found (.given number id) Worker.isBusy
    have idle : place.isBusy = false := by rw [Worker.isBusy, without]; rfl
    have running : (Worker.given number id).isBusy = true := rfl
    have before_ : ∀ before, queue.countP (·.1 < before) +
        (server.workers.set worker (.given number id)).countP (Worker.isBefore before) =
          server.outstanding before := by
      intro before
      have moved := countP_set_worker found (.given number id) (Worker.isBefore before)
      have earlier : place.isBefore before = false := by rw [Worker.isBefore, without]; rfl
      have has : (Worker.given number id).isBefore before = decide (number < before) := rfl
      rw [outstanding, queued, countP_cons]
      rw [earlier, has] at moved
      by_cases is : number < before <;> simp [is] at moved ⊢ <;> omega
    rw [idle, running] at busy
    have open_ : ¬ Worker.returned ∈ server.workers := by
      intro ended
      cases queued.symm.trans (counted.emptied ended).1
    exact
      { counted with
        order := by
          change (server.given ++ [(number, worker)]).map Prod.fst ++ server.left ++
            queue.map Prod.fst = range server.accepted
          rw [← counted.order, queued, counted.attended (ne_nil_of_mem member)]
          simp
        busy := by
          change server.busy + 1 = (server.workers.set worker (.given number id)).countP _
          simp only [Bool.toNat_false, Bool.toNat_true] at busy
          rw [counted.busy]
          omega
        numbers := fun each inside other is => by
          rcases mem_or_eq_of_mem_set inside with there | rfl
          · exact counted.numbers each there other is
          · cases is
            exact counted.number_lt (queued ▸ mem_cons_self)
        capacity := by
          have room := counted.capacity
          unfold pending at room ⊢
          rw [queued] at room
          simp only [length_cons] at room
          change queue.length + (server.busy + 1) ≤ _
          omega
        remaining := fun waiting inside => by
          have counts := counted.remaining waiting inside
          rw [← before_] at counts
          exact counts
        released := fun waiting inside => by
          have counts := counted.released waiting inside
          rw [← before_] at counts
          exact counts
        unstarted := fun unconnected => by
          have none_ := counted.unstarted unconnected
          rw [none_] at member
          cases member
        threads := fun opens =>
          (counted.threads opens).trans (congrArg range length_set.symm)
        joined := fun threads is =>
          (counted.joined threads is).trans (congrArg range length_set.symm)
        emptied := fun inside => by
          rcases mem_or_eq_of_mem_set inside with there | is
          · exact absurd there open_
          · cases is
        attended := fun _ => counted.attended (ne_nil_of_mem member) }
  · rename_i empty
    split
    · have waits : Counted options (server.setWorker worker .waiting) :=
        counted.moves found without.symm nofun
      exact { waits with }
    · rename_i shut
      exact counted.moves found without.symm fun _ => ⟨empty, by simpa using shut⟩

theorem countDown_before (number : Nat) (waiting : Waiting) : (countDown number waiting).before = waiting.before ∧
      (countDown number waiting).change = waiting.change := by
  unfold countDown
  split <;> exact ⟨rfl, rfl⟩

theorem finish (counted : Counted options server) {number : Nat} {failure : Option HandlerError}
    (found : server.workers[worker]? = some (.finishing number failure)) :
    Counted options (server.finish worker number failure) := by
  have member : Worker.finishing number failure ∈ server.workers := mem_of_getElem? found
  unfold ThreadedServer.finish
  extract_lets wake
  have busy := countP_set_worker found (.telling wake failure.isSome) Worker.isBusy
  have moved : ∀ before, server.queue.countP (·.1 < before) +
        (server.workers.set worker (.telling wake failure.isSome)).countP
          (Worker.isBefore before) + (decide (number < before)).toNat =
        server.outstanding before := by
    intro before
    have moved := countP_set_worker found (.telling wake failure.isSome) (Worker.isBefore before)
    have has : (Worker.finishing number failure).isBefore before = decide (number < before) := rfl
    have lacks : (Worker.telling wake failure.isSome).isBefore before = false := rfl
    rw [has, lacks, Bool.toNat_false] at moved
    rw [outstanding]
    omega
  exact
    { counted with
      busy := by
        change server.busy - 1 = (server.workers.set worker _).countP _
        have runs : (Worker.finishing number failure).isBusy = true := rfl
        have rests : (Worker.telling wake failure.isSome).isBusy = false := rfl
        rw [runs, rests, Bool.toNat_false, Bool.toNat_true] at busy
        rw [counted.busy]
        omega
      numbers := fun each inside other is => by
        rcases mem_or_eq_of_mem_set inside with there | rfl
        · exact counted.numbers each there other is
        · cases is
      capacity := le_trans (Nat.add_le_add_left (Nat.sub_le _ _) _) counted.capacity
      remaining := fun waiting inside => by
        obtain ⟨old, there, rfl⟩ := List.mem_map.mp inside
        obtain ⟨earlier, _, same⟩ := counted.remaining old there
        have before_ := (countDown_before number old).1
        rw [before_]
        refine ⟨earlier, ?_⟩
        have moved := moved old.before
        unfold outstanding
        change server.queue.countP _ + (server.workers.set worker _).countP _ ≤ _ ∧
          (_ → _ = server.queue.countP _ + (server.workers.set worker _).countP _)
        unfold countDown
        by_cases waits : number < old.before
        · have counted_ : old.remaining > 0 ∧ number < old.before := by
            rw [decide_eq_true waits, Bool.toNat_true] at moved
            exact ⟨by omega, waits⟩
          rw [if_pos counted_]
          rw [decide_eq_true waits, Bool.toNat_true] at moved
          exact ⟨by simp only; omega, fun none_ => by have := same none_; simp only; omega⟩
        · rw [if_neg fun both => waits both.2]
          rw [decide_eq_false waits, Bool.toNat_false] at moved
          exact ⟨by omega, fun none_ => by have := same none_; omega⟩
      released := fun waiting inside => by
        obtain ⟨earlier, none_⟩ := counted.released waiting inside
        have moved := moved waiting.before
        refine ⟨earlier, ?_⟩
        change server.queue.countP _ + (server.workers.set worker _).countP _ = 0
        omega
      changes := by
        refine Eq.trans ?_ counted.changes
        change (server.released ++ server.acknowledged.map (countDown number)).map _ = _
        rw [map_append, map_append, List.map_map]
        congr 1
        exact map_congr_left fun waiting _ => (countDown_before number waiting).2
      unstarted := fun unconnected => by
        have none_ := counted.unstarted unconnected
        rw [none_] at member
        cases member
      threads := fun opens =>
        (counted.threads opens).trans (congrArg range length_set.symm)
      joined := fun threads is =>
        (counted.joined threads is).trans (congrArg range length_set.symm)
      emptied := fun inside => by
        rcases mem_or_eq_of_mem_set inside with there | is
        · exact counted.emptied there
        · cases is
      attended := fun _ => counted.attended (ne_nil_of_mem member) }

theorem work (counted : Counted options server) {outcome : Option HandlerError} {verdict : Verdict}
    (stepped : server.work worker outcome verdict = some after) : Counted options after := by
  unfold ThreadedServer.work at stepped
  split at stepped
  case h_5 found | h_6 found | h_7 found | h_8 found =>
    obtain ⟨state, _, rfl⟩ := map_eq_some_iff.mp stepped
    exact counted.movesAside (setRequest_aside _ _ server) found rfl nofun
  · cases stepped
  · cases stepped
  · rename_i found
    cases stepped
    exact counted.look found rfl
  · rename_i found
    cases stepped
    have awake : Counted options { server with idle := server.idle - 1 } := { counted with }
    exact awake.look found rfl
  · rename_i found
    obtain ⟨state, _, rfl⟩ := map_eq_some_iff.mp stepped
    split
    · exact counted.movesAside ((send_aside false _ server).trans (setRequest_aside _ _ _)) found
        rfl nofun
    · exact counted.moves found rfl nofun
  · rename_i found
    cases stepped
    exact counted.moves found rfl nofun
  · rename_i found
    obtain ⟨state, _, rfl⟩ := map_eq_some_iff.mp stepped
    exact counted.movesAside (dropServed_aside _ _ server) found rfl nofun
  · rename_i found
    cases stepped
    exact counted.finish found
  · rename_i found
    cases stepped
    have free : Counted options (server.setWorker worker .free) :=
      counted.moves found rfl nofun
    exact { free with }

/-! ### The serving thread and the close -/

section

variable (counted : Counted options server)

include counted

theorem runAcknowledged (stepped : server.runAcknowledged = some after) : Counted options after := by
  unfold ThreadedServer.runAcknowledged at stepped
  split at stepped
  · rename_i none_
    cases stepped
    exact
      { counted with
        remaining := fun waiting member =>
          counted.remaining waiting ((dropWhile_suffix _).subset member)
        released := fun waiting member => by
          rcases mem_append.mp member with there | new
          · exact counted.released waiting there
          · obtain ⟨earlier, bound, _⟩ :=
              counted.remaining waiting ((List.takeWhile_prefix _).subset new)
            have done := mem_takeWhile_imp new
            simp only [beq_iff_eq] at done
            exact ⟨earlier, Nat.le_zero.mp (done ▸ bound)⟩
        changes := by
          refine Eq.trans ?_ counted.changes
          change ((server.released ++ server.acknowledged.takeWhile _) ++ server.acknowledged.dropWhile _).map _ = _
          rw [append_assoc, takeWhile_append_dropWhile]
        ran := by
          change server.ran ++ (server.acknowledged.takeWhile _).filter _ =
            (server.released ++ server.acknowledged.takeWhile _).filter _
          rw [filter_append, ← counted.ran, none_, append_nil] }
  · cases stepped

theorem runCallback (stepped : server.runCallback = some after) : Counted options after := by
  unfold ThreadedServer.runCallback at stepped
  split at stepped
  · cases stepped
  · rename_i waiting due is
    cases stepped
    exact
      { counted with
        ran := by
          refine Eq.trans ?_ counted.ran
          rw [is]
          exact append_assoc _ [waiting] due }

theorem startDraining : Counted options server.startDraining := by
  unfold ThreadedServer.startDraining
  split
  · exact counted
  · exact { counted with }

theorem closes {closer : Closer}
    (same : closer.unrefused = server.closer.unrefused) (was : server.closer.shut = true)
    (shut : closer.shut = true)
    (threads : ∀ taken, closer.threads? = some taken → server.closer.threads? = some taken) :
    Counted options { server with closer } :=
  { counted with
    refused := counted.refused.trans (congrArg _ same.symm)
    accepts := by rw [counted.accepts, was, shut]
    threads := fun opens => nomatch shut.symm.trans opens
    joined := fun taken is => counted.joined taken (threads taken is)
    unclosed := fun opens => nomatch shut.symm.trans opens }

theorem close (stepped : server.close options = some after) : Counted options after := by
  unfold ThreadedServer.close at stepped
  split at stepped
  · rename_i is
    cases stepped
    have shut : server.closer.shut = false := by rw [is]; rfl
    exact
      { counted with
        refused := by have := counted.refused; rw [is] at this; exact this
        accepts := by rw [counted.accepts, is]; rfl
        threads := fun _ => counted.threads shut
        joined := fun threads is => nomatch is
        unclosed := fun _ => counted.unclosed shut }
  · rename_i is
    cases stepped
    have shut : server.closer.shut = false := by rw [is]; rfl
    exact
      { counted with
        refused := by have := counted.refused; rw [is] at this; exact this
        accepts := rfl
        threads := fun opens => nomatch opens
        joined := fun threads taken => by
          cases taken
          exact counted.threads shut
        emptied := fun member => ⟨(counted.emptied member).1, rfl⟩
        unclosed := fun opens => nomatch opens }
  · rename_i threads is
    cases stepped
    have drains : Counted options { server with closer := .joining threads } :=
      counted.closes (by rw [is]; rfl) (by rw [is]; rfl) rfl fun taken is' => by rw [is]; exact is'
    have drained := drains.startDraining
    unfold ThreadedServer.startDraining at drained ⊢
    split at drained <;> split <;> exact { drained with }
  · rename_i threads is
    split at stepped
    · rename_i joined
      cases stepped
      have taken : threads = range server.workers.length :=
        counted.joined threads (by rw [is]; rfl)
      have none_ : server.workers ≠ [] → server.queue = [] := by
        intro some_
        have first : 0 ∈ threads := by
          rw [taken, mem_range]
          exact length_pos_of_ne_nil some_
        have ended := List.all_eq_true.mp joined 0 first
        simp only [decide_eq_true_eq] at ended
        exact (counted.emptied (mem_of_getElem? ended)).1
      have fewer : ∀ before, [].countP (fun entry : Nat × RequestId => entry.1 < before) +
          server.workers.countP (Worker.isBefore before) ≤ server.outstanding before :=
        fun before => Nat.add_le_add_right (Nat.zero_le _) _
      exact
        { counted with
          order := by
            refine Eq.trans ?_ counted.order
            simp
          capacity := le_trans (Nat.add_le_add_right (Nat.zero_le _) _) counted.capacity
          remaining := fun waiting member => by
            obtain ⟨earlier, bound, same⟩ := counted.remaining waiting member
            refine ⟨earlier, (fewer _).trans bound, fun nothing => ?_⟩
            obtain ⟨none_, empty⟩ := append_eq_nil_iff.mp nothing
            rw [same none_, outstanding, map_eq_nil_iff.mp empty]
            rfl
          released := fun waiting member => by
            obtain ⟨earlier, none_⟩ := counted.released waiting member
            exact ⟨earlier, Nat.le_zero.mp (none_ ▸ fewer _)⟩
          refused := by
            have told := counted.refused
            rw [is] at told
            rw [told]
            exact congrArg (· ++ _) (append_nil _)
          accepts := by rw [counted.accepts, is]; rfl
          threads := fun opens => nomatch opens
          joined := fun _ is' => nomatch is'
          emptied := fun member => ⟨rfl, (counted.emptied member).2⟩
          attended := fun some_ => by
            rw [counted.attended some_, none_ some_]
            rfl
          unclosed := fun opens => nomatch opens }
    · cases stepped
  · rename_i number id left told is
    obtain ⟨state, _, rfl⟩ := map_eq_some_iff.mp stepped
    obtain ⟨requests, confirmations, replies, same⟩ := refuse_aside options false id state server
    rw [same]
    exact
      { counted with
        refused := by
          refine counted.refused.trans ?_
          rw [is]
          exact (append_assoc _ [number] _).symm
        accepts := by rw [counted.accepts, is]; rfl
        threads := fun opens => nomatch opens
        joined := fun taken is' => nomatch is'
        unclosed := fun opens => nomatch opens }
  · rename_i id told is
    obtain ⟨state, _, rfl⟩ := map_eq_some_iff.mp stepped
    have closes : Counted options { server with closer := .refusing [] told } :=
      counted.closes (by rw [is]; rfl) (by rw [is]; rfl) rfl fun _ is' => nomatch is'
    obtain ⟨requests, confirmations, replies, same⟩ := dropRequest_aside false id state server
    rw [same]
    exact { closes with }
  · rename_i is
    cases stepped
    exact counted.closes (by rw [is]; rfl) (by rw [is]; rfl) rfl fun _ is' => nomatch is'
  · rename_i is
    cases stepped
    have closes : Counted options { server with closer := .closed } :=
      counted.closes (by rw [is]; rfl) (by rw [is]; rfl) rfl fun _ is' => nomatch is'
    exact { closes with }
  · cases stepped

theorem act {step : Step}
    (stepped : server.act options step = some after) : Counted options after := by
  cases step with
  | receive => exact counted.receive stepped
  | onMessage => exact counted.onMessage stepped
  | turnAway => exact counted.turnAway stepped
  | acknowledge callback =>
    cases stepped
    exact counted.acknowledge callback
  | connect started =>
    cases stepped
    exact counted.connect started
  | replyMessage => exact counted.replyMessage stepped
  | noResponse id =>
    exact withProgram (fun state => counted.aside (setRequest_aside id _ server)) stepped
  | letGo onIo id =>
    exact withProgram (fun state => counted.aside (dropRequest_aside onIo id state server)) stepped
  | work => exact counted.work stepped
  | runAcknowledged => exact counted.runAcknowledged stepped
  | runCallback => exact counted.runCallback stepped
  | startDraining =>
    cases stepped
    exact counted.startDraining
  | stop | shutdownClient =>
    cases stepped
    exact { counted with }
  | close => exact counted.close stepped
  | tearDown =>
    change server.tearDown = some after at stepped
    unfold tearDown at stepped
    split at stepped
    · cases stepped
      exact { counted with }
    · cases stepped

theorem run {steps : List Step}
    (ran : server.run options steps = some after) : Counted options after := by
  induction steps generalizing server with
  | nil =>
    cases ran
    exact counted
  | cons _ _ ih =>
    obtain ⟨_, stepped, rest⟩ := bind_eq_some_iff.mp ran
    exact ih (counted.act stepped) rest

end

end Counted

theorem Reached.counted {options : Options} (reached : Reached options server) :
    Counted options server :=
  let ⟨_, ran⟩ := reached
  (Counted.initial options).run ran

theorem Counted.inOrder {options : Options} (counted : Counted options server) :
    (server.released ++ server.acknowledged).Pairwise fun one two => one.change < two.change := by
  rw [← pairwise_map (f := Waiting.change), counted.changes]
  exact pairwise_lt_range

/-- Whatever the interleaving, a change waits for exactly the requests taken before it that are
queued or in a worker; its callback is released once none is, in the order the changes came; and
each request taken is queued, given to a worker or the close's to refuse, once. -/
theorem changes_wait_for_what_was_taken {options : Options} {server : ThreadedServer}
    (reached : Reached options server) : (server.left = [] → ∀ waiting ∈ server.acknowledged,
      waiting.remaining = server.outstanding waiting.before) ∧
    (∀ waiting ∈ server.ran ++ server.due, server.outstanding waiting.before = 0) ∧
    (server.ran ++ server.due ++ server.acknowledged).Pairwise (fun one two => one.change < two.change) ∧
    server.given.map Prod.fst ++ server.refused ++ server.closer.unrefused ++
      server.queue.map Prod.fst = range server.accepted ∧
    server.queue.length + server.workers.countP Worker.isBusy ≤ options.workers + options.queueSize := by
  have counted := reached.counted
  have ran : (server.ran ++ server.due).Sublist server.released := by
    rw [counted.ran]
    exact filter_sublist
  refine ⟨fun attended waiting member => (counted.remaining waiting member).2.2 attended,
    fun waiting member => (counted.released waiting (ran.subset member)).2,
    counted.inOrder.sublist (ran.append_right _), ?_, ?_⟩
  · rw [← counted.order, counted.refused]
    simp only [append_assoc]
  · rw [← counted.busy]
    exact counted.capacity.trans (Nat.min_le_left _ _)

def someIncoming : Incoming :=
  { message := {}, connection := { conn := none, target := ⟨.address 0, 0⟩ } }

/-- A request is taken and a change acknowledged; then a worker takes the request. -/
def givingAway : List Step :=
  [.receive someIncoming, .onMessage, .acknowledge (some 7), .connect 1, .work 0 none .goesOn]

def givenAway : ThreadedServer := (run {} givingAway {}).getD {}

theorem changes_wait_for_a_worker : Reached {} givenAway ∧ givenAway.left = [] ∧
      givenAway.acknowledged = [{ before := 1, remaining := 1, callback := some 7, change := 0 }] ∧
      ∀ waiting ∈ givenAway.acknowledged, waiting.remaining = givenAway.outstanding waiting.before :=
  have reached : Reached {} givenAway := ⟨givingAway, rfl⟩
  ⟨reached, rfl, rfl, (changes_wait_for_what_was_taken reached).1 rfl⟩

/-- The same, with no worker started: the close takes the request out of the queue to refuse
it. -/
def leavingBehind : List Step :=
  [.receive someIncoming, .onMessage, .acknowledge (some 7), .close, .close, .close, .close]

def leftBehind : ThreadedServer := (run {} leavingBehind {}).getD {}

/-- The change goes on waiting for a request that is neither queued nor in a worker. -/
theorem change_waits_for_what_was_refused : Reached {} leftBehind ∧
      leftBehind.acknowledged = [{ before := 1, remaining := 1, callback := some 7, change := 0 }] ∧
      leftBehind.outstanding 1 = 0 :=
  ⟨⟨leavingBehind, rfl⟩, rfl, rfl⟩

end Multiplexer.ThreadedServer
