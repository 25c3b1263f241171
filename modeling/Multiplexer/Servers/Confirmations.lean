import Mathlib.Data.List.Nodup
import Multiplexer.Servers.Acknowledged

/-! The confirmations the threaded server gives. What it tells a message's producer is decided
as the request's state goes, whoever let go of it last. -/

set_option autoImplicit false

namespace Multiplexer.ThreadedServer

open List Option Function

def outcomes (id : RequestId) (server : ThreadedServer) : List Confirmed :=
  (server.confirmations.filter (·.request == id)).map HandedConfirmation.outcome

namespace RequestState

def told? (state : RequestState) : Option Confirmed :=
  if state.number?.isNone then none
  else
    match state.fate with
    | .underWay | .full => none
    | .handled failed =>
      if state.gone then some (if failed then .failed else .processed) else none
    | .refused => some .refused

def Waits (state : RequestState) : Prop := state.fate = .underWay ∧ state.served = false

end RequestState

def IoThread.request? : IoThread → Option RequestId
  | .away => none
  | .received id | .turnedAway id _ => some id

namespace Worker

def request? : Worker → Option RequestId
  | .given _ id | .handling _ id | .ended _ id _ | .marked _ id _ | .reported _ id _
  | .settled _ id _ => some id
  | _ => none

def Fits (state : RequestState) : Worker → Prop
  | .given .. => state.fate = .underWay ∧ state.served = false
  | .handling .. => state.fate = .underWay ∧ state.served = true
  | .ended _ _ failure =>
    state.fate = .handled failure.isSome ∧ state.served = true ∧ state.failed = false
  | .marked .. | .reported .. =>
    state.fate = .handled true ∧ state.served = true ∧ state.failed = true
  | .settled .. => state.fate = .handled state.failed ∧ state.served = true
  | _ => True

end Worker

namespace Closer

def toRefuse : Closer → List (Nat × RequestId)
  | .refusing left _ => left
  | _ => []

def toDrop : Closer → List (Nat × RequestId)
  | .refusing _ told => told
  | _ => []

end Closer

structure Links (server : ThreadedServer) (id : RequestId) (state : RequestState) : Prop where
  io : server.io.request? = some id → state.place = .io ∧ state.Waits
  queued : ∀ number, (number, id) ∈ server.queue → state.place = .queued number ∧ state.Waits
  worker : ∀ (worker : WorkerId) (place : Worker), server.workers[worker]? = some place →
    place.request? = some id → state.place = .worker worker ∧ place.Fits state
  left : ∀ number, (number, id) ∈ server.closer.toRefuse → state.place = .closing ∧ state.Waits
  told : ∀ number, (number, id) ∈ server.closer.toDrop → state.place = .closing ∧ state.fate = .refused

def Has (server : ThreadedServer) (id : RequestId) : Prop :=
  server.io.request? = some id ∨ (∃ number, (number, id) ∈ server.queue) ∨
    (∃ (worker : WorkerId) (place : Worker), server.workers[worker]? = some place ∧
      place.request? = some id) ∨
    ∃ number, (number, id) ∈ server.closer.toRefuse ++ server.closer.toDrop

/-- What was told of a request is what is to be told of it, unless the client, shut down by
then, did not hear it. -/
structure Sound (server : ThreadedServer) (state : RequestState) (outcomes : List Confirmed) : Prop where
  heard : outcomes = if state.late then [] else state.told?.toList
  late : state.late = true → state.told?.isSome = true ∧ server.stopped = true
  waits : state.fate = .underWay → state.confirms = true ∧ state.failed = false ∧ state.gone = false
  handled : ∀ failed, state.fate = .handled failed →
    state.confirms = true ∧ (state.served = false → state.failed = failed)
  full : state.fate = .full → state.served = false
  refused : state.fate = .refused → state.served = false ∧ server.accepting = false ∧
    (state.message.confirmation.isSome = true → state.confirms = false)

def witnessed (server : ThreadedServer) :=
  (server.requests, server.io, server.queue, server.workers, server.closer, server.confirmations,
    server.received, server.stopped, server.tornDown, server.accepting)

structure Tracked (server : ThreadedServer) : Prop where
  unknown : ∀ id, server.received ≤ id → server.requests id = none
  unheard : ∀ id, server.requests id = none → server.outcomes id = [] ∧ ¬ server.Has id
  links : ∀ id state, server.requests id = some state → Links server id state
  sound : ∀ id state, server.requests id = some state → Sound server state (server.outcomes id)
  apart : ((server.closer.toRefuse ++ server.closer.toDrop).map Prod.snd).Nodup
  torn : server.tornDown = true → server.stopped = true
  turned : ∀ id, server.io = .turnedAway id false → server.accepting = false

/-! ## What the client was told -/

theorem outcomes_append (id : RequestId) (server : ThreadedServer) (one : HandedConfirmation) :
    { server with confirmations := server.confirmations ++ [one] }.outcomes id =
      server.outcomes id ++ if one.request = id then [one.outcome] else [] := by
  unfold outcomes
  rw [filter_append, map_append]
  by_cases is : one.request = id <;> simp [is]

theorem send_requests (onIo : Bool) (message : Message) (server : ThreadedServer) :
    (server.send onIo message).requests = server.requests := by
  unfold send
  split <;> rfl

theorem send_outcomes (onIo : Bool) (message : Message) (id : RequestId)
    (server : ThreadedServer) : (server.send onIo message).outcomes id = server.outcomes id := by
  unfold send
  split <;> rfl

theorem confirm_eq (onIo : Bool) (id : RequestId) (state : RequestState) (outcome : Confirmed)
    (server : ThreadedServer) :
    ∃ late, (late = true → server.takesCalls onIo = false ∧ state.number?.isSome = true) ∧
      (server.confirm onIo id state outcome).requests =
        update server.requests id (some { state with late := state.late || late }) ∧
      ∀ other, (server.confirm onIo id state outcome).outcomes other = server.outcomes other ++
          if other = id ∧ state.number?.isSome = true ∧ late = false then [outcome] else [] := by
  unfold confirm
  split
  · rename_i none_
    refine ⟨false, nofun, ?_, fun other => ?_⟩
    · simp [setRequest]
    · simp [none_, setRequest, outcomes]
  · rename_i number some_
    split
    · refine ⟨false, nofun, ?_, fun other => ?_⟩
      · simp [setRequest]
      · refine (outcomes_append other (server.setRequest id state) _).trans ?_
        simp only [some_, isSome_some, and_true]
        by_cases is : other = id
        · subst is
          simp [outcomes, setRequest]
        · rw [if_neg is, if_neg (Ne.symm is)]
          rfl
    · rename_i refused
      refine ⟨true, fun _ => ⟨by simpa using refused, by rw [some_]; rfl⟩, ?_, fun other => ?_⟩
      · simp [setRequest]
      · simp [setRequest, outcomes]

variable {server after : ThreadedServer} {id : RequestId} {state next : RequestState}
  {outcomes : List Confirmed}

theorem dropState_handled (onIo : Bool) (id : RequestId) (state : RequestState)
    (confirms : state.confirms = true) (fate : state.fate = .handled state.failed)
    (gone : state.gone = true) (silent : server.outcomes id = []) (punctual : state.late = false) :
    ∃ late, (late = true → server.takesCalls onIo = false ∧ state.number?.isSome = true) ∧
      (server.dropState onIo id state).requests =
        update server.requests id (some { state with late }) ∧
      (∀ other, other ≠ id → (server.dropState onIo id state).outcomes other = server.outcomes other) ∧
      (server.dropState onIo id state).outcomes id =
        if late then [] else state.told?.toList := by
  unfold dropState
  split
  · rename_i unasked
    have none_ : state.message.confirmation = none := by
      simpa [confirms] using unasked
    have number : state.number? = none := by
      rw [RequestState.number?, none_]
      rfl
    refine ⟨false, nofun, ?_, fun _ _ => rfl, ?_⟩
    · rw [setRequest, ← punctual]
    · change server.outcomes id = _
      rw [silent, RequestState.told?, number]
      rfl
  · obtain ⟨late, missed, requests, told⟩ :=
      confirm_eq onIo id state (if state.failed then .failed else .processed) server
    refine ⟨late, missed, ?_, fun other away => ?_, ?_⟩
    · rw [requests, punctual, Bool.false_or]
    · rw [told other, if_neg fun all => away all.1, append_nil]
    · rw [told id, silent, nil_append, RequestState.told?, fate, gone]
      cases late <;> cases is : state.number? <;> simp

theorem dropState_told {onIo : Bool}
    (silent : state.message.confirmation.isSome = true → state.confirms = false) :
    server.dropState onIo id state = server.setRequest id state := by
  unfold dropState
  rw [if_pos]
  cases is : state.message.confirmation with
  | none => simp
  | some => simp [silent (by rw [is]; rfl)]

theorem stopped_of_missed (tracked : Tracked server) {onIo : Bool}
    (missed : server.takesCalls onIo = false) : server.stopped = true := by
  cases onIo with
  | true => exact tracked.torn (by simpa [takesCalls] using missed)
  | false => simpa [takesCalls] using missed

/-! ## One request changes -/

/-- Where a request is held, and what its state is like there. -/
inductive At (io : IoThread) (queue : List (Nat × RequestId)) (workers : List Worker)
    (closer : Closer) (id : RequestId) : Place → (RequestState → Prop) → Prop
  | io (is : io.request? = some id) : At io queue workers closer id .io RequestState.Waits
  | queued {number : Nat} (member : (number, id) ∈ queue) :
      At io queue workers closer id (.queued number) RequestState.Waits
  | worker {worker : WorkerId} {place : Worker} (there : workers[worker]? = some place)
      (is : place.request? = some id) : At io queue workers closer id (.worker worker) (place.Fits ·)
  | left {number : Nat} (member : (number, id) ∈ closer.toRefuse) :
      At io queue workers closer id .closing RequestState.Waits
  | told {number : Nat} (member : (number, id) ∈ closer.toDrop) :
      At io queue workers closer id .closing (·.fate = .refused)

abbrev Holds (server : ThreadedServer) := At server.io server.queue server.workers server.closer

theorem links_iff : Links server id state ↔
    ∀ place fit, server.Holds id place fit → state.place = place ∧ fit state := by
  constructor
  · rintro links _ _ (is | member | ⟨there, is⟩ | member | member)
    · exact links.io is
    · exact links.queued _ member
    · exact links.worker _ _ there is
    · exact links.left _ member
    · exact links.told _ member
  · intro links
    exact
      { io := fun is => links _ _ (.io is)
        queued := fun _ member => links _ _ (.queued member)
        worker := fun _ _ there is => links _ _ (.worker there is)
        left := fun _ member => links _ _ (.left member)
        told := fun _ member => links _ _ (.told member) }

theorem has_iff : server.Has id ↔ ∃ place fit, server.Holds id place fit := by
  constructor
  · rintro (is | ⟨_, member⟩ | ⟨_, _, there, is⟩ | ⟨_, member⟩)
    · exact ⟨_, _, .io is⟩
    · exact ⟨_, _, .queued member⟩
    · exact ⟨_, _, .worker there is⟩
    · exact (mem_append.mp member).elim (⟨_, _, .left ·⟩) (⟨_, _, .told ·⟩)
  · rintro ⟨_, _, is | member | ⟨there, is⟩ | member | member⟩
    · exact .inl is
    · exact .inr (.inl ⟨_, member⟩)
    · exact .inr (.inr (.inl ⟨_, _, there, is⟩))
    · exact .inr (.inr (.inr ⟨_, mem_append_left _ member⟩))
    · exact .inr (.inr (.inr ⟨_, mem_append_right _ member⟩))

/-- A request is held in one place. -/
theorem Links.stays (links : Links server id state) {here place : Place} (is : state.place = here)
    {other : RequestId} {fit : RequestState → Prop} (held : server.Holds other place fit)
    (away : place ≠ here) : other ≠ id ∧ server.Holds other place fit := by
  refine ⟨?_, held⟩
  rintro rfl
  exact away ((links_iff.mp links place fit held).1.symm.trans is)

theorem Links.congr (links : Links server id state) (place : next.place = state.place)
    (fate : next.fate = state.fate) (served : next.served = state.served)
    (failed : next.failed = state.failed) : Links server id next where
  io is := ⟨place.trans (links.io is).1, fate.trans (links.io is).2.1, served.trans (links.io is).2.2⟩
  queued number is := ⟨place.trans (links.queued number is).1,
    fate.trans (links.queued number is).2.1, served.trans (links.queued number is).2.2⟩
  worker worker at_ found has := by
    obtain ⟨there, fits⟩ := links.worker worker at_ found has
    refine ⟨place.trans there, ?_⟩
    cases at_ <;> simp only [Worker.Fits, fate, served, failed] at fits ⊢ <;> exact fits
  left number is := ⟨place.trans (links.left number is).1,
    fate.trans (links.left number is).2.1, served.trans (links.left number is).2.2⟩
  told number is := ⟨place.trans (links.told number is).1, fate.trans (links.told number is).2⟩

theorem Sound.later (sound : Sound server state outcomes) (stopped : server.stopped = true → after.stopped = true)
    (accepting : server.accepting = false → after.accepting = false) : Sound after state outcomes :=
  { sound with
    late := fun late => ⟨(sound.late late).1, stopped (sound.late late).2⟩
    refused := fun is =>
      ⟨(sound.refused is).1, accepting (sound.refused is).2.1, (sound.refused is).2.2⟩ }

theorem Tracked.change (tracked : Tracked server) (found : server.requests id = some state)
    (requests : after.requests = update server.requests id (some next))
    (outcomes : ∀ other, other ≠ id → after.outcomes other = server.outcomes other)
    (received : after.received = server.received)
    (stopped : server.stopped = true → after.stopped = true)
    (accepting : server.accepting = false → after.accepting = false)
    (torn : after.tornDown = server.tornDown)
    (turned : ∀ id, after.io = .turnedAway id false → after.accepting = false)
    (placed : ∀ other place fit, after.Holds other place fit →
      other = id ∧ next.place = place ∧ fit next ∨ other ≠ id ∧ server.Holds other place fit)
    (apart : ((after.closer.toRefuse ++ after.closer.toDrop).map Prod.snd).Nodup)
    (sound : Sound after next (after.outcomes id)) : Tracked after where
  unknown other far := by
    have none_ := tracked.unknown other (received ▸ far)
    have away : other ≠ id := by
      rintro rfl
      cases none_.symm.trans found
    rw [requests, update_of_ne away]
    exact none_
  unheard other missing := by
    have away : other ≠ id := by
      rintro rfl
      rw [requests, update_self] at missing
      cases missing
    rw [requests, update_of_ne away] at missing
    obtain ⟨silent, unlinked⟩ := tracked.unheard other missing
    refine ⟨(outcomes other away).trans silent, fun linked => unlinked ?_⟩
    obtain ⟨place, fit, held⟩ := has_iff.mp linked
    exact has_iff.mpr ⟨place, fit, ((placed _ _ _ held).resolve_left fun now => away now.1).2⟩
  links other each there := by
    by_cases is : other = id
    · subst is
      rw [requests, update_self] at there
      cases there
      exact links_iff.mpr fun _ _ held =>
        ((placed _ _ _ held).resolve_right fun was => was.1 rfl).2
    · rw [requests, update_of_ne is] at there
      exact links_iff.mpr fun _ _ held => links_iff.mp (tracked.links other each there) _ _
        ((placed _ _ _ held).resolve_left fun now => is now.1).2
  sound other each there := by
    by_cases is : other = id
    · subst is
      rw [requests, update_self] at there
      cases there
      exact sound
    · rw [requests, update_of_ne is] at there
      rw [outcomes other is]
      exact (tracked.sound other each there).later stopped accepting
  apart := apart
  torn is := stopped (tracked.torn (torn ▸ is))
  turned := turned

theorem Tracked.marked (tracked : Tracked server) (aside : Aside server after)
    (found : server.requests id = some state)
    (requests : after.requests = update server.requests id (some next))
    (outcomes : ∀ other, other ≠ id → after.outcomes other = server.outcomes other)
    (links : Links server id next) (sound : Sound server next (after.outcomes id)) :
    Tracked after := by
  obtain ⟨_, _, _, rfl⟩ := aside
  refine tracked.change found requests outcomes rfl (fun is => is) (fun is => is) rfl tracked.turned
    (fun other place fit held => ?_) tracked.apart { sound with }
  by_cases is : other = id
  · exact .inl ⟨is, links_iff.mp links place fit (is ▸ held)⟩
  · exact .inr ⟨is, held⟩

/-- The requests stay, each held where it was or no longer held. -/
theorem Tracked.moves (tracked : Tracked server) {io : IoThread} {queue : List (Nat × RequestId)}
    {workers : List Worker} {closer : Closer} {accepting stopped : Bool} {dropped : Nat}
    (holds : ∀ id place fit, At io queue workers closer id place fit → server.Holds id place fit)
    (apart : ((closer.toRefuse ++ closer.toDrop).map Prod.snd).Nodup)
    (leaving : server.accepting = false → accepting = false)
    (shut : server.stopped = true → stopped = true)
    (turned : ∀ id, io = .turnedAway id false → accepting = false) :
    Tracked { server with io, queue, workers, closer, accepting, stopped, dropped } where
  unknown := tracked.unknown
  unheard id missing := by
    obtain ⟨silent, unlinked⟩ := tracked.unheard id missing
    refine ⟨silent, fun linked => unlinked ?_⟩
    obtain ⟨place, fit, held⟩ := has_iff.mp linked
    exact has_iff.mpr ⟨place, fit, holds id place fit held⟩
  links id state known := links_iff.mpr fun place fit held =>
    links_iff.mp (tracked.links id state known) place fit (holds id place fit held)
  sound id state known := (tracked.sound id state known).later shut leaving
  apart := apart
  torn is := shut (tracked.torn is)
  turned := turned

theorem set_at {workers : List Worker} {worker each : WorkerId} {next at_ : Worker}
    (there : (workers.set worker next)[each]? = some at_) :
    each = worker ∧ at_ = next ∨ each ≠ worker ∧ workers[each]? = some at_ := by
  rw [getElem?_set] at there
  split at there
  · rename_i same
    simp_all
  · rename_i away
    exact .inr ⟨Ne.symm away, there⟩

theorem Tracked.atWorker (tracked : Tracked server) (aside : Aside server after) {worker : WorkerId}
    {place to_ : Worker} (found : server.workers[worker]? = some place)
    (has : place.request? = some id) (known : server.requests id = some state)
    (requests : after.requests = update server.requests id (some next))
    (outcomes : ∀ other, other ≠ id → after.outcomes other = server.outcomes other)
    (fits : to_.request? = none ∨ to_.request? = some id ∧ next.place = .worker worker ∧ to_.Fits next)
    (sound : Sound server next (after.outcomes id)) : Tracked (after.setWorker worker to_) := by
  have links := tracked.links id state known
  have here : state.place = .worker worker := (links.worker worker place found has).1
  obtain ⟨_, _, _, rfl⟩ := aside
  refine tracked.change known requests outcomes rfl (fun is => is) (fun is => is) rfl
    tracked.turned (fun other where_ fit held => ?_) tracked.apart { sound with }
  cases held with
  | worker there is =>
    obtain ⟨rfl, rfl⟩ | ⟨same, there⟩ := set_at there
    · rcases fits with none_ | ⟨some_, fits⟩
      · cases none_.symm.trans is
      · exact .inl ⟨some.inj (is.symm.trans some_), fits⟩
    · exact .inr (links.stays here (.worker there is) fun is => same (by injection is))
  | io | queued | left | told => exact .inr (links.stays here (by constructor <;> assumption) nofun)

theorem Sound.silent (sound : Sound server state outcomes) (untold : state.told? = none) :
    outcomes = [] ∧ state.late = false := by
  have punctual : state.late = false := by
    cases is : state.late with
    | false => rfl
    | true =>
      have told := (sound.late is).1
      rw [untold] at told
      cases told
  exact ⟨by rw [sound.heard, punctual, untold]; rfl, punctual⟩

theorem told?_underWay (fate : state.fate = .underWay) : state.told? = none := by
  unfold RequestState.told?
  rw [fate]
  split <;> rfl

theorem told?_held {failed : Bool} (fate : state.fate = .handled failed) (held : state.gone = false) :
    state.told? = none := by
  unfold RequestState.told?
  rw [fate, held]
  split <;> rfl

theorem Sound.of_silent (silent : outcomes = []) (punctual : state.late = false)
    (untold : state.told? = none) (waits : state.fate = .underWay →
      state.confirms = true ∧ state.failed = false ∧ state.gone = false)
    (handled : ∀ failed, state.fate = .handled failed →
      state.confirms = true ∧ (state.served = false → state.failed = failed))
    (full : state.fate ≠ .full) (refused : state.fate ≠ .refused) :
    Sound server state outcomes where
  heard := by rw [silent, punctual, untold]; rfl
  late is := nomatch punctual.symm.trans is
  waits := waits
  handled := handled
  full is := absurd is full
  refused is := absurd is refused

/-! ## The program and the workers -/

theorem fate_cases (fate : Fate) :
    fate = .underWay ∨ (∃ failed, fate = .handled failed) ∨ fate = .full ∨ fate = .refused := by
  cases fate with
  | underWay => exact .inl rfl
  | handled failed => exact .inr (.inl ⟨failed, rfl⟩)
  | full => exact .inr (.inr (.inl rfl))
  | refused => exact .inr (.inr (.inr rfl))

namespace Tracked

variable {options : Options} {server after : ThreadedServer}

theorem elsewhere (tracked : Tracked server) (same : after.witnessed = server.witnessed) :
    Tracked after := by
  cases server
  cases after
  simp only [witnessed, Prod.mk.injEq] at same
  obtain ⟨rfl, rfl, rfl, rfl, rfl, rfl, rfl, rfl, rfl, rfl⟩ := same
  exact
    { tracked with
      links := fun id state found => { tracked.links id state found with }
      sound := fun id state found => { tracked.sound id state found with } }

theorem dropped (onIo : Bool) (id : RequestId) (state : RequestState)
    (tracked : Tracked server) (confirms : state.confirms = true)
    (fate : state.fate = .handled state.failed) (gone : state.gone = true)
    (silent : server.outcomes id = []) (punctual : state.late = false) :
    ∃ next, next.place = state.place ∧
      (server.dropState onIo id state).requests = update server.requests id (some next) ∧
      (∀ other, other ≠ id → (server.dropState onIo id state).outcomes other = server.outcomes other) ∧
      next.fate = state.fate ∧ next.served = state.served ∧ next.failed = state.failed ∧
      Sound server next ((server.dropState onIo id state).outcomes id) := by
  obtain ⟨late, missed, requests, others, told⟩ :=
    dropState_handled onIo id state confirms fate gone silent punctual
  refine ⟨{ state with late }, rfl, requests, others, rfl, rfl, rfl, ?_⟩
  exact
    { heard := told
      late := fun is => by
        obtain ⟨refused, asked⟩ := missed is
        refine ⟨?_, stopped_of_missed tracked refused⟩
        change state.told?.isSome = true
        rw [RequestState.told?, fate, gone]
        cases number : state.number? with
        | none => rw [number] at asked; cases asked
        | some => rfl
      waits := fun is => nomatch fate.symm.trans is
      handled := fun failed is => ⟨confirms, fun _ => by cases fate.symm.trans is; rfl⟩
      full := fun is => nomatch fate.symm.trans is
      refused := fun is => nomatch fate.symm.trans is }

variable {id : RequestId} {state : RequestState} {worker : WorkerId}

theorem withProgram {act : RequestState → ThreadedServer}
    (acts : ∀ state, server.requests id = some state → state.lent = true → Tracked (act state))
    (stepped : server.withProgram id act = some after) : Tracked after := by
  obtain ⟨state, found, next⟩ := bind_eq_some_iff.mp stepped
  split at next
  · rename_i lent
    cases next
    exact acts state found lent
  · cases next

section

variable (tracked : Tracked server)

include tracked

theorem answered (aside : Aside server after) (found : server.requests id = some state) (requests : after.requests =
      update server.requests id (some { state with answered := true }))
    (outcomes : ∀ other, after.outcomes other = server.outcomes other) : Tracked after := by
  have sound := tracked.sound id state found
  refine tracked.marked aside found requests (fun other _ => outcomes other)
    ((tracked.links id state found).congr rfl rfl rfl rfl) ?_
  rw [outcomes id]
  exact { sound with }

theorem replyMessage {onIo : Bool} {message : Message}
    (stepped : server.replyMessage onIo id message = some after) : Tracked after := by
  refine withProgram (fun state found lent => ?_) stepped
  split
  · exact tracked.answered ((send_aside onIo _ server).trans (setRequest_aside id _ _)) found
      (congrArg (update · id _) (send_requests onIo _ server))
      fun other => send_outcomes onIo _ other server
  · exact tracked

theorem letGo {onIo : Bool} (stepped : server.letGo onIo id = some after) : Tracked after := by
  refine withProgram (fun state found lent => ?_) stepped
  have sound := tracked.sound id state found
  have links := tracked.links id state found
  unfold RequestState.lent at lent
  simp only [Bool.and_eq_true, Bool.or_eq_true, beq_iff_eq] at lent
  obtain ⟨here, lent⟩ := lent
  have held : state.gone = false := by rw [RequestState.gone, here]; rfl
  cases served : state.served with
  | true =>
    have next : server.dropRequest onIo id state =
        server.setRequest id { state with request := false } := by
      rw [dropRequest, served]
      rfl
    have holds : ({ state with request := false } : RequestState).gone = false := by
      rw [RequestState.gone, served]
      rfl
    rw [next]
    refine tracked.marked (setRequest_aside id _ server) found rfl (fun _ _ => rfl) (links.congr rfl rfl rfl rfl) ?_
    change Sound server _ (server.outcomes id)
    rcases fate_cases state.fate with fate | ⟨failed, fate⟩ | fate | fate
    · obtain ⟨silent, punctual⟩ := sound.silent (told?_underWay fate)
      refine .of_silent silent punctual (told?_underWay fate) (fun _ => ?_)
        (fun _ is => nomatch fate.symm.trans is) (fun is => nomatch fate.symm.trans is)
        fun is => nomatch fate.symm.trans is
      exact ⟨(sound.waits fate).1, (sound.waits fate).2.1, holds⟩
    · obtain ⟨silent, punctual⟩ := sound.silent (told?_held fate held)
      exact .of_silent silent punctual (told?_held fate holds) (fun is => nomatch fate.symm.trans is)
        sound.handled (fun is => nomatch fate.symm.trans is) fun is => nomatch fate.symm.trans is
    · cases served.symm.trans (sound.full fate)
    · cases served.symm.trans (sound.refused fate).1
  | false =>
    have next : server.dropRequest onIo id state =
        server.dropState onIo id { state with request := false } := by
      rw [dropRequest, served]
      rfl
    have fate : state.fate = .handled state.failed := by
      rcases lent with (serves | failed) | worked
      · cases served.symm.trans serves
      · rw [failed, (sound.handled _ failed).2 served]
      · rw [worked, (sound.handled _ worked).2 served]
    rw [next]
    obtain ⟨_, place, requests, others, fate_, served_, failed, told⟩ :=
      tracked.dropped onIo id { state with request := false } (sound.handled _ fate).1 fate (by rw [RequestState.gone, served]; rfl)
        (sound.silent (told?_held fate held)).1 (sound.silent (told?_held fate held)).2
    exact tracked.marked (dropState_aside onIo id _ server) found requests others
      (links.congr place fate_ served_ failed) told

theorem known (has : server.Has id) : ∃ state, server.requests id = some state := by
  cases found : server.requests id with
  | some state => exact ⟨state, rfl⟩
  | none => exact absurd has (tracked.unheard id found).2

theorem idles {place next : Worker}
    (found : server.workers[worker]? = some place) (without : next.request? = none) :
    Tracked (server.setWorker worker next) := by
  refine tracked.moves (fun id _ _ held => ?_) tracked.apart id id tracked.turned
  cases held with
  | worker there is =>
    obtain ⟨rfl, rfl⟩ | ⟨-, there⟩ := set_at there
    · cases without.symm.trans is
    · exact .worker there is
  | io | queued | left | told => constructor <;> assumption

end

theorem queue_nodup (counted : Counted options server) : (server.queue.map Prod.fst).Nodup := by
  have whole : (range server.accepted).Nodup := nodup_range
  rw [← counted.order] at whole
  exact (nodup_append.mp whole).2.1

theorem look (tracked : Tracked server) (counted : Counted options server) {place : Worker}
    (found : server.workers[worker]? = some place) : Tracked (server.look worker) := by
  unfold ThreadedServer.look
  split
  · rename_i number id queue queued
    have first : (number, id) ∈ server.queue := queued ▸ mem_cons_self
    have once : (number, id) ∉ queue := by
      intro again
      have nodup := queue_nodup counted
      rw [queued, map_cons, nodup_cons] at nodup
      exact nodup.1 (List.mem_map.mpr ⟨_, again, rfl⟩)
    obtain ⟨state, known⟩ := tracked.known (.inr (.inl ⟨number, first⟩))
    have links := tracked.links id state known
    obtain ⟨here, waits⟩ := links.queued number first
    have later : ∀ entry, entry ∈ queue → entry ∈ server.queue := fun entry member =>
      queued ▸ mem_cons_of_mem _ member
    rw [known, map_some]
    have sound := tracked.sound id state known
    refine tracked.change known rfl (fun _ _ => rfl) rfl (fun is => is) (fun is => is) rfl
      tracked.turned (fun other _ _ held => ?_) tracked.apart { sound with }
    cases held with
    | queued member =>
      refine .inr ⟨?_, .queued (later _ member)⟩
      rintro rfl
      cases here.symm.trans (links.queued _ (later _ member)).1
      exact once member
    | worker there is =>
      obtain ⟨rfl, rfl⟩ | ⟨_, there⟩ := set_at there
      · exact .inl ⟨(some.inj is).symm, rfl, waits⟩
      · exact .inr (links.stays here (.worker there is) nofun)
    | io | left | told => exact .inr (links.stays here (by constructor <;> assumption) nofun)
  · split
    · exact (tracked.idles found rfl).elsewhere rfl
    · exact tracked.idles found rfl

theorem work (tracked : Tracked server) (counted : Counted options server)
    {outcome : Option HandlerError} {verdict : Verdict}
    (stepped : server.work worker outcome verdict = some after) : Tracked after := by
  unfold ThreadedServer.work at stepped
  split at stepped
  · cases stepped
  · cases stepped
  · rename_i found
    cases stepped
    exact tracked.look counted found
  · rename_i found
    cases stepped
    have awake : Tracked { server with idle := server.idle - 1 } :=
      tracked.elsewhere rfl
    have counts : Counted options { server with idle := server.idle - 1 } := { counted with }
    exact awake.look counts found
  · rename_i number id found
    obtain ⟨state, known, rfl⟩ := map_eq_some_iff.mp stepped
    have sound := tracked.sound id state known
    obtain ⟨here, fate, unserved⟩ := (tracked.links id state known).worker worker _ found rfl
    obtain ⟨silent, punctual⟩ := sound.silent (told?_underWay fate)
    refine tracked.atWorker (setRequest_aside id _ server) found rfl known rfl (fun _ _ => rfl)
      (.inr ⟨rfl, here, fate, rfl⟩) ?_
    refine .of_silent silent punctual (told?_underWay fate) (fun _ => ?_)
      (fun _ is => nomatch fate.symm.trans is) (fun is => nomatch fate.symm.trans is)
      fun is => nomatch fate.symm.trans is
    exact ⟨(sound.waits fate).1, (sound.waits fate).2.1, Bool.and_false _⟩
  · rename_i number id found
    obtain ⟨state, known, rfl⟩ := map_eq_some_iff.mp stepped
    have sound := tracked.sound id state known
    obtain ⟨here, fate, served⟩ := (tracked.links id state known).worker worker _ found rfl
    obtain ⟨silent, punctual⟩ := sound.silent (told?_underWay fate)
    refine tracked.atWorker (setRequest_aside id _ server) found rfl known rfl (fun _ _ => rfl)
      (.inr ⟨rfl, here, rfl, served, (sound.waits fate).2.1⟩) ?_
    have held : ({ state with fate := .handled outcome.isSome } : RequestState).gone = false := by
      rw [RequestState.gone, served]
      exact Bool.and_false _
    exact .of_silent silent punctual (told?_held rfl held) nofun
      (fun _ _ => ⟨(sound.waits fate).1, fun not_ => nomatch served.symm.trans not_⟩) nofun nofun
  · rename_i number id found
    obtain ⟨state, known, rfl⟩ := map_eq_some_iff.mp stepped
    have sound := tracked.sound id state known
    obtain ⟨here, fate, served, failed⟩ :=
      (tracked.links id state known).worker worker _ found rfl
    refine tracked.atWorker (setRequest_aside id _ server) found rfl known rfl (fun _ _ => rfl)
      (.inr ⟨rfl, here, by rw [failed]; exact fate, served⟩) ?_
    exact { sound with }
  · rename_i number id failure found
    obtain ⟨state, known, rfl⟩ := map_eq_some_iff.mp stepped
    have sound := tracked.sound id state known
    obtain ⟨here, fate, served, failed⟩ :=
      (tracked.links id state known).worker worker _ found rfl
    refine tracked.atWorker (setRequest_aside id _ server) found rfl known rfl (fun _ _ => rfl)
      (.inr ⟨rfl, here, fate, served, rfl⟩) ?_
    exact
      { sound with
        waits := fun is => nomatch fate.symm.trans is
        handled := fun each is =>
          ⟨(sound.handled each is).1, fun not_ => nomatch served.symm.trans not_⟩ }
  · rename_i number id failure found
    obtain ⟨state, known, rfl⟩ := map_eq_some_iff.mp stepped
    have sound := tracked.sound id state known
    obtain ⟨here, fits⟩ := (tracked.links id state known).worker worker _ found rfl
    split
    · refine tracked.atWorker ((send_aside false _ server).trans (setRequest_aside id _ _)) found rfl
        known (congrArg (update · id _) (send_requests false _ server))
        (fun other _ => send_outcomes false _ other server) (.inr ⟨rfl, here, fits⟩) ?_
      change Sound server _ ((server.send false _).outcomes id)
      rw [send_outcomes]
      exact { sound with }
    · exact tracked.atWorker ⟨_, _, _, rfl⟩ found rfl known
        (by rw [← known, update_eq_self]) (fun _ _ => rfl) (.inr ⟨rfl, here, fits⟩) sound
  · rename_i number id failure found
    cases stepped
    obtain ⟨state, known⟩ := tracked.known (.inr (.inr (.inl ⟨worker, _, found, rfl⟩)))
    obtain ⟨here, fate, served, failed⟩ :=
      (tracked.links id state known).worker worker _ found rfl
    exact tracked.atWorker ⟨_, _, _, rfl⟩ found rfl known (by rw [← known, update_eq_self]) (fun _ _ => rfl)
      (.inr ⟨rfl, here, by rw [failed]; exact fate, served⟩) (tracked.sound id state known)
  · rename_i number id failure found
    obtain ⟨state, known, rfl⟩ := map_eq_some_iff.mp stepped
    have sound := tracked.sound id state known
    obtain ⟨here, fate, served⟩ := (tracked.links id state known).worker worker _ found rfl
    have held : state.gone = false := by rw [RequestState.gone, served]; exact Bool.and_false _
    obtain ⟨silent, punctual⟩ := sound.silent (told?_held fate held)
    rcases Bool.eq_false_or_eq_true state.request with kept | kept
    · have next : server.dropServed id { state with place := .program } =
          server.setRequest id { state with place := .program, served := false } := by
        rw [dropServed, kept]
        rfl
      have still : ({ state with place := .program, served := false } : RequestState).gone =
          false := by
        rw [RequestState.gone, kept]
        rfl
      rw [next]
      refine tracked.atWorker (setRequest_aside id _ server) found rfl known rfl (fun _ _ => rfl) (.inl rfl) ?_
      exact .of_silent silent punctual (told?_held fate still) (fun is => nomatch fate.symm.trans is)
        (fun each is => ⟨(sound.handled each is).1, fun _ => by cases fate.symm.trans is; rfl⟩)
        (fun is => nomatch fate.symm.trans is) fun is => nomatch fate.symm.trans is
    · have next : server.dropServed id { state with place := .program } =
          server.dropState false id { state with place := .program, served := false } := by
        rw [dropServed, kept]
        rfl
      obtain ⟨final, _, requests, others, _, _, _, told⟩ :=
        tracked.dropped false id { state with place := .program, served := false }
          (sound.handled _ fate).1 fate (by rw [RequestState.gone, kept]; rfl) silent punctual
      rw [next]
      exact tracked.atWorker (dropState_aside false id _ server) found rfl known requests others (.inl rfl) told
  · rename_i number failure found
    cases stepped
    exact (tracked.idles found rfl).elsewhere rfl
  · rename_i found
    cases stepped
    exact (tracked.idles found rfl).elsewhere rfl

theorem connect (tracked : Tracked server) (started : Nat) : Tracked (server.connect options started) := by
  unfold ThreadedServer.connect
  split
  · exact tracked.elsewhere rfl
  · split
    · have begun : Tracked { server with workers := replicate (min started options.workers) .free } := by
        refine tracked.moves (fun id _ _ held => ?_) tracked.apart id id tracked.turned
        cases held with
        | worker there is =>
          cases eq_of_mem_replicate (mem_of_getElem? there)
          cases is
        | io | queued | left | told => constructor <;> assumption
      exact begun.elsewhere rfl
    · exact tracked.elsewhere rfl

/-! ## The io thread and the close -/

theorem receive {incoming : Incoming} (tracked : Tracked server)
    (stepped : server.receive incoming = some after) : Tracked after := by
  unfold ThreadedServer.receive at stepped
  split at stepped
  · rename_i away
    cases stepped
    have new := tracked.unknown server.received le_rfl
    obtain ⟨silent, unlinked⟩ := tracked.unheard server.received new
    have requests : ∀ id, id ≠ server.received →
        update server.requests server.received (some { incoming }) id =
          server.requests id := fun id other => update_of_ne other _ _
    exact
      { unknown := fun id far => by
          change update server.requests server.received (some { incoming }) id = none
          rw [requests id (Nat.ne_of_gt far)]
          exact tracked.unknown id (Nat.le_of_succ_le far)
        unheard := fun id missing => by
          change update server.requests server.received (some { incoming }) id = none at missing
          by_cases is : id = server.received
          · subst is
            rw [update_self] at missing
            cases missing
          · rw [requests id is] at missing
            obtain ⟨silent, unlinked⟩ := tracked.unheard id missing
            refine ⟨silent, fun linked => unlinked ?_⟩
            rcases linked with io | elsewhere
            · exact absurd (some.inj io).symm is
            · exact .inr elsewhere
        links := fun id state known => by
          change update server.requests server.received (some { incoming }) id = some state
            at known
          by_cases is : id = server.received
          · subst is
            rw [update_self] at known
            cases known
            have nowhere {place : Place} {fit : RequestState → Prop}
                (held : server.Holds server.received place fit) : False :=
              unlinked (has_iff.mpr ⟨place, fit, held⟩)
            exact
              { io := fun _ => ⟨rfl, rfl, rfl⟩
                queued := fun _ member => (nowhere (.queued member)).elim
                worker := fun _ _ there is => (nowhere (.worker there is)).elim
                left := fun _ member => (nowhere (.left member)).elim
                told := fun _ member => (nowhere (.told member)).elim }
          · rw [requests id is] at known
            exact
              { tracked.links id state known with
                io := fun here => absurd (some.inj here).symm is }
        sound := fun id state known => by
          change update server.requests server.received (some { incoming }) id = some state
            at known
          by_cases is : id = server.received
          · subst is
            rw [update_self] at known
            cases known
            exact .of_silent silent rfl (told?_underWay rfl) (fun _ => ⟨rfl, rfl, rfl⟩) nofun nofun
              nofun
          · rw [requests id is] at known
            exact { tracked.sound id state known with }
        apart := tracked.apart
        torn := tracked.torn
        turned := nofun }
  · cases stepped

theorem refuse_sound (tracked : Tracked server) (options : Options) (onIo : Bool)
    (waits : state.Waits) (leaving : server.accepting = false) (silent : server.outcomes id = [])
    (punctual : state.late = false) :
    ∃ next, next.place = state.place ∧ next.fate = .refused ∧ next.served = false ∧
      (server.refuse options onIo id state).requests = update server.requests id (some next) ∧
      (∀ other, other ≠ id → (server.refuse options onIo id state).outcomes other = server.outcomes other) ∧
      Sound server next ((server.refuse options onIo id state).outcomes id) := by
  unfold refuse
  dsimp only
  split
  · rename_i asked
    obtain ⟨late, missed, requests, told⟩ :=
      confirm_eq onIo id { state with answered := true, fate := .refused, confirms := false }
        .refused server
    refine ⟨{ state with answered := true, fate := .refused, confirms := false, late }, rfl, rfl,
      waits.2, ?_, fun other away => ?_, ?_⟩
    · rw [requests, punctual, Bool.false_or]
    · rw [told other, if_neg fun all => away all.1, append_nil]
    · have told? : ({ state with answered := true, fate := .refused, confirms := false, late } :
          RequestState).told? = if state.number?.isSome then some .refused else none := by
        change (if state.number?.isNone then none else some Confirmed.refused) = _
        cases state.number? <;> rfl
      change late = true → _ ∧ state.number?.isSome = true at missed
      change ∀ other, _ = server.outcomes other ++
        if other = id ∧ state.number?.isSome = true ∧ late = false then [.refused] else [] at told
      exact
        { heard := by
            rw [told id, silent, nil_append, told?]
            cases late <;> cases state.number?.isSome <;> simp
          late := fun is => by
            obtain ⟨refused, asked⟩ := missed is
            rw [told?, asked]
            exact ⟨rfl, stopped_of_missed tracked refused⟩
          waits := nofun
          handled := nofun
          full := nofun
          refused := fun _ => ⟨waits.2, leaving, fun _ => rfl⟩ }
  · rename_i unasked
    change ¬ state.message.confirmation.isSome = true at unasked
    have none_ : state.message.confirmation = none := by simpa using unasked
    have untold : ({ state with answered := true, fate := .refused } : RequestState).told? = none := by
      rw [RequestState.told?, if_pos]
      change (state.message.confirmation.filter _).isNone = true
      rw [none_]
      rfl
    have sound : Sound server { state with answered := true, fate := .refused } [] :=
      { heard := by rw [untold, punctual]; rfl
        late := fun is => nomatch punctual.symm.trans is
        waits := nofun
        handled := nofun
        full := nofun
        refused := fun _ => ⟨waits.2, leaving, fun asked => by
          change state.message.confirmation.isSome = true at asked
          rw [none_] at asked
          cases asked⟩ }
    refine ⟨{ state with answered := true, fate := .refused }, rfl, rfl, waits.2, ?_⟩
    split
    · exact ⟨rfl, fun _ _ => rfl, silent.symm ▸ sound⟩
    · split
      · refine ⟨send_requests onIo _ _, fun other _ => send_outcomes onIo _ other _, ?_⟩
        rw [send_outcomes]
        exact silent.symm ▸ sound
      · exact ⟨rfl, fun _ _ => rfl, silent.symm ▸ sound⟩

theorem onMessage (tracked : Tracked server) (stepped : server.onMessage options = some after) : Tracked after := by
  unfold ThreadedServer.onMessage at stepped
  split at stepped
  · rename_i id at_
    obtain ⟨state, known, rfl⟩ := map_eq_some_iff.mp stepped
    have links := tracked.links id state known
    have sound := tracked.sound id state known
    have has : server.io.request? = some id := by rw [at_]; rfl
    obtain ⟨here, waits⟩ := links.io has
    split
    · refine tracked.change known rfl (fun _ _ => rfl) rfl (fun is => is) (fun is => is) rfl nofun
        (fun other _ _ held => ?_) tracked.apart { sound with }
      cases held with
      | io is => cases is
      | queued member =>
        rcases mem_append.mp member with there | new
        · exact .inr (links.stays here (.queued there) nofun)
        · cases mem_singleton.mp new
          exact .inl ⟨rfl, rfl, waits⟩
      | worker | left | told => exact .inr (links.stays here (by constructor <;> assumption) nofun)
    · refine tracked.moves (fun other _ _ held => ?_) tracked.apart (fun is => is)
        (fun is => is) fun _ is => by injection is
      cases held with
      | io is => exact .io (has.trans is)
      | queued | worker | left | told => constructor <;> assumption
  · cases stepped

theorem leaves (tracked : Tracked server) (dropped : Nat) (known : server.requests id = some state)
    (here : state.place = .io) : Tracked { server with dropped, io := .away } ∧
      ∀ next, Links { server with dropped, io := .away } id next := by
  have holds (other : RequestId) (place : Place) (fit : RequestState → Prop)
      (held : At .away server.queue server.workers server.closer other place fit) :
      place ≠ .io ∧ server.Holds other place fit := by
    cases held with
    | io is => cases is
    | queued member => exact ⟨nofun, .queued member⟩
    | worker there is => exact ⟨nofun, .worker there is⟩
    | left member => exact ⟨nofun, .left member⟩
    | told member => exact ⟨nofun, .told member⟩
  refine ⟨tracked.moves (fun other _ _ held => (holds other _ _ held).2) tracked.apart (fun is => is)
    (fun is => is) nofun, fun next => links_iff.mpr fun place fit held => ?_⟩
  obtain ⟨away, was⟩ := holds id place fit held
  exact absurd rfl ((tracked.links id state known).stays here was away).1

theorem dropRequest_refused (onIo : Bool) {next : RequestState} {outcomes : List Confirmed}
    (sound : Sound server next outcomes) (fate : next.fate = .refused) (between : ThreadedServer) :
    between.dropRequest onIo id next = between.setRequest id { next with request := false } ∧
      Sound server { next with request := false } outcomes := by
  obtain ⟨unserved, _, unasked⟩ := sound.refused fate
  have same : ({ next with request := false } : RequestState).told? = next.told? := by
    unfold RequestState.told?
    rw [fate]
    rfl
  constructor
  · rw [dropRequest, unserved, if_neg Bool.false_ne_true]
    exact dropState_told unasked
  · exact
      { heard := by rw [same]; exact sound.heard
        late := fun late => by rw [same]; exact sound.late late
        waits := fun is => nomatch fate.symm.trans is
        handled := sound.handled
        full := sound.full
        refused := sound.refused }

section

variable (tracked : Tracked server)

include tracked

theorem turnAway (stepped : server.turnAway options = some after) : Tracked after := by
  unfold ThreadedServer.turnAway at stepped
  split at stepped
  · rename_i id accepting at_
    obtain ⟨state, known, next⟩ := bind_eq_some_iff.mp stepped
    have has : server.io.request? = some id := by rw [at_]; rfl
    have sound := tracked.sound id state known
    obtain ⟨here, waits⟩ := (tracked.links id state known).io has
    obtain ⟨silent, punctual⟩ := sound.silent (told?_underWay waits.1)
    obtain ⟨left, unlinked⟩ := tracked.leaves (server.dropped + 1) known here
    dsimp only at next
    split at next
    · cases next
      have drops : ({ server with dropped := server.dropped + 1, io := .away } :
          ThreadedServer).dropRequest true id
            { state with answered := true, confirms := false, fate := .full } =
          ({ server with dropped := server.dropped + 1, io := .away } : ThreadedServer).setRequest id
            { state with answered := true, confirms := false, fate := .full, request := false } := by
        rw [dropRequest, waits.2, if_neg Bool.false_ne_true]
        exact dropState_told fun _ => rfl
      have untold : ({ state with
          answered := true, confirms := false, fate := .full, request := false } : RequestState).told? = none := by
        unfold RequestState.told?
        split <;> rfl
      rw [drops]
      refine left.marked (setRequest_aside id _ _) known rfl (fun _ _ => rfl) (unlinked _) ?_
      exact
        { heard := by rw [untold, punctual]; exact silent
          late := fun is => nomatch punctual.symm.trans is
          waits := nofun
          handled := nofun
          full := fun _ => waits.2
          refused := nofun }
    · rename_i leaves
      have leaving : server.accepting = false := by
        refine tracked.turned id ?_
        rw [at_]
        simpa using leaves
      obtain ⟨_, found, rfl⟩ := map_eq_some_iff.mp next
      obtain ⟨_, _, fate, _, requests, others, told⟩ :=
        left.refuse_sound options true waits leaving silent punctual
      rw [requests, update_self] at found
      cases found
      obtain ⟨drops, last⟩ := dropRequest_refused true told fate
        (({ server with dropped := server.dropped + 1, io := .away } : ThreadedServer).refuse
          options true id state)
      rw [drops]
      refine left.marked ((refuse_aside options true id state _).trans (setRequest_aside id _ _)) known
        ?_ others (unlinked _) last
      change update _ id _ = _
      rw [requests, update_idem]
  · cases stepped

theorem closes {closer : Closer} {accepting stopped : Bool}
    (refuses : closer.toRefuse = server.closer.toRefuse)
    (drops : closer.toDrop = server.closer.toDrop)
    (leaving : server.accepting = false → accepting = false)
    (shut : server.stopped = true → stopped = true) :
    Tracked { server with closer, accepting, stopped } := by
  refine tracked.moves (fun id _ _ held => ?_) (by rw [refuses, drops]; exact tracked.apart) leaving shut
    fun id is => leaving (tracked.turned id is)
  cases held with
  | left member => exact .left (refuses ▸ member)
  | told member => exact .told (drops ▸ member)
  | io | queued | worker => constructor <;> assumption

theorem drains (counted : Counted options server) : Tracked
      { server with
        queue := []
        closer := .refusing server.queue []
        requests := fun id =>
          if server.queue.any (·.2 == id) then
            (server.requests id).map fun state => { state with place := .closing }
          else server.requests id } := by
  have queued : ∀ id, server.queue.any (·.2 == id) = true ↔ ∃ number, (number, id) ∈ server.queue := by
    intro id
    simp
  have inside : ∀ number id, (number, id) ∈ server.queue → server.queue.any (·.2 == id) = true :=
    fun number id member => (queued id).mpr ⟨number, member⟩
  have known : ∀ id state, (if server.queue.any (·.2 == id) then
        (server.requests id).map fun state => { state with place := .closing }
        else server.requests id) = some state →
      ∃ old, server.requests id = some old ∧ (state = old ∧ ¬ server.queue.any (·.2 == id) = true ∨
          state = { old with place := .closing } ∧ server.queue.any (·.2 == id) = true) := by
    intro id state found
    split at found
    · rename_i member
      obtain ⟨old, there, rfl⟩ := map_eq_some_iff.mp found
      exact ⟨old, there, .inr ⟨rfl, member⟩⟩
    · rename_i absent
      exact ⟨state, found, .inl ⟨rfl, absent⟩⟩
  exact
    { unknown := fun id far => by
        have none_ := tracked.unknown id far
        dsimp only
        rw [none_]
        split <;> rfl
      unheard := fun id missing => by
        have none_ : server.requests id = none := by
          dsimp only at missing
          split at missing
          · exact map_eq_none_iff.mp missing
          · exact missing
        obtain ⟨silent, unlinked⟩ := tracked.unheard id none_
        refine ⟨silent, fun linked => unlinked ?_⟩
        rcases linked with io | ⟨number, gone⟩ | worker | ⟨number, member⟩
        · exact .inl io
        · cases gone
        · exact .inr (.inr (.inl worker))
        · exact .inr (.inl ⟨number, by simpa [Closer.toRefuse, Closer.toDrop] using member⟩)
      links := fun id state found => by
        obtain ⟨old, there, ⟨rfl, absent⟩ | ⟨rfl, member⟩⟩ := known id state found
        · have links := tracked.links id state there
          exact
            { io := links.io
              queued := nofun
              worker := links.worker
              left := fun number is => absurd (inside number id is) absent
              told := nofun }
        · have links := tracked.links id old there
          obtain ⟨number, member⟩ := (queued id).mp member
          obtain ⟨here, waits⟩ := links.queued number member
          exact
            { io := fun is => nomatch here.symm.trans (links.io is).1
              queued := nofun
              worker := fun worker place there is =>
                nomatch here.symm.trans (links.worker worker place there is).1
              left := fun _ _ => ⟨rfl, waits⟩
              told := nofun }
      sound := fun id state found => by
        obtain ⟨old, there, ⟨rfl, _⟩ | ⟨rfl, _⟩⟩ := known id state found
        · exact { tracked.sound id state there with }
        · exact { tracked.sound id old there with }
      apart := by
        change ((server.queue ++ []).map Prod.snd).Nodup
        rw [append_nil]
        refine Nodup.map_on ?_ (Nodup.of_map _ (queue_nodup counted))
        intro one first two second same
        obtain ⟨state, known⟩ := tracked.known (.inr (.inl ⟨one.1, first⟩))
        have links := tracked.links _ state known
        have here := (links.queued one.1 first).1
        have there := (links.queued two.1 (by rw [same]; exact second)).1
        exact Prod.ext (by injection here.symm.trans there) same
      torn := tracked.torn
      turned := tracked.turned }

theorem refuses (counted : Counted options server) {number : Nat}
    {left told : List (Nat × RequestId)}
    (is : server.closer = .refusing ((number, id) :: left) told)
    (known : server.requests id = some state) : Tracked
      { server.refuse options false id state with
        closer := .refusing left (told ++ [(number, id)]) } := by
  have links := tracked.links id state known
  have refuse_ : server.closer.toRefuse = (number, id) :: left := by rw [is]; rfl
  have drop_ : server.closer.toDrop = told := by rw [is]; rfl
  obtain ⟨here, waits⟩ := links.left number (refuse_ ▸ mem_cons_self)
  have leaving : server.accepting = false := by rw [counted.accepts, is]; rfl
  obtain ⟨silent, punctual⟩ := (tracked.sound id state known).silent (told?_underWay waits.1)
  obtain ⟨_, place, fate, _, requests, others, sound⟩ :=
    tracked.refuse_sound options false waits leaving silent punctual
  have apart := tracked.apart
  rw [refuse_, drop_] at apart
  obtain ⟨_, _, _, same⟩ := refuse_aside options false id state server
  rw [same] at requests others sound ⊢
  refine tracked.change known requests others rfl (fun is => is) (fun is => is) rfl tracked.turned
    (fun other _ _ held => ?_) ?_ { sound with }
  · cases held with
    | io is => exact .inr (links.stays here (.io is) nofun)
    | queued member => exact .inr (links.stays here (.queued member) nofun)
    | worker there is => exact .inr (links.stays here (.worker there is) nofun)
    | left member =>
      refine .inr ⟨?_, .left (refuse_ ▸ mem_cons_of_mem _ member)⟩
      rintro rfl
      rw [cons_append, map_cons, nodup_cons] at apart
      exact apart.1 (List.mem_map.mpr ⟨_, mem_append_left _ member, rfl⟩)
    | told member =>
      by_cases is : other = id
      · exact .inl ⟨is, place.trans here, fate⟩
      · rcases mem_append.mp member with gone | new
        · exact .inr ⟨is, .told (drop_ ▸ gone)⟩
        · cases mem_singleton.mp new
          exact absurd rfl is
  · change ((left ++ (told ++ [(number, id)])).map Prod.snd).Nodup
    refine (Perm.nodup_iff (Perm.map Prod.snd ?_)).mp apart
    rw [← append_assoc]
    exact perm_append_singleton (number, id) (left ++ told) |>.symm

theorem dropsRefused {number : Nat} {told : List (Nat × RequestId)}
    (is : server.closer = .refusing [] ((number, id) :: told))
    (known : server.requests id = some state) :
    Tracked { server.dropRequest false id state with closer := .refusing [] told } := by
  have links := tracked.links id state known
  have refuse_ : server.closer.toRefuse = [] := by rw [is]; rfl
  have drop_ : server.closer.toDrop = (number, id) :: told := by rw [is]; rfl
  obtain ⟨here, fate⟩ := links.told number (drop_ ▸ mem_cons_self)
  obtain ⟨drops, sound⟩ :=
    dropRequest_refused false (tracked.sound id state known) fate server
  have apart := tracked.apart
  rw [refuse_, drop_, nil_append, map_cons, nodup_cons] at apart
  rw [drops]
  refine tracked.change known rfl (fun _ _ => rfl) rfl (fun is => is) (fun is => is) rfl
    tracked.turned (fun other _ _ held => ?_) apart.2 { sound with }
  cases held with
  | left member => cases member
  | told member =>
    by_cases is : other = id
    · exact .inl ⟨is, here, fate⟩
    · exact .inr ⟨is, .told (drop_ ▸ mem_cons_of_mem _ member)⟩
  | io | queued | worker => exact .inr (links.stays here (by constructor <;> assumption) nofun)

theorem close (counted : Counted options server) (stepped : server.close options = some after) : Tracked after := by
  unfold ThreadedServer.close at stepped
  split at stepped
  · rename_i is
    cases stepped
    have closes : Tracked { server with closer := .closing } :=
      tracked.closes (by rw [is]; rfl) (by rw [is]; rfl) (fun is => is) fun is => is
    exact closes.elsewhere rfl
  · rename_i is
    cases stepped
    have closes : Tracked { server with accepting := false, closer := .draining server.threads } :=
      tracked.closes (by rw [is]; rfl) (by rw [is]; rfl) (fun _ => rfl) fun is => is
    exact closes.elsewhere rfl
  · rename_i threads is
    cases stepped
    have closes : Tracked { server with closer := .joining threads } :=
      tracked.closes (by rw [is]; rfl) (by rw [is]; rfl) (fun is => is) fun is => is
    unfold ThreadedServer.startDraining
    split <;> exact closes.elsewhere rfl
  · rename_i threads is
    split at stepped
    · cases stepped
      exact (tracked.drains counted).elsewhere rfl
    · cases stepped
  · rename_i number id left told is
    obtain ⟨state, known, rfl⟩ := map_eq_some_iff.mp stepped
    exact (tracked.refuses counted is known).elsewhere rfl
  · rename_i number id told is
    obtain ⟨state, known, rfl⟩ := map_eq_some_iff.mp stepped
    exact tracked.dropsRefused is known
  · rename_i is
    cases stepped
    have closes : Tracked { server with closer := .shutting } :=
      tracked.closes (by rw [is]; rfl) (by rw [is]; rfl) (fun is => is) fun is => is
    exact closes
  · rename_i is
    cases stepped
    have closes : Tracked { server with closer := .closed, stopped := true } :=
      tracked.closes (by rw [is]; rfl) (by rw [is]; rfl) (fun is => is) fun _ => rfl
    exact closes
  · cases stepped

theorem act (counted : Counted options server) {step : Step}
    (stepped : server.act options step = some after) : Tracked after := by
  cases step with
  | receive => exact tracked.receive stepped
  | onMessage => exact tracked.onMessage stepped
  | turnAway => exact tracked.turnAway stepped
  | acknowledge | stop =>
    cases stepped
    exact tracked.elsewhere rfl
  | connect started =>
    cases stepped
    exact tracked.connect started
  | replyMessage => exact tracked.replyMessage stepped
  | noResponse id =>
    exact withProgram (fun state found _ =>
      tracked.answered (setRequest_aside id _ server) found rfl fun _ => rfl) stepped
  | letGo => exact tracked.letGo stepped
  | work => exact tracked.work counted stepped
  | runAcknowledged =>
    change server.runAcknowledged = some after at stepped
    unfold runAcknowledged at stepped
    split at stepped
    · cases stepped
      exact tracked.elsewhere rfl
    · cases stepped
  | runCallback =>
    change server.runCallback = some after at stepped
    unfold runCallback at stepped
    split at stepped
    · cases stepped
    · cases stepped
      exact tracked.elsewhere rfl
  | startDraining =>
    cases stepped
    unfold startDraining
    split
    · exact tracked
    · exact tracked.elsewhere rfl
  | close => exact tracked.close counted stepped
  | shutdownClient =>
    cases stepped
    have stops : Tracked { server with stopped := true } :=
      tracked.closes rfl rfl (fun is => is) fun _ => rfl
    exact stops
  | tearDown =>
    change server.tearDown = some after at stepped
    unfold tearDown at stepped
    split at stepped
    · rename_i stopped
      cases stepped
      exact
        { tracked with
          links := fun id state known => { tracked.links id state known with }
          sound := fun id state known => { tracked.sound id state known with }
          torn := fun _ => stopped }
    · cases stepped

theorem run (counted : Counted options server) {steps : List Step}
    (ran : server.run options steps = some after) : Tracked after := by
  induction steps generalizing server with
  | nil =>
    cases ran
    exact tracked
  | cons _ _ ih =>
    obtain ⟨_, stepped, rest⟩ := bind_eq_some_iff.mp ran
    exact ih (tracked.act counted stepped) (counted.act stepped) rest

end

end Tracked

theorem Tracked.initial : Tracked {} where
  unknown _ _ := rfl
  unheard _ _ := by
    refine ⟨rfl, fun linked => ?_⟩
    rcases linked with io | ⟨_, member⟩ | ⟨_, _, there, _⟩ | ⟨_, member⟩
    · cases io
    · cases member
    · cases there
    · cases member
  links _ _ known := nomatch known
  sound _ _ known := nomatch known
  apart := nodup_nil
  torn is := nomatch is
  turned _ is := nomatch is

theorem Reached.sound {options : Options} (reached : Reached options server)
    (known : server.requests id = some state) : Sound server state (server.outcomes id) := by
  obtain ⟨_, ran⟩ := reached
  exact (Tracked.initial.run (Counted.initial options) ran).sound id state known

/-- Whatever the interleaving, a confirmed message is confirmed at most once: Failed when its
handler failed, Refused when the leaving server refused it, Processed once its handler returned
and its last holder let go; and not at all only when a full queue dropped it or the client was
shut down by then. -/
theorem confirmed_as_it_was_handled {options : Options} {server : ThreadedServer}
    {id : RequestId} {state : RequestState} (reached : Reached options server)
    (known : server.requests id = some state) (asked : state.number?.isSome = true) :
    (server.outcomes id).length ≤ 1 ∧ (.failed ∈ server.outcomes id ↔
      state.fate = .handled true ∧ state.gone = true ∧ state.late = false) ∧
    (.refused ∈ server.outcomes id ↔ state.fate = .refused ∧ state.late = false) ∧
    (.processed ∈ server.outcomes id ↔ state.fate = .handled false ∧ state.gone = true ∧ state.late = false) ∧
    (state.gone = true → (server.outcomes id = [] ↔ state.fate = .full ∨ state.late = true)) ∧
    (state.fate = .refused → server.accepting = false) ∧
    (state.late = true → server.stopped = true) := by
  have sound := reached.sound known
  have number : ¬ state.number?.isNone = true := by
    rw [isSome_iff_ne_none] at asked
    simpa using asked
  rw [sound.heard, RequestState.told?, if_neg number]
  refine ⟨?_, ?_, ?_, ?_, ?gone, fun is => (sound.refused is).2.1, fun is => (sound.late is).2⟩
  case gone =>
    rcases fate_cases state.fate with fate | ⟨_, fate⟩ | fate | fate
    all_goals rw [fate]
    · intro gone
      cases gone.symm.trans (sound.waits fate).2.2
    · intro gone
      rw [gone]
      cases state.late <;> simp
    · cases state.late <;> simp
    · cases state.late <;> simp
  all_goals
    rcases fate_cases state.fate with fate | ⟨_ | _, fate⟩ | fate | fate
    all_goals
      rw [fate]
      cases state.late <;> cases state.gone <;> simp

/-- A confirmed message through a worker whose handler keeps the request, and its end. -/
def confirmedIncoming : Incoming :=
  { message := { confirmation := some 5 }, connection := { conn := none, target := ⟨.address 0, 0⟩ } }

def keeping : List Step :=
  [.connect 1, .receive confirmedIncoming, .onMessage, .work 0 none .goesOn, .work 0 none .goesOn,
    .work 0 none .goesOn, .work 0 none .goesOn, .work 0 none .goesOn, .work 0 none .goesOn,
    .work 0 none .goesOn]

def lettingGo : List Step := keeping ++ [.letGo false 0]

def letGoInTime : ThreadedServer := (run {} lettingGo {}).getD {}

def letGoInTimeState : RequestState :=
  { incoming := confirmedIncoming, kept := true, request := false, place := .program
    fate := .handled false }

theorem confirmed_once_let_go :
    Reached {} letGoInTime ∧ letGoInTime.requests 0 = some letGoInTimeState ∧
      letGoInTimeState.number?.isSome = true ∧ Confirmed.processed ∈ letGoInTime.outcomes 0 :=
  have reached : Reached {} letGoInTime := ⟨lettingGo, rfl⟩
  have known : letGoInTime.requests 0 = some letGoInTimeState := rfl
  ⟨reached, known, rfl, (confirmed_as_it_was_handled reached known rfl).2.2.2.1.mpr ⟨rfl, rfl, rfl⟩⟩

def keepingOn : List Step :=
  keeping ++ [.close, .close, .close, .work 0 none .goesOn, .close, .close, .close, .letGo false 0]

def keptPastTheClose : ThreadedServer := (run {} keepingOn {}).getD {}

/-- It is not confirmed, though its handler returned and no full queue dropped it. -/
theorem unconfirmed_once_the_client_is_shut : Reached {} keptPastTheClose ∧
      (keptPastTheClose.requests 0).map (fun state => (state.number?, state.fate, state.gone)) =
        some (some 5, .handled false, true) ∧
      keptPastTheClose.outcomes 0 = [] :=
  ⟨⟨keepingOn, rfl⟩, rfl, rfl⟩

end Multiplexer.ThreadedServer
