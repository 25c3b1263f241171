import Multiplexer.Runs.Basic

/-! A request accepted for a query fits a frame however often it is sent again: it was measured
with the largest id, the largest address and a delivery error asked for. -/

set_option autoImplicit false

namespace Multiplexer

open Program

theorem varintField_mono {keyLen value largest : Nat} (le : value ≤ largest) :
    varintField keyLen (some value) ≤ varintField keyLen (some largest) :=
  Nat.add_le_add_left (varintLen_mono le) keyLen

theorem Message.encodedLen_le_larger (message : Message) {id toId : Option Nat}
    (ids : varintField 1 message.id ≤ varintField 1 id)
    (addresses : varintField 1 message.toId ≤ varintField 1 toId) : message.encodedLen ≤
      Message.encodedLen { message with id, toId, reportDeliveryError := some true } := by
  have reports : varintField 2 (message.reportDeliveryError.map Bool.toNat) ≤
      varintField 2 ((some true).map Bool.toNat) := by
    cases message.reportDeliveryError with
    | none => exact Nat.zero_le _
    | some report => exact varintField_mono report.toNat_le
  simp only [Message.encodedLen]
  omega

structure Message.Fits (message : Message) : Prop where
  key : checkKeySize message.key = .ok ()
  size : message.encodedLen ≤ MAX_MESSAGE_SIZE

theorem Message.Fits.encode {message : Message} (fits : message.Fits) :
    encode message = some ⟨HEADER_LENGTH + message.encodedLen, message⟩ := by
  have key : ¬ (message.key.map String.utf8ByteSize).getD 0 > MAX_KEY_SIZE := by
    intro larger
    have refused := fits.key
    simp [checkKeySize, larger] at refused
  simp [Multiplexer.encode, key, Nat.not_lt.mpr fits.size]

theorem checks_ok {key : Option String} {size : Nat} (passed : (do
      checkKeySize key
      checkMessageSize size) = .ok ()) : checkKeySize key = .ok () ∧ size ≤ MAX_MESSAGE_SIZE := by
  cases checked : checkKeySize key with
  | error =>
    rw [checked] at passed
    cases passed
  | ok =>
    rw [checked] at passed
    refine ⟨rfl, Nat.not_lt.mp fun larger => ?_⟩
    have refused : checkMessageSize size = .error (.message size MAX_MESSAGE_SIZE) := if_pos larger
    cases refused.symm.trans passed

def prototypeOf (request : Message) (instanceId : Nat) : Message :=
  let prototype := if request.sender.getD 0 = 0 then
    { request with sender := some instanceId } else request
  if prototype.toId.getD 0 ≠ 0 then { prototype with reportDeliveryError := some true } else prototype

theorem prototypeOf_toId (request : Message) (sender : Nat) : (prototypeOf request sender).toId = request.toId := by
  unfold prototypeOf
  dsimp only
  split <;> split <;> rfl

theorem prototypeOf_type (request : Message) (sender : Nat) : (prototypeOf request sender).type = request.type := by
  unfold prototypeOf
  dsimp only
  split <;> split <;> rfl

/-- The largest a request is framed, as it was measured. -/
theorem accepted_fits {request : Message} {sender : Nat}
    (accepted : (checkSizeSentAgain request sender).2 = .ok ()) : Message.Fits
      { prototypeOf request sender with
        id := some U64_MAX
        toId := if request.toId.getD 0 = 0 then some U64_MAX else request.toId
        reportDeliveryError := some true } := by
  obtain ⟨key, size⟩ := checks_ok accepted
  unfold prototypeOf
  by_cases unsent : request.sender.getD 0 = 0
  all_goals
    by_cases typed : request.toId.getD 0 = 0
    all_goals
      simp only [unsent, typed, if_true, if_false, ne_eq, not_true_eq_false, not_false_eq_true] at key size ⊢
      exact ⟨key, size⟩

theorem Message.Fits.smaller {message : Message} {id toId : Option Nat}
    (ids : varintField 1 message.id ≤ varintField 1 id)
    (addresses : varintField 1 message.toId ≤ varintField 1 toId)
    (fits : Fits { message with id, toId, reportDeliveryError := some true }) : message.Fits where
  key := fits.key
  size := (message.encodedLen_le_larger ids addresses).trans fits.size

/-- An attempt as `startRequest` and `sendDirect` number it: its id is one of 64 bits, and it goes
to no address larger than the request's, or anywhere for a request without one. -/
structure InFlight.InRange (inFlight : InFlight) : Prop where
  requestId : inFlight.requestId ≤ U64_MAX
  directId : inFlight.directId ≤ U64_MAX
  directTo : inFlight.directTo ≤ U64_MAX
  addressed : inFlight.addressed = true → inFlight.directTo ≤ inFlight.prototype.toId.getD 0

section Accepted

variable {request : Message} {sender : Nat} {inFlight : InFlight}

theorem attempt_fits (accepted : (checkSizeSentAgain request sender).2 = .ok ()) {id : Nat}
    (small : id ≤ U64_MAX) : Message.Fits { prototypeOf request sender with id := some id } := by
  refine Message.Fits.smaller (varintField_mono small) ?_ (accepted_fits accepted)
  change varintField 1 (prototypeOf request sender).toId ≤ _
  rw [prototypeOf_toId]
  split
  · rename_i typed
    cases address : request.toId with
    | none => exact Nat.zero_le _
    | some => exact varintField_mono (by simp_all)
  · exact le_rfl

theorem directMessage_fits (accepted : (checkSizeSentAgain request sender).2 = .ok ())
    (kept : inFlight.prototype = prototypeOf request sender) (range : inFlight.InRange) :
    inFlight.directMessage.Fits := by
  have fits := accepted_fits accepted
  rw [← kept] at fits
  refine Message.Fits.smaller (varintField_mono range.directId) ?_ fits
  split
  · exact varintField_mono range.directTo
  · rename_i addressed
    have within := range.addressed (by
      rw [InFlight.addressed, kept, prototypeOf_toId]
      simpa using addressed)
    rw [kept, prototypeOf_toId] at within
    cases address : request.toId with
    | none => simp [address] at addressed
    | some =>
      rw [address] at within
      exact varintField_mono within

/-- A search names no more than the request's type and key, or its address. -/
theorem searchMessage_fits {prototype : Message} (key : checkKeySize prototype.key = .ok ())
    (type : prototype.type ≤ U64_MAX) (address : prototype.toId.getD 0 ≤ U64_MAX) (addressed : Bool) {id : Nat}
    (small : id ≤ U64_MAX) (sends : sender ≤ U64_MAX) : (searchMessage prototype addressed id sender).Fits := by
  have number {value : Nat} (le : value ≤ U64_MAX) : varintLen value ≤ 10 :=
    varintLen_le_ten (le.trans_lt (by decide))
  have ids := number small
  have senders := number sends
  cases addressed with
  | true =>
    have addresses : varintField 1 prototype.toId ≤ 11 := by
      cases found : prototype.toId with
      | none => exact Nat.zero_le _
      | some toId => exact Nat.add_le_add_left (number (by simpa [found] using address)) 1
    have type : varintLen types.PING ≤ 10 := by decide
    refine ⟨rfl, ?_⟩
    have whole : (searchMessage prototype true id sender).encodedLen = 1 + varintLen id + (1 + varintLen sender) +
        varintField 1 prototype.toId + 3 + (1 + varintLen types.PING) + 2 := rfl
    rw [whole, MAX_MESSAGE_SIZE]
    omega
  | false =>
    have named := number type
    have keys : bytesField 1 (prototype.key.map String.utf8ByteSize) ≤ 267 := by
      cases found : prototype.key with
      | none => exact Nat.zero_le _
      | some name =>
        have short : name.utf8ByteSize ≤ MAX_KEY_SIZE := by
          by_contra longer
          simp [checkKeySize, found, Nat.lt_of_not_le longer] at key
        have length : varintLen name.utf8ByteSize ≤ 10 := varintLen_le_ten (short.trans_lt (by decide))
        simp only [MAX_KEY_SIZE] at short
        simp only [Option.map_some, bytesField, Option.elim_some]
        omega
    have payload : varintLen (1 + varintLen prototype.type) ≤ 10 := varintLen_le_ten (by omega)
    have type : varintLen types.BACKEND_FOR_PACKET_SEARCH ≤ 10 := by decide
    refine ⟨key, ?_⟩
    have whole : (searchMessage prototype false id sender).encodedLen = 1 + varintLen id + (1 + varintLen sender) +
        (1 + varintLen types.BACKEND_FOR_PACKET_SEARCH) +
        (1 + varintLen (1 + varintLen prototype.type) + (1 + varintLen prototype.type)) +
        bytesField 1 (prototype.key.map String.utf8ByteSize) := rfl
    rw [whole, MAX_MESSAGE_SIZE]
    omega

end Accepted

/-- No query ended for want of a frame meanwhile. -/
def NoneUnencoded (core after : Core) : Prop :=
  ∀ made ∈ after.queryNotes, made.isUnencoded = true → made ∈ core.queryNotes

theorem WayIn.queryNotes {α : Type} {program : Client α} (way : WayIn program) (core : Core) :
    (program.after core).queryNotes = core.queryNotes := by
  have steady := (way.stirring core).within fun stir => stir.steady
  exact steady.queryNotes

theorem Asks.noneUnencoded {core after : Core} (asks : Asks False core after) : NoneUnencoded core after := by
  induction asks with
  | refl => exact fun _ member _ => member
  | @tail between after _ ask ih =>
    intro made member unencoded
    cases ask with
    | shift shift => exact ih made (shift.aloof.queryNotes ▸ member) unencoded
    | enter way => exact ih made (way.queryNotes between ▸ member) unencoded
    | note _ may =>
      rcases List.mem_cons.mp member with rfl | earlier
      · exact (may unencoded).elim
      · exact ih made earlier unencoded
    | queries | arm | cancel => exact ih made member unencoded

/-! ## Along a run -/

/-- The type and the address are numbers of 64 bits. -/
structure Message.Small (message : Message) : Prop where
  type : message.type ≤ U64_MAX
  toId : message.toId.getD 0 ≤ U64_MAX

/-- A PING may send the query's request to `peer`: anywhere for a request without an address,
else no farther than that. -/
structure InFlight.Reaches (inFlight : InFlight) (peer : Nat) : Prop where
  small : peer ≤ U64_MAX
  addressed : inFlight.addressed = true → peer ≤ inFlight.prototype.toId.getD 0

/-- A step by which the queries are begun and moved on: only accepted requests begin, and the PING
that answers the search of an addressed request comes from where it was sent. -/
inductive QueryStep : Core → Core → Prop
  | still {core after} (queries : after.queries = core.queries) (notes : after.queryNotes = core.queryNotes)
      (sender : after.instanceId = core.instanceId) : QueryStep core after
  | start {core} {request : Message} (small : request.Small)
      (accepted : (checkSizeSentAgain request core.instanceId).2 = .ok ()) (timeout : Option Duration)
      (lane : Option LaneId) (done : CallbackId) (received : Option CallbackId) :
      QueryStep core ((startQuery request timeout lane done received).after core)
  | takes {core} (incoming : Incoming) (reaches : incoming.message.type = types.PING →
        ∀ query inFlight, core.queries.byId[incoming.message.references.getD 0]? = some query →
          core.queries.inFlight[query]? = some inFlight → inFlight.Reaches (incoming.message.sender.getD 0)) :
      QueryStep core ((queryTakes incoming).after core)
  | moves {core} {α : Type} {program : Client α} (move : QueryMove program) : QueryStep core (program.after core)

abbrev QueryRun : Core → Core → Prop := Relation.ReflTransGen QueryStep

/-- A query of an accepted request, its attempts numbered as they may be. -/
structure InFlight.Accepted (sender : Nat) (inFlight : InFlight) : Prop where
  request : ∃ request : Message, request.Small ∧ (checkSizeSentAgain request sender).2 = .ok () ∧
    inFlight.prototype = prototypeOf request sender
  range : inFlight.InRange

/-- Every query in flight is of an accepted request. -/
structure Core.Sized (core : Core) : Prop where
  sender : core.instanceId ≤ U64_MAX
  queries : ∀ (query : QueryId) (inFlight : InFlight), core.queries.inFlight[query]? = some inFlight →
    inFlight.Accepted core.instanceId

/-- Queries of accepted requests stay so, and none ends for want of a frame. -/
def Sizes (core after : Core) : Prop := core.Sized → after.Sized ∧ NoneUnencoded core after

instance : Std.Refl Sizes := ⟨fun _ sized => ⟨sized, fun _ member _ => member⟩⟩

instance : IsTrans Core Sizes where
  trans _ _ _ one two sized := by
    obtain ⟨between, first⟩ := one sized
    obtain ⟨after, second⟩ := two between
    exact ⟨after, fun made member unencoded => first made (second made member unencoded) unencoded⟩

section Sizes

variable {core after : Core} {query : QueryId} {sender : Nat} {inFlight later : InFlight}

theorem Core.Sized.still (sized : core.Sized) (queries : after.queries = core.queries)
    (sender : after.instanceId = core.instanceId) : after.Sized := by
  refine ⟨sender ▸ sized.sender, ?_⟩
  rw [queries, sender]
  exact sized.queries

namespace InFlight.Accepted

theorem kept (accepted : inFlight.Accepted sender) (kept : inFlight.Kept later) : later.Accepted sender := by
  have prototype : later.prototype = inFlight.prototype := congrArg Prod.fst kept.parts
  have directId : later.directId = inFlight.directId := congrArg (·.2.1) kept.parts
  have directTo : later.directTo = inFlight.directTo := congrArg (·.2.2) kept.parts
  have range := accepted.range
  refine ⟨prototype ▸ accepted.request, ?_, directId ▸ range.directId, directTo ▸ range.directTo, ?_⟩
  · rcases kept.requestId with same | small
    · exact same ▸ range.requestId
    · exact small
  · rw [addressed, prototype, directTo]
    exact range.addressed

theorem request_framed (accepted : inFlight.Accepted sender) {id : Nat} (small : id ≤ U64_MAX) :
    attemptFrame inFlight.prototype id ≠ none := by
  obtain ⟨request, -, passed, is⟩ := accepted.request
  simp [is, attemptFrame, (attempt_fits passed small).encode]

theorem search_framed (accepted : inFlight.Accepted sender) (addressed : Bool) {id : Nat} (small : id ≤ U64_MAX)
    (sends : sender ≤ U64_MAX) : encode (searchMessage inFlight.prototype addressed id sender) ≠ none := by
  obtain ⟨request, numbers, passed, is⟩ := accepted.request
  have key : checkKeySize inFlight.prototype.key = .ok () := is ▸ (attempt_fits passed small).key
  have type : inFlight.prototype.type ≤ U64_MAX := by
    rw [is, prototypeOf_type]
    exact numbers.type
  have address : inFlight.prototype.toId.getD 0 ≤ U64_MAX := by
    rw [is, prototypeOf_toId]
    exact numbers.toId
  rw [(searchMessage_fits key type address addressed small sends).encode]
  exact Option.some_ne_none _

theorem direct_framed (accepted : inFlight.Accepted sender) : encode inFlight.directMessage ≠ none := by
  obtain ⟨request, -, passed, is⟩ := accepted.request
  rw [(directMessage_fits passed is accepted.range).encode]
  exact Option.some_ne_none _

end InFlight.Accepted

theorem Ask.sized (ask : Ask False core after) (sized : core.Sized) : after.Sized := by
  cases ask with
  | shift shift => exact sized.still shift.aloof.queries shift.aloof.instanceId
  | enter way =>
    have steady := (way.stirring core).within fun stir => stir.steady
    exact sized.still steady.queries steady.instanceId
  | queries queries kept =>
    refine ⟨sized.sender, fun query later found => ?_⟩
    obtain ⟨inFlight, before, keeps⟩ := kept id query later found
    exact (sized.queries query inFlight before).kept keeps
  | note | arm | cancel => exact sized.still rfl rfl

theorem Asks.sizes (asks : Asks False core after) : Sizes core after := by
  refine fun sized => ⟨?_, asks.noneUnencoded⟩
  induction asks with
  | refl => exact sized
  | tail _ ask ih => exact ask.sized ih

theorem startRequest_framed {keepDeadline : Bool} (framed : ∀ inFlight, core.queries.inFlight[query]? = some inFlight →
      inFlight.requestId ≤ U64_MAX ∧ ∀ id ≤ U64_MAX, attemptFrame inFlight.prototype id ≠ none) :
    Asks False core ((startRequest query keepDeadline).after core) := by
  refine startRequest_asks fun inFlight id found is none => ?_
  obtain ⟨small, frames⟩ := framed inFlight found
  refine frames id ?_ none
  rcases is with rfl | rfl
  · exact small
  · exact random64_le core

theorem Sizes.querying : Querying Sizes where
  asking asking _ := Asks.sizes (asking _)
  requests query _ core sized := by
    refine Asks.sizes (startRequest_framed fun inFlight found => ?_) sized
    have accepted := sized.queries query inFlight found
    exact ⟨accepted.range.requestId, fun _ => accepted.request_framed⟩
  searches query _ core sized := by
    refine Asks.sizes (search_asks fun inFlight id found small none => ?_) sized
    exact (sized.queries query inFlight found).search_framed _ small sized.sender none
  directs query _ _ core sized :=
    Asks.sizes (sendDirect_asks fun inFlight found => (sized.queries query inFlight found).direct_framed) sized

/-- A request of 64 bit numbers, accepted, is begun. -/
theorem startQuery_sizes {request : Message} (small : request.Small)
    (accepted : (checkSizeSentAgain request core.instanceId).2 = .ok ()) (timeout : Option Duration)
    (lane : Option LaneId) (done : CallbackId) (received : Option CallbackId) :
    Sizes core ((startQuery request timeout lane done received).after core) := by
  rw [startQuery, after_get_bind]
  refine Keeps.bind_at (fun sized => ?_) fun _ => .bind (Sizes.querying.asking (noteQuery_asking nofun)) fun _ =>
    .bind (Sizes.querying.requests _ _) fun _ => .pure _
  refine ⟨⟨sized.sender, fun each later found => ?_⟩, fun _ member _ => member⟩
  change (core.queries.inFlight.insert _ _)[each]? = some later at found
  rw [Lookup.insert_apply] at found
  split at found
  · cases found
    exact ⟨⟨request, small, accepted, rfl⟩, Nat.zero_le _, Nat.zero_le _, Nat.zero_le _, fun _ => Nat.zero_le _⟩
  · exact sized.queries each later found

theorem direct_sizes {ping : Incoming} (reaches : ∀ inFlight : InFlight,
      core.queries.inFlight[query]? = some inFlight → inFlight.Reaches (ping.message.sender.getD 0)) :
    Sizes core ((direct query ping).after core) := by
  rw [direct, after_bind]
  refine trans_of Sizes (Asks.sizes (random64_shifting.asking core)) ?_
  refine Keeps.bind_at (fun sized => ?_) fun _ => Sizes.querying.directs _ _ _
  refine ⟨⟨sized.sender, fun each later found => ?_⟩, fun _ member _ => member⟩
  change (core.queries.inFlight.modify query _)[each]? = some later at found
  rw [Lookup.modify_apply] at found
  split at found
  · obtain ⟨inFlight, before, rfl⟩ := Option.map_eq_some_iff.mp found
    obtain ⟨request, range⟩ := sized.queries query inFlight before
    obtain ⟨small, within⟩ := reaches inFlight before
    exact ⟨request, range.requestId, random64_le core, small, within⟩
  · exact sized.queries each later found

theorem QueryStep.sizes (step : QueryStep core after) : Sizes core after := by
  cases step with
  | still queries notes sender => exact fun sized => ⟨sized.still queries sender, fun _ member _ => notes ▸ member⟩
  | start small accepted timeout lane done received => exact startQuery_sizes small accepted timeout lane done received
  | takes incoming reaches =>
    exact queryTakes_keeps Sizes.querying fun query byId ping =>
      direct_sizes fun inFlight found => reaches ping query inFlight byId found
  | moves move => exact move.keeps Sizes.querying core

/-- Along every run the queries in flight stay those of accepted requests, their attempts in range,
and none ends for want of a frame. -/
theorem QueryRun.sizes (run : QueryRun core after) : Sizes core after := run.within QueryStep.sizes

theorem start_sized (settings : Settings) (now : Instant) : (settings.start now).Sized :=
  ⟨Nat.le_pred_of_lt (settings.ids.nth_lt 0), by simp [Settings.start, Core.new]⟩

end Sizes

/-- A request that `checkSizeSentAgain` accepts is framed with any id and, sent again, with any
address it may get, so that neither stage that frames it ends its query for want of a frame. Nor
does a search, along any run in which every request begun was accepted. -/
theorem accepted_request_sent_again {request : Message} {sender : Nat}
    (accepted : (checkSizeSentAgain request sender).2 = .ok ()) :
    (∀ id ≤ U64_MAX, ∃ frame, attemptFrame (prototypeOf request sender) id = some frame ∧
      frame.bytes.message = { prototypeOf request sender with id := some id } ∧
      frame.bytes.message.Fits) ∧
    (∀ inFlight : InFlight, inFlight.prototype = prototypeOf request sender → inFlight.InRange →
      ∃ bytes, encode inFlight.directMessage = some bytes ∧ bytes.message.Fits) ∧
    (∀ core : Core, core.instanceId = sender → ∀ timeout lane done received,
        NoneUnencoded core ((startQuery request timeout lane done received).after core)) ∧
    (∀ (core : Core) (query : QueryId) (inFlight : InFlight), core.queries.inFlight[query]? = some inFlight →
      inFlight.prototype = prototypeOf request sender → inFlight.InRange →
      (∀ keepDeadline, NoneUnencoded core ((startRequest query keepDeadline).after core)) ∧
      ∀ preferred keepDeadline, NoneUnencoded core ((sendDirect query preferred keepDeadline).after core)) ∧
    (request.Small → ∀ core : Core, core.Sized → core.instanceId = sender →
      ∀ timeout lane done received after,
        QueryRun ((startQuery request timeout lane done received).after core) after →
        after.Sized ∧ NoneUnencoded core after) := by
  have frames : ∀ id ≤ U64_MAX, attemptFrame (prototypeOf request sender) id ≠ none := by
    intro id small
    simp [attemptFrame, (attempt_fits accepted small).encode]
  refine ⟨fun id small => ?_, fun inFlight kept range => ?_, ?_, ?_, ?_⟩
  · have fits := attempt_fits accepted small
    exact ⟨_, congrArg _ fits.encode, rfl, fits⟩
  · have fits := directMessage_fits accepted kept range
    exact ⟨_, fits.encode, fits⟩
  · rintro core rfl _ _ _ _
    have begins : ∀ began : Core, (∀ made ∈ began.queryNotes, made.isUnencoded = true → made ∈ core.queryNotes) →
        (∀ inFlight, began.queries.inFlight[core.queries.nextQuery + 1]? = some inFlight →
          inFlight.prototype = prototypeOf request core.instanceId ∧ inFlight.requestId = 0) →
        NoneUnencoded core ((startRequest (core.queries.nextQuery + 1) false).after began) := by
      intro began notes keeps made member unencoded
      refine notes made (Asks.noneUnencoded (startRequest_framed fun inFlight found => ?_) made member unencoded) unencoded
      obtain ⟨kept, fresh⟩ := keeps inFlight found
      exact ⟨fresh ▸ Nat.zero_le _, kept ▸ frames⟩
    apply begins
    · intro _ member unencoded
      rcases List.mem_cons.mp member with rfl | earlier
      · cases unencoded
      · exact earlier
    · intro inFlight found
      change (core.queries.inFlight.insert (core.queries.nextQuery + 1) _)[_]? = some _ at found
      rw [Std.TreeMap.getElem?_insert_self] at found
      cases found
      exact ⟨rfl, rfl⟩
  · intro core _ inFlight found kept range
    refine ⟨fun keepDeadline => Asks.noneUnencoded (startRequest_framed fun other there => ?_),
      fun preferred keepDeadline => Asks.noneUnencoded (sendDirect_asks ?_)⟩
    · obtain rfl : inFlight = other := Option.some.inj (found.symm.trans there)
      exact ⟨range.requestId, kept ▸ frames⟩
    · intro other there none
      obtain rfl : inFlight = other := Option.some.inj (found.symm.trans there)
      rw [(directMessage_fits accepted kept range).encode] at none
      cases none
  · rintro small core sized rfl timeout lane done received after run
    have begins := startQuery_sizes small accepted timeout lane done received
    exact trans_of Sizes begins run.sizes sized

def longest (toId : Option Nat) (length : Nat) : Message :=
  { type := 100, toId, message := some ⟨length, .uninterpreted⟩ }

/-- A query of `request` whose direct request goes to `peer` under the largest id. -/
def sentTo (request : Message) (peer : Nat) : InFlight :=
  { stage := .direct, resume := .request, directTo := peer, sentVia := none, sentState := none
    requestState := none, directState := none, prototype := prototypeOf request 1, timeout := none
    deadline := none, lane := none, requestId := 5, searchId := 0, directId := U64_MAX, taken := false
    pending := [], searched := [], searchIds := [], generation := 0, listed := false, callback := none
    received := none, timer := none }

/-- The longest request accepted for a type, and for an address: each is sent again in a frame of
`MAX_MESSAGE_SIZE` bytes, and a client that began the first ends no query for want of a frame. -/
theorem longest_sent_again :
    ((sentTo (longest none 134217694) U64_MAX).directMessage.encodedLen = MAX_MESSAGE_SIZE ∧
      ∃ bytes, encode (sentTo (longest none 134217694) U64_MAX).directMessage = some bytes ∧ bytes.message.Fits) ∧
    ((sentTo (longest (some 7) 134217703) 7).directMessage.encodedLen = MAX_MESSAGE_SIZE ∧
      ∃ bytes, encode (sentTo (longest (some 7) 134217703) 7).directMessage = some bytes ∧ bytes.message.Fits) ∧
    ∀ after, QueryRun ((startQuery (longest none 134217694) none none 0 none).after
      (Settings.plain.start 0)) after → NoneUnencoded (Settings.plain.start 0) after := by
  have typed : (checkSizeSentAgain (longest none 134217694) 1).2 = .ok () := rfl
  have addressed : (checkSizeSentAgain (longest (some 7) 134217703) 1).2 = .ok () := rfl
  refine ⟨⟨rfl, ?_⟩, ⟨rfl, ?_⟩, fun after run => ?_⟩
  · exact (accepted_request_sent_again typed).2.1 _ rfl ⟨by decide, by decide, by decide, by decide⟩
  · exact (accepted_request_sent_again addressed).2.1 _ rfl ⟨by decide, by decide, by decide, by decide⟩
  · exact ((accepted_request_sent_again typed).2.2.2.2 ⟨by decide, by decide⟩ _ (start_sized _ 0) rfl none none 0 none
      after run).2

end Multiplexer
