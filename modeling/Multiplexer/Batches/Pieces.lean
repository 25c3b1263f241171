import Multiplexer.Batches.Moves
import Multiplexer.Runs.Basic

/-! A batch as the pieces it goes in: each message in one of them, in order; an envelope of two or
more within the batch's bound, a confirmed message given up on only when no envelope can hold it. -/

set_option autoImplicit false

namespace Multiplexer

open Program List

/-! ## The pieces -/

inductive Piece where
  | envelope (id : Nat) (bytes : FrameBytes) (records : List Record)
  | alone (record : Record)
  | givenUp (id : Nat) (records : List Record)

namespace Piece

def records : Piece → List Record
  | .envelope _ _ records => records
  | .alone record => [record]
  | .givenUp _ records => records

/-- A piece goes: as a frame, which waits for what a confirmed one is told, or not at all. -/
def send (batch : Batch) (lane : Option LaneId) : Piece → Client Unit
  | .envelope id bytes records =>
    if batch.delivery.confirm then
      waitForConfirmation ⟨bytes, id, batch.type, .confirmed⟩ batch records lane
    else sendEnvelope batch id bytes records lane
  | .alone record => sendAlone batch record lane
  | .givenUp _ records => cannotConfirm records

def Sound (batch : Batch) (instanceId : Nat) : Piece → Prop
  | .envelope id bytes records =>
    encode (envelopeOf batch instanceId id records) = some bytes ∧
      (2 ≤ records.length → (envelopeOf batch instanceId id records).encodedLen ≤ batch.delivery.maxBytes)
  | .alone _ => batch.delivery.confirm = false
  | .givenUp id records =>
    batch.delivery.confirm = true ∧ id < 2 ^ 64 ∧ ∃ record, records = [record] ∧
      MAX_MESSAGE_SIZE < (envelopeOf batch instanceId id [record]).encodedLen

end Piece

def nextPiece (batch : Batch) (first : Record) (rest : List Record) : Client (Piece × List Record) :=
  if !rest.isEmpty || batch.delivery.confirm then do
    let id ← random64
    let (records, fit, bytes) ← batchFrame batch id (first :: rest)
    match bytes with
    | some bytes => pure (.envelope id bytes (records.take fit), records.drop fit)
    | none =>
      if batch.delivery.confirm then pure (.givenUp id (records.take fit), records.drop fit)
      else pure (.alone first, rest)
  else pure (.alone first, [])

theorem sendRecords_succ (batch : Batch) (lane : Option LaneId) (steps : Nat) (first : Record)
    (rest : List Record) (core : Core) :
    (sendRecords batch lane (steps + 1) (first :: rest)).after core =
      (sendRecords batch lane steps ((nextPiece batch first rest).value core).2).after
        ((((nextPiece batch first rest).value core).1.send batch lane).after
          ((nextPiece batch first rest).after core)) := by
  rw [sendRecords, nextPiece]
  split
  · simp only [after_bind, value_bind]
    generalize framed : (batchFrame batch (random64.value core) (first :: rest)).value (random64.after core) = made
    obtain ⟨_, _, bytes⟩ := made
    cases bytes with
    | some | none =>
      by_cases confirm : batch.delivery.confirm = true <;> simp [confirm, Piece.send]
  · cases steps <;> rfl

/-- `Sends batch lane records core pieces after`: sent from `core` on, `records` go in `pieces`, one
after another until none is left, and leave `after`. -/
inductive Sends (batch : Batch) (lane : Option LaneId) : List Record → Core → List Piece → Core → Prop
  | done (core : Core) : Sends batch lane [] core [] core
  | next {first : Record} {rest left : List Record} {core after : Core} {piece : Piece}
      {pieces : List Piece} (cut : (nextPiece batch first rest).value core = (piece, left))
      (goes : Sends batch lane left
        ((piece.send batch lane).after ((nextPiece batch first rest).after core)) pieces after) :
      Sends batch lane (first :: rest) core (piece :: pieces) after

/-! ## What a piece holds -/

theorem encode_eq_none {message : Message}
    (key : (message.key.map String.utf8ByteSize).getD 0 ≤ MAX_KEY_SIZE)
    (none : encode message = none) : MAX_MESSAGE_SIZE < message.encodedLen := by
  unfold encode at none
  rw [if_neg (Nat.not_lt.mpr key)] at none
  by_contra within
  cases (if_neg within).symm.trans none

section Fitting

variable (batch : Batch) (instanceId id : Nat) (records : List Record)

theorem fittingIn_take :
    records.take (fittingIn batch instanceId id records).length = fittingIn batch instanceId id records :=
  (prefix_iff_eq_take.mp (fitting_begins _ _)).symm

theorem fittingIn_fits (two : 2 ≤ (fittingIn batch instanceId id records).length) :
    (envelopeOf batch instanceId id (fittingIn batch instanceId id records)).encodedLen ≤
      batch.delivery.maxBytes := by
  have fits : (fittingIn batch instanceId id records).length ≤ 1 ∨
      envelopeSize batch instanceId id (fittingIn batch instanceId id records) ≤
        batch.delivery.maxBytes := fitting_fits (Nat.le_succ records.length)
  exact fits.resolve_left (Nat.not_le.mpr two)

theorem fittingIn_one (key : (batch.key.map String.utf8ByteSize).getD 0 ≤ MAX_KEY_SIZE)
    (bound : batch.delivery.maxBytes ≤ MAX_MESSAGE_SIZE) (some : records ≠ [])
    (fails : encode (envelopeOf batch instanceId id (fittingIn batch instanceId id records)) = none) :
    (fittingIn batch instanceId id records).length = 1 := by
  have large := encode_eq_none key fails
  have one : 0 < (fittingIn batch instanceId id records).length :=
    length_pos_iff.mpr (fitting_ne_nil _ some)
  by_contra more
  have fits := fittingIn_fits batch instanceId id records (by omega)
  omega

end Fitting

/-! ## A round -/

section Cut

variable {batch : Batch} {first : Record} {rest left : List Record} {core : Core} {piece : Piece}

theorem numbering_stirring (batch : Batch) (records : List Record) : Stirring (numbering batch records) := by
  unfold numbering
  split
  · exact (numbered_shifting _ _).stirring
  · exact .pure _

theorem nextPiece_stirring (batch : Batch) (first : Record) (rest : List Record) :
    Stirring (nextPiece batch first rest) := by
  unfold nextPiece
  split
  · refine .bind random64_shifting.stirring fun id => .bind (batchFrame_shifting _ _ _).stirring ?_
    intro made
    obtain ⟨_, _, bytes⟩ := made
    cases bytes with
    | some => exact .pure _
    | none => exact .ite (.pure _) (.pure _)
  · exact .pure _

theorem Piece.send_stirring (batch : Batch) (lane : Option LaneId) (piece : Piece) :
    Stirring (piece.send batch lane) := by
  cases piece with
  | envelope =>
    exact .ite (places_stirs.waitForConfirmation _ _ _ _) (places_stirs.sendEnvelope _ _ _ _ _)
  | alone => exact places_stirs.sendAlone _ _ _
  | givenUp => exact (cannotConfirm_shifting _).stirring

def roundOf (batch : Batch) (first : Record) (rest : List Record) (core : Core) : List Record :=
  (numbering batch (first :: rest)).value (random64.after core)

def insideOf (batch : Batch) (first : Record) (rest : List Record) (core : Core) : List Record :=
  fittingIn batch core.instanceId (random64.value core) (roundOf batch first rest core)

theorem roundOf_same (batch : Batch) (first : Record) (rest : List Record) (core : Core) :
    (first :: rest).Forall₂ Record.Same (roundOf batch first rest core) :=
  numbering_same _ _ _

theorem roundOf_ne_nil (batch : Batch) (first : Record) (rest : List Record) (core : Core) :
    roundOf batch first rest core ≠ [] := by
  have same := roundOf_same batch first rest core
  generalize roundOf batch first rest core = records at same
  cases same
  simp

theorem insideOf_append (batch : Batch) (first : Record) (rest : List Record) (core : Core) :
    insideOf batch first rest core ++ (roundOf batch first rest core).drop (insideOf batch first rest core).length =
      roundOf batch first rest core :=
  (prefix_iff_eq_append.mp (fitting_begins _ _))

section

variable (cut : (nextPiece batch first rest).value core = (piece, left))

include cut

/-- What a round cuts off: a message that is the last one left, as itself; what fits in an envelope;
one confirmed message that none holds; or, of more, the first as itself. -/
theorem nextPiece_cases : (batch.delivery.confirm = false ∧ rest = [] ∧ piece = .alone first ∧ left = []) ∨
    (∃ bytes, encode (envelopeOf batch core.instanceId (random64.value core)
        (insideOf batch first rest core)) = some bytes ∧
      piece = .envelope (random64.value core) bytes (insideOf batch first rest core) ∧
      left = (roundOf batch first rest core).drop (insideOf batch first rest core).length) ∨
    (batch.delivery.confirm = true ∧ encode (envelopeOf batch core.instanceId (random64.value core)
        (insideOf batch first rest core)) = none ∧
      piece = .givenUp (random64.value core) (insideOf batch first rest core) ∧
      left = (roundOf batch first rest core).drop (insideOf batch first rest core).length) ∨
    (batch.delivery.confirm = false ∧ ((insideOf batch first rest core).length ≤ 1 ∨
        encode (envelopeOf batch core.instanceId (random64.value core) (insideOf batch first rest core)) = none) ∧
      piece = .alone first ∧ left = rest) := by
  have sender : ((numbering batch (first :: rest)).after (random64.after core)).instanceId =
      core.instanceId := (numbering_stirring batch (first :: rest) _).steady.instanceId
  have made : (batchFrame batch (random64.value core) (first :: rest)).value (random64.after core) =
      (roundOf batch first rest core, (insideOf batch first rest core).length,
        frameOf batch core.instanceId (random64.value core) (insideOf batch first rest core)) := by
    rw [batchFrame_eq, insideOf, ← sender]
    rfl
  have taken : (roundOf batch first rest core).take (insideOf batch first rest core).length =
      insideOf batch first rest core := fittingIn_take _ _ _ _
  unfold nextPiece at cut
  split at cut
  · rw [value_bind, value_bind, made] at cut
    simp only [taken] at cut
    unfold frameOf at cut
    by_cases confirm : batch.delivery.confirm = true
    · simp only [confirm, Bool.or_true, if_true] at cut
      split at cut
      · rename_i bytes encoded
        cases cut
        exact .inr (.inl ⟨bytes, encoded, rfl, rfl⟩)
      · rename_i fails
        cases cut
        exact .inr (.inr (.inl ⟨confirm, fails, rfl, rfl⟩))
    · rw [Bool.not_eq_true] at confirm
      simp only [confirm, Bool.or_false, decide_eq_true_eq, Bool.false_eq_true, if_false] at cut
      split at cut
      · rename_i bytes encoded
        cases cut
        split at encoded
        · exact .inr (.inl ⟨bytes, encoded, rfl, rfl⟩)
        · cases encoded
      · rename_i fails
        cases cut
        split at fails
        · exact .inr (.inr (.inr ⟨confirm, .inr fails, rfl, rfl⟩))
        · rename_i one
          exact .inr (.inr (.inr ⟨confirm, .inl (Nat.le_of_not_lt one), rfl, rfl⟩))
  · rename_i alone
    simp only [Bool.or_eq_true, Bool.not_eq_true', not_or, Bool.not_eq_false, List.isEmpty_iff,
      Bool.not_eq_true] at alone
    cases cut
    exact .inl ⟨alone.2, alone.1, rfl, rfl⟩

theorem nextPiece_splits : (first :: rest).Forall₂ Record.Same (piece.records ++ left) := by
  have same := roundOf_same batch first rest core
  rw [← insideOf_append] at same
  rcases nextPiece_cases cut with ⟨-, rfl, rfl, rfl⟩ | ⟨_, -, rfl, rfl⟩ | ⟨-, -, rfl, rfl⟩ | ⟨-, -, rfl, rfl⟩
  · exact Record.Same.forall_refl _
  · exact same
  · exact same
  · exact Record.Same.forall_refl _

theorem nextPiece_takes : piece.records ≠ [] := by
  have holds : insideOf batch first rest core ≠ [] := fitting_ne_nil _ (roundOf_ne_nil _ _ _ _)
  rcases nextPiece_cases cut with ⟨-, -, rfl, -⟩ | ⟨_, -, rfl, -⟩ | ⟨-, -, rfl, -⟩ | ⟨-, -, rfl, -⟩
  · simp [Piece.records]
  · exact holds
  · exact holds
  · simp [Piece.records]

end

theorem nextPiece_sound (key : (batch.key.map String.utf8ByteSize).getD 0 ≤ MAX_KEY_SIZE)
    (bound : batch.delivery.maxBytes ≤ MAX_MESSAGE_SIZE)
    (cut : (nextPiece batch first rest).value core = (piece, left)) :
    piece.Sound batch core.instanceId := by
  rcases nextPiece_cases cut with ⟨plain, -, rfl, -⟩ | ⟨_, encoded, rfl, -⟩ |
    ⟨confirm, fails, rfl, -⟩ | ⟨plain, -, rfl, -⟩
  · exact plain
  · exact ⟨encoded, fun two => fittingIn_fits _ _ _ _ two⟩
  · have one := fittingIn_one _ _ _ _ key bound (roundOf_ne_nil _ _ _ _) fails
    obtain ⟨record, is⟩ := length_eq_one_iff.mp one
    refine ⟨confirm, core.ids.nth_lt core.drawn, record, is, ?_⟩
    rw [← is]
    exact encode_eq_none key fails
  · exact plain

end Cut

/-! ## The whole batch -/

def idleLane (idle : Option ConnId) : Client (Option LaneId) := do
  let core ← get
  match idle.filter core.connLiving with
  | some conn => do
    let lane ← seededLane (core.wrap conn) false
    pure (some lane)
  | none => pure none

theorem idleLane_instanceId (idle : Option ConnId) (core : Core) :
    ((idleLane idle).after core).instanceId = core.instanceId := by
  unfold idleLane
  rw [after_get_bind]
  cases idle.filter core.connLiving <;> rfl

theorem sendBatch_eq (batch : Batch) (idle : Option ConnId) (core : Core) : (sendBatch batch idle).after core =
      (sendRecords batch ((idleLane idle).value core) batch.records.length batch.records).after
        ((idleLane idle).after core) := by
  unfold sendBatch idleLane
  rw [after_get_bind, after_get_bind, value_get_bind]
  cases idle.filter core.connLiving <;> rfl

theorem sendRecords_sends (batch : Batch) (lane : Option LaneId) (core : Core) {steps : Nat}
    {records : List Record} (enough : records.length ≤ steps) :
    ∃ pieces, Sends batch lane records core pieces ((sendRecords batch lane steps records).after core) := by
  induction steps generalizing records core with
  | zero =>
    cases records with
    | nil => exact ⟨[], .done core⟩
    | cons => exact absurd enough (by simp)
  | succ steps ih =>
    cases records with
    | nil => exact ⟨[], .done core⟩
    | cons first rest =>
      generalize cut : (nextPiece batch first rest).value core = made
      obtain ⟨piece, left⟩ := made
      have splits := (nextPiece_splits cut).length_eq
      have takes := length_pos_iff.mpr (nextPiece_takes cut)
      rw [length_append, length_cons] at splits
      rw [length_cons] at enough
      have fewer : left.length ≤ steps := by omega
      obtain ⟨pieces, goes⟩ :=
        ih ((piece.send batch lane).after ((nextPiece batch first rest).after core)) fewer
      refine ⟨piece :: pieces, .next cut ?_⟩
      rw [sendRecords_succ, cut]
      exact goes

section Sends

variable {batch : Batch} {lane : Option LaneId} {records : List Record} {core after : Core}
  {pieces : List Piece}

theorem Sends.splits (sends : Sends batch lane records core pieces after) :
    records.Forall₂ Record.Same (pieces.flatMap Piece.records) := by
  induction sends with
  | done => exact .nil
  | next cut _ ih =>
    rw [flatMap_cons]
    exact Record.Same.forall_trans (nextPiece_splits cut) (rel_append (Record.Same.forall_refl _) ih)

theorem Sends.sound (key : (batch.key.map String.utf8ByteSize).getD 0 ≤ MAX_KEY_SIZE)
    (bound : batch.delivery.maxBytes ≤ MAX_MESSAGE_SIZE)
    (sends : Sends batch lane records core pieces after) :
    ∀ piece ∈ pieces, piece.Sound batch core.instanceId := by
  induction sends with
  | done => simp
  | @next first rest left core after piece pieces cut goes ih =>
    have sender : ((piece.send batch lane).after ((nextPiece batch first rest).after core)).instanceId =
        core.instanceId :=
      (Stirs.steady ((nextPiece_stirring batch first rest core).trans
        (piece.send_stirring batch lane _))).instanceId
    rw [sender] at ih
    intro each member
    rcases mem_cons.mp member with rfl | later
    · exact nextPiece_sound key bound cut
    · exact ih each later

theorem Sends.takes (sends : Sends batch lane records core pieces after) :
    ∀ piece ∈ pieces, piece.records ≠ [] := by
  induction sends with
  | done => simp
  | next cut _ ih =>
    intro each member
    rcases mem_cons.mp member with rfl | later
    · exact nextPiece_takes cut
    · exact ih each later

end Sends

/-- A batch goes in pieces, each message in one, in order: an envelope of two or more within the
bound, and a confirmed message given up on alone, when no envelope can hold it. Whatever frame is
made, the key is back, and every body not in it. -/
theorem sendBatch_goes_in_pieces (batch : Batch) (idle : Option ConnId) (core : Core)
    (key : (batch.key.map String.utf8ByteSize).getD 0 ≤ MAX_KEY_SIZE)
    (bound : batch.delivery.maxBytes ≤ MAX_MESSAGE_SIZE) : (∃ pieces,
      Sends batch ((idleLane idle).value core) batch.records ((idleLane idle).after core) pieces
        ((sendBatch batch idle).after core) ∧
      batch.records.Forall₂ Record.Same (pieces.flatMap Piece.records) ∧
      ∀ piece ∈ pieces, piece.records ≠ [] ∧ piece.Sound batch core.instanceId) ∧
    ∀ (id : Nat) (records : List Record) (before : Core), ∃ numbered fit bytes,
      (batchFrame batch id records).value before = (numbered, fit, bytes) ∧
      records.Forall₂ Record.Same numbered ∧
      (batchFrameMoves batch id records).run before = (((batch.key, bytes.elim numbered fun _ =>
          (numbered.take fit).map Record.emptied ++ numbered.drop fit), fit, bytes),
          (batchFrame batch id records).after before) := by
  constructor
  · obtain ⟨pieces, sends⟩ := sendRecords_sends batch ((idleLane idle).value core)
      ((idleLane idle).after core) (le_refl batch.records.length)
    have sound := sends.sound key bound
    rw [idleLane_instanceId] at sound
    refine ⟨pieces, ?_, sends.splits, fun piece member => ⟨sends.takes piece member, sound piece member⟩⟩
    rw [sendBatch_eq]
    exact sends
  · intro id records before
    generalize made : (batchFrame batch id records).value before = result
    obtain ⟨numbered, fit, bytes⟩ := result
    exact ⟨numbered, fit, bytes, rfl, batchFrame_same made, batchFrameMoves_run made⟩

def nineBytes (id : Nat) : Record where
  body :=
    { length := 9
      message := some
        { id := some id, sender := some 1, type := 200, message := some ⟨0, .uninterpreted⟩ } }
  id
  done := none
  tracker := none
  number := 0
  ticket := id

/-- Three of them, in a batch whose bound two would fit in with an envelope of 31 bytes. -/
def threeNines : Batch where
  type := 200
  key := none
  delivery := { batch := true, maxBytes := 32 }
  records := [nineBytes 2, nineBytes 3, nineBytes 4]
  bytes := 27
  deadline := none
  waitsForIdle := true
  due := none
  backoff := 0

theorem threeNines_go_in_pieces : (none.map String.utf8ByteSize).getD 0 ≤ MAX_KEY_SIZE ∧ 32 ≤ MAX_MESSAGE_SIZE ∧
    ∃ pieces : List Piece, threeNines.records.Forall₂ Record.Same (pieces.flatMap Piece.records) ∧
      ∀ piece ∈ pieces, piece.Sound threeNines (Settings.plain.start 0).instanceId := by
  have key : (threeNines.key.map String.utf8ByteSize).getD 0 ≤ MAX_KEY_SIZE := by decide
  have bound : threeNines.delivery.maxBytes ≤ MAX_MESSAGE_SIZE := by decide
  obtain ⟨⟨pieces, -, splits, sound⟩, -⟩ :=
    sendBatch_goes_in_pieces threeNines none (Settings.plain.start 0) key bound
  exact ⟨key, bound, pieces, splits, fun piece member => (sound piece member).2⟩

/-! ## How full a frame is -/

theorem bytesField_grows {keyLen length longer more : Nat} (adds : length + more ≤ longer) :
    bytesField keyLen (some length) + more ≤ bytesField keyLen (some longer) := by
  have header : varintLen length ≤ varintLen longer := varintLen_mono (by omega)
  simp only [bytesField, Option.elim_some]
  omega

theorem addNumber_grows (pairs : List Nat) (number : Nat) :
    packedField 1 pairs ≤ packedField 1 (addNumber pairs number) := by
  have larger : ∀ others : List Nat, others ≠ [] → (pairs.map varintLen).sum ≤ (others.map varintLen).sum →
      packedField 1 pairs ≤ packedField 1 others := by
    intro others any more
    have grows : packedField 1 others = bytesField 1 (some (others.map varintLen).sum) :=
      if_neg (by simpa using any)
    rw [grows, packedField]
    split
    · exact Nat.zero_le _
    · exact @bytesField_grows 1 _ _ 0 more
  unfold addNumber
  split
  · rename_i count first earlier reversed
    obtain rfl : pairs = earlier.reverse ++ [first, count] := by
      rw [← reverse_reverse pairs, reversed]
      simp
    split
    · refine larger _ (by simp) ?_
      have count : varintLen count ≤ varintLen (count + 1) := varintLen_mono (Nat.le_succ _)
      simp only [map_append, map_cons, map_nil, sum_append, sum_cons, sum_nil]
      omega
    · exact larger _ (by simp) (by simp)
  · exact larger _ (by simp) (by simp)

theorem foldl_addNumber_grows (pairs numbers : List Nat) :
    packedField 1 pairs ≤ packedField 1 (numbers.foldl addNumber pairs) := by
  induction numbers generalizing pairs with
  | nil => exact le_rfl
  | cons number _ ih => exact (addNumber_grows pairs number).trans (ih _)

theorem batchEncodedLen_grows (lengths more : List Nat) :
    batchEncodedLen lengths + more.sum ≤ batchEncodedLen (lengths ++ more) := by
  have each : more.sum ≤ batchEncodedLen more := by
    unfold batchEncodedLen
    induction more with
    | nil => exact le_rfl
    | cons length _ ih =>
      simp only [bytesField, map_cons, sum_cons, Option.elim_some] at ih ⊢
      omega
  simp only [batchEncodedLen, map_append, sum_append] at each ⊢
  omega

/-- Each message adds at least its body to an envelope. -/
theorem envelopeSize_grows (batch : Batch) (instanceId id : Nat) (first behind : List Record) :
    envelopeSize batch instanceId id first + bodyBytes behind ≤
      envelopeSize batch instanceId id (first ++ behind) := by
  have bodies := batchEncodedLen_grows (first.map (·.body.length)) (behind.map (·.body.length))
  rw [← map_append] at bodies
  have inside := @bytesField_grows 1 _ _ _ bodies
  have numbers := foldl_addNumber_grows ((first.map Record.number).foldl addNumber [])
    (behind.map Record.number)
  rw [← foldl_append, ← map_append] at numbers
  unfold bodyBytes
  simp only [envelopeSize, envelopeOf, Message.encodedLen, Option.map_some]
  split <;> omega

/-- A round's piece is what fits of the round, also where that goes as itself. -/
theorem nextPiece_inside {batch : Batch} {first : Record} {rest left : List Record} {core : Core}
    {piece : Piece} (key : (batch.key.map String.utf8ByteSize).getD 0 ≤ MAX_KEY_SIZE)
    (bound : batch.delivery.maxBytes ≤ MAX_MESSAGE_SIZE)
    (cut : (nextPiece batch first rest).value core = (piece, left)) :
    piece.records = insideOf batch first rest core ∧ piece.records ++ left = roundOf batch first rest core := by
  have whole := insideOf_append batch first rest core
  have alone : batch.delivery.confirm = false → ((insideOf batch first rest core).length ≤ 1 ∨
      encode (envelopeOf batch core.instanceId (random64.value core) (insideOf batch first rest core)) = none) →
      [first] = insideOf batch first rest core ∧ first :: rest = roundOf batch first rest core := by
    intro plain fails
    have round : roundOf batch first rest core = first :: rest := by
      unfold roundOf numbering
      rw [plain]
      rfl
    have holds : 0 < (insideOf batch first rest core).length :=
      length_pos_iff.mpr (fitting_ne_nil _ (roundOf_ne_nil _ _ _ _))
    have one : (insideOf batch first rest core).length = 1 := by
      rcases fails with one | fails
      · omega
      · exact fittingIn_one _ _ _ _ key bound (roundOf_ne_nil _ _ _ _) fails
    obtain ⟨_, is⟩ := length_eq_one_iff.mp one
    rw [is, round] at whole
    rw [is, (cons.inj whole).1]
    exact ⟨rfl, round.symm⟩
  rcases nextPiece_cases cut with ⟨plain, rfl, rfl, rfl⟩ | ⟨_, -, rfl, rfl⟩ | ⟨-, -, rfl, rfl⟩ |
    ⟨plain, fails, rfl, rfl⟩
  · refine alone plain (.inl ?_)
    have few : (insideOf batch first [] core).length ≤ (roundOf batch first [] core).length :=
      (fitting_begins _ _).length_le
    exact few.trans_eq (roundOf_same batch first [] core).length_eq.symm
  · exact ⟨rfl, whole⟩
  · exact ⟨rfl, whole⟩
  · exact alone plain fails

/-- A frame holds all that fit, so that with the next one the envelope would be over the bound,
exactly when the bodies past those that fit cover what the envelope of all has too much. -/
theorem frame_holds_all_that_fit {batch : Batch} {first : Record} {rest left : List Record}
    {core : Core} {piece : Piece} (key : (batch.key.map String.utf8ByteSize).getD 0 ≤ MAX_KEY_SIZE)
    (bound : batch.delivery.maxBytes ≤ MAX_MESSAGE_SIZE)
    (cut : (nextPiece batch first rest).value core = (piece, left)) :
    (left ≠ [] → batch.delivery.maxBytes < envelopeSize batch core.instanceId (random64.value core)
        ((piece.records ++ left).take (piece.records.length + 1))) ↔
      CoversExcess (envelopeSize batch core.instanceId (random64.value core)) batch.delivery.maxBytes
        (roundOf batch first rest core) := by
  obtain ⟨inside, whole⟩ := nextPiece_inside key bound cut
  have full := fitting_full_iff (envelopeSize_grows batch core.instanceId (random64.value core))
    (Nat.le_succ _) inside.symm whole
  rwa [← whole] at full ⊢

/-- Four of them: the last two bodies cover the 18 bytes the envelope of all has too much. -/
def fourNines : Batch :=
  { threeNines with
    delivery := { batch := true, maxBytes := 35 }
    records := [nineBytes 2, nineBytes 3, nineBytes 4, nineBytes 5] }

theorem fourNines_cut :
    (nextPiece fourNines (nineBytes 2) [nineBytes 3, nineBytes 4, nineBytes 5]).value (Settings.plain.start 0) =
      (.envelope 2 ⟨39, envelopeOf fourNines 1 2 [nineBytes 2, nineBytes 3]⟩
        [nineBytes 2, nineBytes 3], [nineBytes 4, nineBytes 5]) := by
  rfl

theorem fourNines_holds_two : 35 < envelopeSize fourNines 1 2 [nineBytes 2, nineBytes 3, nineBytes 4] := by
  refine (frame_holds_all_that_fit ?_ ?_ fourNines_cut).mpr ?_ (cons_ne_nil _ _)
  · decide
  · decide
  · intro fit two within
    change fit ≤ 4 at within
    obtain rfl | rfl | rfl : fit = 2 ∨ fit = 3 ∨ fit = 4 := by omega
    all_goals decide

/-- Two of three messages fit in an envelope within the bound, and the first goes alone: the bodies
cut are to cover the excess without the bytes each of them has around it. -/
theorem frame_holds_less_than_fits :
    1 ≤ threeNines.delivery.maxBytes ∧ threeNines.delivery.maxBytes ≤ MAX_MESSAGE_SIZE ∧
    ∃ piece left, (nextPiece threeNines (nineBytes 2) [nineBytes 3, nineBytes 4]).value (Settings.plain.start 0) =
        (piece, left) ∧
      piece.records.length = 1 ∧ left.length = 2 ∧
      envelopeSize threeNines (Settings.plain.start 0).instanceId
        (random64.value (Settings.plain.start 0)) ((piece.records ++ left).take 2) ≤ threeNines.delivery.maxBytes :=
  ⟨by decide, by decide, .alone (nineBytes 2), [nineBytes 3, nineBytes 4], by rfl, rfl, rfl, by decide⟩

end Multiplexer
