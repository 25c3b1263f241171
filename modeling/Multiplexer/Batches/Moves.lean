import Multiplexer.Batches.Cutting

/-! One frame of a batch: the numbers it gives, what it holds, and that the moves it is made by
lose no body. -/

set_option autoImplicit false

namespace Multiplexer

open Program List

/-! ## A message's record -/

def Record.Same (record after : Record) : Prop := after = { record with number := after.number }

theorem Record.Same.refl (record : Record) : record.Same record := by
  cases record
  rfl

theorem Record.Same.trans {first second third : Record} (one : first.Same second)
    (two : second.Same third) : first.Same third := by
  unfold Record.Same at *
  rw [two, one]

theorem Record.Same.forall_refl (records : List Record) : records.Forall₂ Record.Same records :=
  forall₂_same.mpr fun record _ => .refl record

theorem Record.Same.forall_trans {first second third : List Record}
    (one : first.Forall₂ Record.Same second) (two : second.Forall₂ Record.Same third) :
    first.Forall₂ Record.Same third := by
  induction one generalizing third with
  | nil => exact two
  | cons same _ ih =>
    cases two with
    | cons also rest => exact .cons (same.trans also) (ih rest)

def numberedOne (deadline : Option Instant) (record : Record) : Client Record :=
  if record.number = 0 then do
    modifyConfirmer fun confirmer => { confirmer with lastNumber := confirmer.lastNumber + 1 }
    let core ← get
    noteConfirm (.numbered record.ticket core.confirmer.lastNumber deadline)
    pure { record with number := core.confirmer.lastNumber }
  else pure record

section

variable (deadline : Option Instant)

include deadline

theorem numbered_cons (record : Record) (rest : List Record) : numbered deadline (record :: rest) = (do
      let record ← numberedOne deadline record
      let rest ← numbered deadline rest
      pure (record :: rest)) := by
  unfold numberedOne
  rw [numbered]
  split <;> rfl

theorem numberedOne_same (record : Record) (core : Core) :
    record.Same ((numberedOne deadline record).value core) := by
  unfold numberedOne
  split
  · rfl
  · exact .refl record

theorem numbered_same (records : List Record) (core : Core) :
    records.Forall₂ Record.Same ((numbered deadline records).value core) := by
  induction records generalizing core with
  | nil => exact .nil
  | cons record _ ih =>
    rw [numbered_cons]
    exact .cons (numberedOne_same deadline record core) (ih _)

theorem numberedOne_emptied (record : Record) (core : Core) : (numberedOne deadline record.emptied).run core =
      (((numberedOne deadline record).value core).emptied, (numberedOne deadline record).after core) := by
  cases record with
  | mk _ _ _ _ number =>
    by_cases unnumbered : number = 0
    · subst unnumbered
      rfl
    · simp [numberedOne, Record.emptied, unnumbered]

theorem numbered_emptied (records : List Record) (core : Core) :
    (numbered deadline (records.map Record.emptied)).run core =
      (((numbered deadline records).value core).map Record.emptied, (numbered deadline records).after core) := by
  induction records generalizing core with
  | nil => rfl
  | cons record _ ih =>
    have first := numberedOne_emptied deadline record core
    have others := ih ((numberedOne deadline record).after core)
    simp only [map_cons, numbered_cons, run_bind, run_pure, Program.value, Program.after]
      at first others ⊢
    rw [first, others]

end

def numbering (batch : Batch) (records : List Record) : Client (List Record) :=
  if batch.delivery.confirm then numbered batch.deadline records else pure records

theorem numbering_same (batch : Batch) (records : List Record) (core : Core) :
    records.Forall₂ Record.Same ((numbering batch records).value core) := by
  unfold numbering
  split
  · exact numbered_same _ _ _
  · exact Record.Same.forall_refl records

theorem numbering_emptied (batch : Batch) (records : List Record) (core : Core) :
    (numbering batch (records.map Record.emptied)).run core =
      (((numbering batch records).value core).map Record.emptied, (numbering batch records).after core) := by
  unfold numbering
  split
  · exact numbered_emptied _ _ _
  · rfl

/-! ## One frame -/

def envelopeSize (batch : Batch) (instanceId id : Nat) (records : List Record) : Nat :=
  (envelopeOf batch instanceId id records).encodedLen

def fittingIn (batch : Batch) (instanceId id : Nat) (records : List Record) : List Record :=
  fitting (envelopeSize batch instanceId id) batch.delivery.maxBytes records.length records

def frameOf (batch : Batch) (instanceId id : Nat) (inside : List Record) : Option FrameBytes :=
  if inside.length > 1 || batch.delivery.confirm then encode (envelopeOf batch instanceId id inside)
  else none

theorem batchFrame_eq (batch : Batch) (id : Nat) (records : List Record) : batchFrame batch id records = (do
      let records ← numbering batch records
      let core ← get
      let inside := fittingIn batch core.instanceId id records
      pure (records, inside.length, frameOf batch core.instanceId id inside)) := by
  unfold batchFrame numbering
  split <;> rfl

/-! ## The moves -/

def movedOut (full : List Record) (stop : Nat) : Nat × List Record × List (Body Message) :=
  (stop, (full.take stop).map Record.emptied ++ full.drop stop, (full.take stop).map Record.body)

theorem movedOut_stop (full : List Record) (stop : Nat) : (movedOut full stop).1 = stop := rfl

theorem giveBack_append (before after : List Record) (record : Record) (body : Body Message) :
    giveBack (before ++ record :: after) before.length body =
      before ++ { record with body } :: after := by
  simp [giveBack, modify_eq_take_cons_drop]

section Pop

variable {full : List Record} {stop : Nat}

theorem movedOut_inside_succ (within : stop < full.length) :
    (movedOut full (stop + 1)).2.2 = (movedOut full stop).2.2 ++ [full[stop].body] := by
  simp only [movedOut]
  rw [take_succ_eq_append_getElem within, map_append, map_singleton]

theorem giveBack_last (within : stop < full.length) :
    giveBack (movedOut full (stop + 1)).2.1 stop full[stop].body = (movedOut full stop).2.1 := by
  have before : ((full.take stop).map Record.emptied).length = stop := by
    simp only [length_map, length_take]
    omega
  have given := giveBack_append ((full.take stop).map Record.emptied) (full.drop (stop + 1))
    full[stop].emptied full[stop].body
  rw [before] at given
  simp only [movedOut]
  rw [take_succ_eq_append_getElem within, drop_eq_getElem_cons within, map_append, append_assoc]
  exact given

theorem popBodies_movedOut (excess cut : Nat) (within : stop ≤ full.length) :
    popBodies excess cut stop (movedOut full stop).2.1 (movedOut full stop).2.2 =
      movedOut full (cutLast (excess - cut) (full.take stop).reverse).length := by
  induction stop generalizing cut with
  | zero => simp [popBodies, movedOut, cutLast]
  | succ stop ih =>
    cases stop with
    | zero =>
      cases full with
      | nil => simp at within
      | cons => simp [popBodies, movedOut, cutLast]
    | succ stop =>
      have shorter : (full.take (stop + 1)).reverse = full[stop] :: (full.take stop).reverse := by
        rw [take_succ_eq_append_getElem (by omega)]
        simp
      have last : (full.take (stop + 2)).reverse = full[stop + 1] :: full[stop] :: (full.take stop).reverse := by
        rw [take_succ_eq_append_getElem (by omega), reverse_append, shorter]
        rfl
      unfold popBodies
      split
      · have next := ih (cut + full[stop + 1].body.length) (by omega)
        rw [shorter, Nat.sub_add_eq] at next
        rw [last, cutLast, if_neg (by omega), ← next, movedOut_inside_succ (by omega)]
        simp only [getLast?_concat, Option.getD_some, dropLast_concat]
        rw [giveBack_last (by omega)]
      · rw [last, cutLast, if_pos (by omega), ← last, length_reverse, length_take, Nat.min_eq_left within]
        rfl

theorem movedOut_first (within : stop ≤ full.length) :
    (movedOut full stop).2.1.take stop = (full.take stop).map Record.emptied :=
  take_left' (by simp [within])

theorem packBodies_movedOut (measure : List Record → Nat) (moved : List Record → List (Body Message) → Nat)
    (agrees : ∀ records, moved (records.map Record.emptied) (records.map Record.body) = measure records)
    (maxBytes steps : Nat) (within : stop ≤ full.length) :
    packBodies moved maxBytes steps stop (movedOut full stop).2.1 (movedOut full stop).2.2 =
      movedOut full (fitting measure maxBytes steps (full.take stop)).length := by
  have taken : ∀ {stop}, stop ≤ full.length → (full.take stop).length = stop := fun within => by
    simp [within]
  induction steps generalizing stop with
  | zero =>
    rw [fitting, taken within]
    rfl
  | succ _ ih =>
    have size : moved ((movedOut full stop).2.1.take stop) (movedOut full stop).2.2 = measure (full.take stop) := by
      rw [movedOut_first within]
      exact agrees _
    unfold packBodies fitting
    rw [size, taken within]
    dsimp only
    split
    · have cut := (cutLast_suffix (measure (full.take stop) - maxBytes) (full.take stop).reverse).length_le
      rw [length_reverse, taken within] at cut
      rw [popBodies_movedOut _ _ within, Nat.sub_zero, cutLast_reverse, take_take, Nat.min_eq_left cut]
      exact ih (cut.trans within)
    · rw [taken within]
      rfl

theorem giveAllBack_movedOut (full : List Record) (stop : Nat) :
    giveAllBack (movedOut full stop).2.1 (movedOut full stop).2.2 = full := by
  induction full generalizing stop with
  | nil => simp [movedOut, giveAllBack]
  | cons record _ ih =>
    cases stop with
    | zero => simp [movedOut, giveAllBack]
    | succ stop => exact congrArg (record :: ·) (ih stop)

end Pop

/-- What `batch_frame` makes of records numbered and emptied and of the bodies it moved out. -/
def packedFrame (batch : Batch) (instanceId id : Nat) (records : List Record)
    (inside : List (Body Message)) : (Option String × List Record) × Nat × Option FrameBytes :=
  let envelope := movedEnvelope batch batch.key instanceId id
  let (stop, records, inside) := packBodies (fun records inside => (envelope records inside).encodedLen)
    batch.delivery.maxBytes records.length records.length records inside
  let bytes := if stop > 1 || batch.delivery.confirm then encode (envelope (records.take stop) inside)
    else none
  let records := match bytes with
    | some _ => records
    | none => giveAllBack records inside
  ((batch.key, records), stop, bytes)

theorem batchFrameMoves_packed (batch : Batch) (id : Nat) (records : List Record) :
    batchFrameMoves batch id records = (do
      let emptied ← numbering batch (records.map Record.emptied)
      let core ← get
      pure (packedFrame batch core.instanceId id emptied (records.map Record.body))) := by
  unfold batchFrameMoves numbering
  split <;> rfl

theorem packedFrame_eq (batch : Batch) (instanceId id : Nat) (full : List Record) :
    packedFrame batch instanceId id (full.map Record.emptied) (full.map Record.body) =
      let inside := fittingIn batch instanceId id full
      let bytes := frameOf batch instanceId id inside
      ((batch.key, bytes.elim full fun _ => (movedOut full inside.length).2.1), inside.length, bytes) := by
  have agrees : ∀ records : List Record, movedEnvelope batch batch.key instanceId id (records.map Record.emptied)
        (records.map Record.body) = envelopeOf batch instanceId id records := by
    intro records
    simp [movedEnvelope, envelopeOf, Record.emptied, Function.comp_def]
  have inside : full.take (fittingIn batch instanceId id full).length =
      fittingIn _ _ _ _ :=
    (prefix_iff_eq_take.mp (fitting_begins _ _)).symm
  have within : (fittingIn batch instanceId id full).length ≤ full.length :=
    (fitting_begins _ _).length_le
  have packed : packBodies
      (fun records inside => (movedEnvelope batch batch.key instanceId id records inside).encodedLen)
      batch.delivery.maxBytes full.length full.length (full.map Record.emptied)
      (full.map Record.body) = movedOut full (fittingIn batch instanceId id full).length := by
    have moves := packBodies_movedOut (envelopeSize batch instanceId id)
      (fun records inside => (movedEnvelope batch batch.key instanceId id records inside).encodedLen)
      (fun records => congrArg Message.encodedLen (agrees records)) batch.delivery.maxBytes
      full.length (le_refl full.length)
    simpa [movedOut, fittingIn] using moves
  have message : movedEnvelope batch batch.key instanceId id
      ((movedOut full (fittingIn batch instanceId id full).length).2.1.take
        (fittingIn batch instanceId id full).length)
      (movedOut full (fittingIn batch instanceId id full).length).2.2 =
        envelopeOf batch instanceId id (fittingIn batch instanceId id full) := by
    rw [movedOut_first within]
    exact (agrees _).trans (congrArg _ inside)
  unfold packedFrame
  dsimp only
  rw [length_map, packed, giveAllBack_movedOut, movedOut_stop, message]
  change ((batch.key, match frameOf batch instanceId id _ with | some _ => _ | none => _), _,
    frameOf batch instanceId id _) = _
  cases frameOf batch instanceId id (fittingIn batch instanceId id full) <;> rfl

theorem Record.Same.bodies {records after : List Record} (same : records.Forall₂ Record.Same after) :
    after.map Record.body = records.map Record.body := by
  induction same with
  | nil => rfl
  | cons one _ ih => rw [map_cons, map_cons, ih, one]

/-- `batch_frame` with its moves does as without: it leaves the key as it was, and every body in its
record but those of the frame it made. -/
theorem batchFrameMoves_eq (batch : Batch) (id : Nat) (records : List Record) :
    batchFrameMoves batch id records = (do
      let (records, fit, bytes) ← batchFrame batch id records
      pure ((batch.key, bytes.elim records fun _ => (movedOut records fit).2.1), fit, bytes)) := by
  funext core
  have bodies := Record.Same.bodies (numbering_same batch records core)
  have given := numbering_emptied batch records core
  rw [batchFrameMoves_packed, batchFrame_eq]
  change ((pure (packedFrame batch ((numbering batch (records.map Record.emptied)).run core).2.instanceId
    id ((numbering batch (records.map Record.emptied)).run core).1 (records.map Record.body)) :
      Client _).run ((numbering batch (records.map Record.emptied)).run core).2) = _
  rw [given, ← bodies, packedFrame_eq]
  rfl

section Made

variable {batch : Batch} {id fit : Nat} {records numbered : List Record} {bytes : Option FrameBytes}
  {core : Core}

theorem batchFrame_same (made : (batchFrame batch id records).value core = (numbered, fit, bytes)) :
    records.Forall₂ Record.Same numbered := by
  rw [batchFrame_eq] at made
  obtain rfl : (numbering batch records).value core = numbered := congrArg Prod.fst made
  exact numbering_same batch records core

theorem batchFrameMoves_run (made : (batchFrame batch id records).value core = (numbered, fit, bytes)) :
    (batchFrameMoves batch id records).run core = (((batch.key, bytes.elim numbered fun _ =>
        (numbered.take fit).map Record.emptied ++ numbered.drop fit), fit, bytes),
        (batchFrame batch id records).after core) := by
  rw [batchFrameMoves_eq, run_bind, made]
  rfl

end Made

end Multiplexer
