import Multiplexer.Confirmed.Lists
import Multiplexer.Runs.Beats
import Mathlib.Algebra.BigOperators.Group.Finset.Basic

/-! What a consumer tells its producers is what it confirmed, number by number. -/

set_option autoImplicit false

namespace Multiplexer

open Program List Option Std

def Confirmation.named (confirmation : Confirmation) : Confirmed → List Nat
  | .processed => confirmation.processed
  | .refused => confirmation.refused
  | .failed => confirmation.failed

def ConfirmNote.confirmedAs (producer : Nat) (outcome : Confirmed) : ConfirmNote → Option Nat
  | .confirmed sender number as => if sender = producer ∧ as = outcome then some number else none
  | _ => none

def ConfirmNote.toldTo (producer : Nat) : ConfirmNote → Option Confirmation
  | .told whom confirmation => if whom = producer then some confirmation else none
  | _ => none

theorem confirmedAs_other (producer : Nat) (outcome : Confirmed) (made : ConfirmNote)
    (other : made.isOwing = false) : made.confirmedAs producer outcome = none := by
  cases made <;> first | rfl | cases other

theorem toldTo_other (producer : Nat) (made : ConfirmNote) (other : made.isOwing = false) :
    made.toldTo producer = none := by
  cases made <;> first | rfl | cases other

/-- The numbers `producer` is owed or was told `outcome` for, in the order they were confirmed. -/
def confirmedTo (notes : List ConfirmNote) (producer : Nat) (outcome : Confirmed) : List Nat :=
  (notes.filterMap (ConfirmNote.confirmedAs producer outcome)).reverse

/-- The numbers the CONFIRMATIONs to `producer` name as `outcome`, in the order they were sent. -/
def toldTo (notes : List ConfirmNote) (producer : Nat) (outcome : Confirmed) : List Nat :=
  (notes.filterMap (ConfirmNote.toldTo producer)).reverse.flatMap fun confirmation =>
    numbersIn (confirmation.named outcome)

section Notes

variable (notes : List ConfirmNote) (producer : Nat) (outcome : Confirmed)

theorem confirmedTo_confirmed (sender number : Nat) (as : Confirmed) :
    confirmedTo (.confirmed sender number as :: notes) producer outcome = confirmedTo notes producer outcome ++
        if sender = producer ∧ as = outcome then [number] else [] := by
  unfold confirmedTo
  rw [filterMap_cons, ConfirmNote.confirmedAs]
  split <;> simp_all

theorem confirmedTo_told (whom : Nat) (confirmation : Confirmation) :
    confirmedTo (.told whom confirmation :: notes) producer outcome =
      confirmedTo notes producer outcome := rfl

theorem toldTo_confirmed (sender number : Nat) (as : Confirmed) :
    toldTo (.confirmed sender number as :: notes) producer outcome = toldTo notes producer outcome :=
  rfl

theorem toldTo_told (whom : Nat) (confirmation : Confirmation) :
    toldTo (.told whom confirmation :: notes) producer outcome = toldTo notes producer outcome ++
        if whom = producer then numbersIn (confirmation.named outcome) else [] := by
  unfold toldTo
  rw [filterMap_cons, ConfirmNote.toldTo]
  split <;> simp_all

end Notes

/-- Numbers and producers have the 64 bits they have on the wire. -/
structure Core.Fits64 (core : Core) : Prop where
  instanceId : core.instanceId < NUMBERS
  confirmed : ∀ producer number outcome,
    .confirmed producer number outcome ∈ core.confirmNotes.filter ConfirmNote.isOwing →
      producer < NUMBERS ∧ number < NUMBERS

def Core.owedTo (core : Core) (producer : Nat) : Owed := core.confirmer.owed.getD producer {}

/-- `waits` is what `producer` is still to be told. -/
structure Core.Owes (core : Core) (producer : Nat) (waits : Confirmed → List Nat) : Prop where
  lists : ∀ outcome, (core.owedTo producer).confirmation.named outcome = (waits outcome).foldl addNumber []
  told : ∀ outcome, confirmedTo core.confirmNotes producer outcome =
    toldTo core.confirmNotes producer outcome ++ waits outcome
  count : (core.owedTo producer).count =
    (waits .processed).length + (waits .refused).length + (waits .failed).length

/-- What is owed adds up; `due` may be owed as much as is told at once. -/
structure Core.Squared (core : Core) (due : Option Nat) : Prop where
  owes : ∀ producer, ∃ waits, core.Owes producer waits
  few : ∀ producer, (core.owedTo producer).count ≤ CONFIRMATIONS_GATHERED_MAX ∧
    (some producer ≠ due → (core.owedTo producer).count < CONFIRMATIONS_GATHERED_MAX)
  total : ∀ producers : Finset Nat, (∀ producer ∉ producers, (core.owedTo producer).count = 0) →
    core.confirmer.owedCount = ∑ producer ∈ producers, (core.owedTo producer).count

/-! ## All else -/

/-- What is owed, and what was confirmed and told, is as it was. -/
structure Still (core after : Core) : Prop where
  instanceId : after.instanceId = core.instanceId
  owings : after.confirmNotes.filter ConfirmNote.isOwing = core.confirmNotes.filter ConfirmNote.isOwing
  count : after.confirmer.owedCount = core.confirmer.owedCount
  each : ∀ producer, (after.owedTo producer).confirmation = (core.owedTo producer).confirmation ∧
    (after.owedTo producer).count = (core.owedTo producer).count

namespace Still

theorem refl (core : Core) : Still core core := ⟨rfl, rfl, rfl, fun _ => ⟨rfl, rfl⟩⟩

theorem trans {first second third : Core} (one : Still first second) (two : Still second third) :
    Still first third where
  instanceId := two.instanceId.trans one.instanceId
  owings := two.owings.trans one.owings
  count := two.count.trans one.count
  each producer := ⟨(two.each producer).1.trans (one.each producer).1,
    (two.each producer).2.trans (one.each producer).2⟩

variable {core after : Core}

theorem fits (still : Still core after) (fits : after.Fits64) : core.Fits64 where
  instanceId := still.instanceId ▸ fits.instanceId
  confirmed producer number outcome noted :=
    fits.confirmed producer number outcome (still.owings ▸ noted)

theorem reads {β : Type} {read : ConfirmNote → Option β} (still : Still core after)
    (other : ∀ made, made.isOwing = false → read made = none) :
    after.confirmNotes.filterMap read = core.confirmNotes.filterMap read := by
  have only : ∀ notes : List ConfirmNote,
      notes.filterMap read = (notes.filter ConfirmNote.isOwing).filterMap read := by
    intro notes
    rw [filterMap_filter]
    congr 1
    funext made
    split
    · rfl
    · exact other made (Bool.eq_false_of_not_eq_true ‹_›)
  rw [only, still.owings, ← only]

theorem squared {due : Option Nat} (still : Still core after) (squared : core.Squared due) :
    after.Squared due where
  owes producer := by
    obtain ⟨waits, owes⟩ := squared.owes producer
    obtain ⟨confirmation, count⟩ := still.each producer
    refine ⟨waits, fun outcome => ?_, fun outcome => ?_, count.trans owes.count⟩
    · rw [confirmation, owes.lists]
    · unfold confirmedTo toldTo
      rw [still.reads (confirmedAs_other producer outcome), still.reads (toldTo_other producer)]
      exact owes.told outcome
  few producer := by
    rw [(still.each producer).2]
    exact squared.few producer
  total producers none := by
    simp only [still.count, (still.each _).2] at none ⊢
    exact squared.total producers none

end Still

instance : Refl Still := ⟨Still.refl⟩

instance : IsTrans Core Still := ⟨fun _ _ _ => Still.trans⟩

section Still

variable {core after : Core}

theorem Calm.still (calm : Calm core after) : Still core after where
  instanceId := calm.instanceId
  owings := by rw [calm.confirmNotes]
  count := by rw [calm.confirmer]
  each producer := by simp only [Core.owedTo, calm.confirmer, and_self]

theorem Silent.still (silent : Silent core after) : Still core after where
  instanceId := silent.instanceId
  owings := by
    have only : ∀ notes : List ConfirmNote, notes.filter ConfirmNote.isOwing =
        (notes.filter ConfirmNote.isWatched).filter ConfirmNote.isOwing := by
      intro notes
      rw [List.filter_filter]
      congr 1
      funext made
      cases made <;> rfl
    rw [only, silent.watched, ← only]
  count := congrArg Prod.snd silent.dues
  each producer := by
    have owed : after.confirmer.owed = core.confirmer.owed := congrArg Prod.fst silent.dues
    simp only [Core.owedTo, owed, and_self]

theorem Shift.still {strict : Bool} (shift : Shift strict core after) : Still core after := by
  cases shift with
  | silent same | arm _ _ same => exact same.still
  | cancel => exact { Still.refl core with }

theorem Told.still (told : Told core after) : Still core after := told.shifts.within Shift.still

theorem Stow.still {may : Nat → Prop} (stow : Stow may core after) : Still core after :=
  stow.calm_or_told.elim Calm.still Told.still

theorem Puts.still {may : Nat → Prop} (puts : Puts may core after) : Still core after :=
  puts.within fun put => by
    cases put with
    | stow stow => exact stow.still
    | taken => exact { Still.refl _ with }

theorem owed_insert (owed : TreeMap Nat Owed) (key : Nat) (value : Owed) (producer : Nat) :
    (owed.insert key value).getD producer {} = if producer = key then value else owed.getD producer {} := by
  rw [TreeMap.getD_eq_getD_getElem?, Lookup.insert_apply, TreeMap.getD_eq_getD_getElem?]
  split <;> rfl

theorem Mark.still (mark : Mark core after) : Still core after := by
  cases mark with
  | heardFrom conn producer =>
    refine { Still.refl core with each := fun each => ?_ }
    simp only [Core.owedTo, owed_insert]
    split
    · rename_i same
      rw [same]
      exact ⟨rfl, rfl⟩
    · exact ⟨rfl, rfl⟩
  | _ => exact { Still.refl core with }

end Still

variable {producer number : Nat} {core : Core} {waits : Confirmed → List Nat}

theorem noted_of_confirmedTo {notes : List ConfirmNote} {outcome : Confirmed}
    (member : number ∈ confirmedTo notes producer outcome) :
    .confirmed producer number outcome ∈ notes.filter ConfirmNote.isOwing := by
  obtain ⟨made, noted, reads⟩ := mem_filterMap.mp (mem_reverse.mp member)
  cases made with
  | confirmed =>
    simp only [ConfirmNote.confirmedAs, ite_none_right_eq_some, some.injEq] at reads
    obtain ⟨⟨rfl, rfl⟩, rfl⟩ := reads
    exact mem_filter.mpr ⟨noted, rfl⟩
  | _ => cases reads

theorem Core.Owes.small (owes : core.Owes producer waits) (fits : core.Fits64) {outcome : Confirmed}
    (member : number ∈ waits outcome) : producer < NUMBERS ∧ number < NUMBERS :=
  fits.confirmed producer number outcome (noted_of_confirmedTo (owes.told outcome ▸ mem_append_right _ member))

theorem Core.Owes.reads (owes : core.Owes producer waits) (fits : core.Fits64) (outcome : Confirmed) :
    numbersIn ((core.owedTo producer).confirmation.named outcome) = waits outcome := by
  rw [owes.lists, foldl_numbers rfl fun number member => (owes.small fits member).2]
  rfl

/-! ## A CONFIRMATION fits a frame -/

theorem addNumber_values {pairs : List Nat} {bound : Nat} (one : 1 ≤ bound) (fits : number ≤ bound)
    (values : ∀ value ∈ pairs, value ≤ bound) :
    (∀ value ∈ addNumber pairs number, value ≤ bound + 1) ∧ (addNumber pairs number).length ≤ pairs.length + 2 := by
  have fresh : (∀ value ∈ pairs ++ [number, 1], value ≤ bound + 1) ∧
      (pairs ++ [number, 1]).length ≤ pairs.length + 2 := by
    refine ⟨fun value member => ?_, by simp⟩
    simp only [mem_append, mem_cons, not_mem_nil, or_false] at member
    rcases member with old | rfl | rfl
    · exact (values value old).trans (Nat.le_succ _)
    · omega
    · omega
  unfold addNumber
  split
  · rename_i count first earlier reversed
    obtain rfl : pairs = earlier.reverse ++ [first, count] := by
      rw [← reverse_reverse pairs, reversed]
      simp
    split
    · refine ⟨fun value member => ?_, by simp⟩
      simp only [mem_append, mem_cons, not_mem_nil, or_false] at member values
      rcases member with old | rfl | rfl
      · exact (values value (.inl old)).trans (Nat.le_succ _)
      · exact (values value (.inr (.inl rfl))).trans (Nat.le_succ _)
      · exact Nat.succ_le_succ (values count (.inr (.inr rfl)))
    · exact fresh
  · exact fresh

theorem foldl_values {numbers pairs : List Nat} {bound : Nat} (one : 1 ≤ bound)
    (fits : ∀ number ∈ numbers, number ≤ bound) (values : ∀ value ∈ pairs, value ≤ bound) :
    (∀ value ∈ numbers.foldl addNumber pairs, value ≤ bound + numbers.length) ∧
      (numbers.foldl addNumber pairs).length ≤ pairs.length + 2 * numbers.length := by
  induction numbers generalizing pairs bound with
  | nil => exact ⟨values, le_rfl⟩
  | cons number rest ih =>
    obtain ⟨adds, _⟩ := addNumber_values one (fits number mem_cons_self) values
    have others : ∀ each ∈ rest, each ≤ bound + 1 := fun each member =>
      (fits each (mem_cons_of_mem _ member)).trans (Nat.le_succ _)
    obtain ⟨all, longer⟩ := ih (Nat.le_succ_of_le one) others adds
    rw [length_cons]
    exact ⟨fun value member => (all value member).trans (by omega), longer.trans (by omega)⟩

theorem packedField_le {values : List Nat} (small : ∀ value ∈ values, value < 2 ^ 70)
    (few : values.length ≤ 2 ^ 60) : packedField 1 values ≤ 11 + 10 * values.length := by
  have sum : (values.map varintLen).sum ≤ 10 * values.length := by
    clear few
    induction values with
    | nil => exact le_rfl
    | cons value _ ih =>
      have first := varintLen_le_ten (small value mem_cons_self)
      have others := ih fun each member => small each (mem_cons_of_mem _ member)
      simp only [map_cons, sum_cons, length_cons]
      omega
  have header : varintLen (values.map varintLen).sum ≤ 10 := varintLen_le_ten (by omega)
  unfold packedField bytesField
  split
  · exact Nat.zero_le _
  · simp only [elim_some]
    omega

theorem Core.Owes.encodes (owes : core.Owes producer waits) (fits : core.Fits64) (whom : producer < NUMBERS)
    (few : (core.owedTo producer).count ≤ CONFIRMATIONS_GATHERED_MAX) :
    (encode (core.confirmationFor producer (core.owedTo producer))).isSome = true := by
  have each : ∀ outcome, (waits outcome).length ≤ 256 →
      packedField 1 ((core.owedTo producer).confirmation.named outcome) ≤ 11 + 20 * (waits outcome).length := by
    intro outcome less
    rw [owes.lists]
    have none : ∀ value ∈ ([] : List Nat), value ≤ NUMBERS := nofun
    have small : ∀ number ∈ waits outcome, number ≤ NUMBERS := fun number member =>
      (owes.small fits member).2.le
    obtain ⟨values, length⟩ := foldl_values (by decide) small none
    have packed := packedField_le (fun value member => (values value member).trans_lt (by
      unfold NUMBERS; omega)) (length.trans (by simp; omega))
    simp only [length_nil] at length
    omega
  have count := owes.count
  unfold CONFIRMATIONS_GATHERED_MAX at few
  have processed := each .processed (by omega)
  have refused := each .refused (by omega)
  have failed := each .failed (by omega)
  have payload : (core.owedTo producer).confirmation.encodedLen ≤ 5153 := by
    unfold Confirmation.encodedLen
    simp only [Confirmation.named] at processed refused failed
    omega
  have ten : ∀ value < NUMBERS, varintLen value ≤ 10 := fun value less =>
    varintLen_le_ten (less.trans (by decide))
  have size : (core.confirmationFor producer (core.owedTo producer)).encodedLen ≤ 6000 := by
    have one := ten _ (core.ids.nth_lt core.drawn)
    have two := ten _ fits.instanceId
    have three := ten _ whom
    have four := ten _ (payload.trans_lt (by decide))
    have flag : varintLen (Bool.toNat false) = 1 := rfl
    have type : varintLen types.CONFIRMATION = 1 := rfl
    simp only [Message.encodedLen, Core.confirmationFor, varintField, bytesField, packedField,
      Confirmation.payload, map_some, map_none, elim_some, elim_none,
      map_nil, sum_nil, isEmpty_nil, if_true]
    omega
  unfold encode
  rw [if_neg (by simp [Core.confirmationFor]), if_neg (by unfold MAX_MESSAGE_SIZE; omega)]
  rfl

/-! ## What is gathered and told -/

theorem Owed.add_named (owed : Owed) (number : Nat) (as outcome : Confirmed) :
    (owed.add number as).confirmation.named outcome =
      if outcome = as then addNumber (owed.confirmation.named outcome) number
      else owed.confirmation.named outcome := by
  cases as <;> cases outcome <;> rfl

theorem Owed.add_count (owed : Owed) (number : Nat) (as : Confirmed) :
    (owed.add number as).count = owed.count + 1 := by
  cases as <;> rfl

namespace Core.Squared

variable {core after : Core} {due next : Option Nat}

/-- What is owed to one producer changes. -/
theorem update (squared : core.Squared due) {key : Nat} {owed : Owed}
    (owedTo : ∀ producer, after.owedTo producer = if producer = key then owed else core.owedTo producer)
    (others : ∀ producer outcome, producer ≠ key →
      confirmedTo after.confirmNotes producer outcome = confirmedTo core.confirmNotes producer outcome ∧
        toldTo after.confirmNotes producer outcome = toldTo core.confirmNotes producer outcome)
    (owes : ∀ waits, core.Owes key waits → ∃ waits, after.Owes key waits)
    (count : after.confirmer.owedCount = core.confirmer.owedCount + owed.count - (core.owedTo key).count)
    (few : owed.count ≤ CONFIRMATIONS_GATHERED_MAX ∧ (some key ≠ next → owed.count < CONFIRMATIONS_GATHERED_MAX))
    (only : ∀ producer, producer ≠ key → some producer ≠ due) : after.Squared next := by
  have here : after.owedTo key = owed := (owedTo key).trans (if_pos rfl)
  have there : ∀ {producer}, producer ≠ key → after.owedTo producer = core.owedTo producer :=
    fun other => (owedTo _).trans (if_neg other)
  constructor
  case owes =>
    intro producer
    obtain ⟨waits, held⟩ := squared.owes producer
    by_cases same : producer = key
    · exact same ▸ owes waits (same ▸ held)
    · refine ⟨waits, fun outcome => ?_, fun outcome => ?_, ?_⟩
      · rw [there same, held.lists]
      · rw [(others producer outcome same).1, (others producer outcome same).2, held.told]
      · rw [there same, held.count]
  case few =>
    intro producer
    by_cases same : producer = key
    · rw [same, here]
      exact few
    · rw [there same]
      exact ⟨(squared.few producer).1, fun _ => (squared.few producer).2 (only producer same)⟩
  case total =>
    intro producers none
    have before := squared.total (insert key producers) fun producer outside => by
      obtain ⟨other, outside⟩ := not_or.mp (Finset.mem_insert.not.mp outside)
      exact there other ▸ none producer outside
    rw [← Finset.add_sum_erase _ _ (Finset.mem_insert_self key producers), Finset.erase_insert_eq_erase] at before
    have rest : ∑ producer ∈ producers.erase key, (after.owedTo producer).count =
        ∑ producer ∈ producers.erase key, (core.owedTo producer).count :=
      Finset.sum_congr rfl fun producer member => by rw [there (Finset.ne_of_mem_erase member)]
    by_cases inside : key ∈ producers
    · rw [← Finset.add_sum_erase producers _ inside, rest, here]
      omega
    · have empty := none key inside
      rw [← Finset.sum_erase producers empty, rest]
      rw [here] at empty
      omega

theorem gathering (squared : core.Squared none) (sender number : Nat) (outcome : Confirmed) :
    (core.gathering sender number outcome).Squared (some sender) := by
  have more : (core.gathered sender number outcome).count = (core.owedTo sender).count + 1 :=
    Owed.add_count _ _ _
  have less := (squared.few sender).2 nofun
  refine squared.update (owed_insert _ _ _) (fun producer each other => ?_) (fun waits owes => ?_)
    (by change core.confirmer.owedCount + 1 = _; omega) ⟨by omega, fun other => absurd rfl other⟩
    fun _ _ => nofun
  · simp [Core.gathering, confirmedTo_confirmed, toldTo_confirmed, Ne.symm other]
  · have owed : (core.gathering sender number outcome).owedTo sender =
        core.gathered sender number outcome := (owed_insert _ _ _ _).trans (if_pos rfl)
    refine ⟨fun each => if each = outcome then waits each ++ [number] else waits each,
      fun each => ?_, fun each => ?_, ?_⟩
    · rw [owed, Core.gathered, Owed.add_named]
      split
      · rw [foldl_append, ← owes.lists]
        rfl
      · exact owes.lists each
    · simp only [Core.gathering, confirmedTo_confirmed, toldTo_confirmed, owes.told, true_and]
      by_cases as : outcome = each
      · simp [as]
      · simp [as, Ne.symm as]
    · rw [owed, more, owes.count]
      cases outcome <;> simp <;> omega

theorem telling (squared : core.Squared due) {producer : Nat}
    (only : ∀ other, some other = due → other = producer) (fits : core.Fits64) :
    (core.telling producer (core.owedTo producer)).Squared none := by
  refine squared.update (owed_insert _ _ _) (fun each outcome other => ?_) (fun waits owes => ?_) rfl
    ⟨Nat.zero_le _, fun _ => Nat.zero_lt_succ _⟩ fun other differ is => differ (only other is)
  · simp only [Core.telling]
    split
    · simp [confirmedTo_told, toldTo_told, Ne.symm other]
    · exact ⟨rfl, rfl⟩
  · have owed : (core.telling producer (core.owedTo producer)).owedTo producer =
        (core.owedTo producer).sent := (owed_insert _ _ _ _).trans (if_pos rfl)
    refine ⟨fun _ => [], fun outcome => ?_, fun outcome => ?_, by rw [owed]; rfl⟩
    · rw [owed]
      cases outcome <;> rfl
    · have told := owes.told outcome
      simp only [Core.telling]
      split
      · simp [confirmedTo_told, toldTo_told, told, owes.reads fits]
      · -- what makes no frame is nothing
        rename_i unencoded
        cases left : waits outcome with
        | nil => simpa [left] using told
        | cons =>
          have whom := owes.small fits (left ▸ mem_cons_self)
          exact absurd (owes.encodes fits whom.1 (squared.few producer).1) unencoded

end Core.Squared

/-! ## Along every run -/

section Runs

variable {core after : Core}

theorem Core.Fits64.earlier (fits : after.Fits64)
    (instanceId : after.instanceId = core.instanceId)
    (notes : ∀ made ∈ core.confirmNotes, made ∈ after.confirmNotes) : core.Fits64 where
  instanceId := instanceId ▸ fits.instanceId
  confirmed producer number outcome noted := by
    obtain ⟨noted, owing⟩ := mem_filter.mp noted
    exact fits.confirmed producer number outcome (mem_filter.mpr ⟨notes _ noted, owing⟩)

theorem mem_telling {made : ConfirmNote} (core : Core) (producer : Nat) (owed : Owed)
    (noted : made ∈ core.confirmNotes) : made ∈ (core.telling producer owed).confirmNotes := by
  simp only [Core.telling]
  split
  · exact mem_cons_of_mem _ noted
  · exact noted

theorem forget_still (squared : core.Squared none) : Still core
      { core with
        confirmer :=
          { core.confirmer with
            owed := core.confirmer.owed.filter fun _ owed => owed.count > 0 } } := by
  refine { Still.refl core with each := fun producer => ?_ }
  obtain ⟨waits, owes⟩ := squared.owes producer
  have lists := owes.lists
  have count := owes.count
  simp only [Core.owedTo, TreeMap.getD_eq_getD_getElem?, TreeMap.getElem?_filter'] at lists count ⊢
  cases found : core.confirmer.owed[producer]? with
  | none => exact ⟨rfl, rfl⟩
  | some owed =>
    simp only [found, getD_some, filter_some] at lists count ⊢
    split
    · exact ⟨rfl, rfl⟩
    · -- nothing is owed: the lists are as those of one never heard of
      rename_i nothing
      simp only [gt_iff_lt, decide_eq_true_eq, Nat.not_lt, Nat.le_zero] at nothing
      have empty : ∀ outcome, owed.confirmation.named outcome = [] := by
        intro outcome
        have none : waits outcome = [] := by
          rw [← length_eq_zero_iff]
          cases outcome <;> omega
        rw [lists, none]
        rfl
      refine ⟨?_, nothing.symm⟩
      have processed := empty .processed
      have refused := empty .refused
      have failed := empty .failed
      simp only [Confirmation.named, Owed.confirmation] at processed refused failed
      simp [Owed.confirmation, processed, refused, failed]

/-- What is owed adds up while all fits its 64 bits. -/
def Core.AddsUp (core : Core) : Prop := core.Fits64 → core.Squared none

theorem Still.addsUp (still : Still core after) (held : core.AddsUp) : after.AddsUp :=
  fun fits => still.squared (held (still.fits fits))

theorem Owe.addsUp (owe : Owe core after) (held : core.AddsUp) : after.AddsUp := by
  intro fits
  cases owe with
  | gather sender number outcome few =>
    have before : core.Fits64 :=
      fits.earlier rfl fun _ noted => mem_cons_of_mem _ noted
    have squared := (held before).gathering sender number outcome
    refine { squared with few := fun producer => ⟨(squared.few producer).1, fun _ => ?_⟩ }
    by_cases same : producer = sender
    · have owed : (core.gathering sender number outcome).owedTo sender =
          core.gathered sender number outcome := (owed_insert _ _ _ _).trans (if_pos rfl)
      rw [same, owed]
      exact few
    · exact (squared.few producer).2 fun is => same (some.inj is)
  | due sender number outcome =>
    have gathered : (core.gathering sender number outcome).Fits64 :=
      fits.earlier rfl fun _ noted => mem_telling _ _ _ noted
    have before : core.Fits64 :=
      gathered.earlier rfl fun _ noted => mem_cons_of_mem _ noted
    have owed : (core.gathering sender number outcome).owedTo sender =
        core.gathered sender number outcome := (owed_insert _ _ _ _).trans (if_pos rfl)
    rw [← owed]
    exact ((held before).gathering sender number outcome).telling
      (fun _ is => some.inj is) gathered
  | tell producer owed found =>
    have before : core.Fits64 :=
      fits.earlier rfl fun _ noted => mem_telling _ _ _ noted
    obtain rfl : core.owedTo producer = owed := by
      rw [Core.owedTo, TreeMap.getD_eq_getD_getElem?, found]
      rfl
    exact (held before).telling nofun before
  | forget =>
    have before : core.Fits64 := fits.earlier rfl fun _ noted => noted
    exact (forget_still (held before)).squared (held before)

theorem Stir.addsUp (stir : Stir core after) (held : core.AddsUp) : after.AddsUp := by
  cases stir with
  | stow stow => exact stow.still.addsUp held
  | own own => exact own.calm.still.addsUp held
  | shift shift => exact shift.still.addsUp held
  | owe owe => exact owe.addsUp held
  | taken | enveloped | flush | batcher => exact Still.addsUp { Still.refl core with } held

theorem Beat.addsUp (beat : Beat core after) (held : core.AddsUp) : after.AddsUp := by
  cases beat with
  | calm calm => exact calm.still.addsUp held
  | told told => exact told.still.addsUp held
  | mark mark => exact mark.still.addsUp held
  | post => exact Still.addsUp { Still.refl core with } held
  | enter way => exact way.keep Stir.addsUp held

end Runs

theorem start_addsUp (settings : Settings) (now : Instant) : (settings.start now).AddsUp := by
  intro fits
  have owed : ∀ producer, (settings.start now).owedTo producer = {} := fun producer => by
    change (∅ : TreeMap Nat Owed).getD producer {} = {}
    exact TreeMap.getD_emptyc
  constructor
  case owes =>
    refine fun producer => ⟨fun _ => [], fun outcome => ?_, fun _ => rfl, by rw [owed]; rfl⟩
    rw [owed]
    cases outcome <;> rfl
  case few => exact fun producer => by rw [owed]; exact ⟨Nat.zero_le _, fun _ => Nat.zero_lt_succ _⟩
  case total => exact fun producers _ => by simp only [owed, Finset.sum_const_zero]; rfl

def Core.unsent (core : Core) (producer : Nat) : List Nat :=
  [Confirmed.processed, .refused, .failed].flatMap fun outcome =>
    numbersIn ((core.owedTo producer).confirmation.named outcome)

/-! ## What is sent -/

/-- The frame of what is owed goes as any other. -/
def sendTold (core : Core) (bytes : FrameBytes) (lane : Option LaneId) : Client Sent :=
  sendAt ⟨bytes, core.ids.nth core.drawn, types.CONFIRMATION, .none⟩ false lane
    (deadlineAfter core.now (some DEFAULT_TIMEOUT)) 0 none

theorem sendOwed_sends {core : Core} {producer : Nat} {owed : Owed} {bytes : FrameBytes}
    (found : core.confirmer.owed[producer]? = some owed)
    (encoded : encode (core.confirmationFor producer owed) = some bytes) :
    ∃ lane before, Still (core.telling producer owed) before ∧
      (sendOwed producer).after core = (sendTold core bytes lane).after before := by
  unfold sendOwed Core.telling
  rw [after_get_bind, found]
  dsimp only
  rw [after_bind, after_bind]
  erw [encoded]
  dsimp only
  rw [after_bind]
  cases owed.connection.filter core.connLiving with
  | none => exact ⟨none, _, Still.refl _, rfl⟩
  | some conn =>
    refine ⟨some _, _, ?_, rfl⟩
    exact { Still.refl _ with }

/-- What is owed to the producer goes to it, all in one frame, and nothing is owed to it then. -/
def Core.SendsOwed (core : Core) (producer : Nat) : Prop :=
  ∃ bytes lane before, encode (core.confirmationFor producer (core.owedTo producer)) = some bytes ∧
    (sendOwed producer).after core = (sendTold core bytes lane).after before ∧
    ((sendOwed producer).after core).unsent producer = [] ∧
    ∀ outcome, toldTo ((sendOwed producer).after core).confirmNotes producer outcome =
      toldTo core.confirmNotes producer outcome ++ numbersIn ((core.owedTo producer).confirmation.named outcome)

theorem Core.Squared.sendsOwed {core : Core} {producer : Nat} (squared : core.Squared none) (fits : core.Fits64)
    (some : 0 < (core.owedTo producer).count) : core.SendsOwed producer := by
  obtain ⟨waits, owes⟩ := squared.owes producer
  have found : core.confirmer.owed[producer]? = .some (core.owedTo producer) := by
    unfold Core.owedTo at some ⊢
    rw [TreeMap.getD_eq_getD_getElem?] at some ⊢
    cases is : core.confirmer.owed[producer]? with
    | none =>
      rw [is] at some
      exact absurd some (Nat.lt_irrefl 0)
    | some => rfl
  have whom : producer < NUMBERS := by
    obtain ⟨outcome, number, member⟩ : ∃ outcome number, number ∈ waits outcome := by
      by_contra none
      simp only [not_exists] at none
      have empty : ∀ outcome, waits outcome = [] := fun outcome =>
        eq_nil_iff_forall_not_mem.mpr (none outcome)
      rw [owes.count, empty, empty, empty] at some
      exact Nat.lt_irrefl 0 some
    exact (owes.small fits member).1
  obtain ⟨bytes, encoded⟩ := isSome_iff_exists.mp (owes.encodes fits whom (squared.few producer).1)
  obtain ⟨lane, before, told, sends⟩ := sendOwed_sends found encoded
  refine ⟨bytes, lane, before, encoded, sends, ?_⟩
  rw [sends]
  have still : Still (core.telling producer (core.owedTo producer)) ((sendTold core bytes lane).after before) :=
    told.trans (sendAt_puts _ _ _ _ _ (Nat.zero_le _)).still
  refine ⟨?_, fun outcome => ?_⟩
  · have owed : (core.telling producer (core.owedTo producer)).owedTo producer =
        (core.owedTo producer).sent := (owed_insert _ _ _ _).trans (if_pos rfl)
    unfold Core.unsent
    rw [(still.each producer).1, owed]
    rfl
  · have notes : (core.telling producer (core.owedTo producer)).confirmNotes =
        .told producer (core.owedTo producer).confirmation :: core.confirmNotes :=
      if_pos (encoded ▸ rfl)
    unfold toldTo
    rw [still.reads (toldTo_other producer), notes]
    have told := toldTo_told core.confirmNotes producer outcome producer (core.owedTo producer).confirmation
    rwa [if_pos rfl] at told

/-- Two producers confirmed to, in each way, told once, and one of them confirmed to again. -/
def confirmsTwice : History :=
  [(1, .confirm 7 5 .processed), (1, .confirm 7 9 .refused), (2, .confirm 8 3 .failed),
    (3, .sendConfirmations), (4, .confirm 7 6 .processed)]

theorem confirmsTwice_notes : ((Settings.plain.start 0).run confirmsTwice).confirmNotes =
    [.confirmed 7 6 .processed, .told 8 ⟨[], [], [3, 1]⟩, .told 7 ⟨[5, 1], [9, 1], []⟩,
      .confirmed 8 3 .failed, .confirmed 7 9 .refused, .confirmed 7 5 .processed] := by
  rfl

theorem confirmsTwice_fits : ((Settings.plain.start 0).run confirmsTwice).Fits64 where
  instanceId := by decide
  confirmed producer number outcome noted := by
    rw [confirmsTwice_notes] at noted
    simp [ConfirmNote.isOwing] at noted
    unfold NUMBERS
    omega

end Multiplexer
