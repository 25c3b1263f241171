import Multiplexer.Server.KeyFilters

/-! The index of shared patterns holds what the owners declared, each declaration counted
once: taking a filter adds it, giving it back strikes it. -/

set_option autoImplicit false

namespace Multiplexer.Server

open List Option

def Re2.matches {Regex : Type} (re2 : Re2 Regex) (pattern key : Bytes) : Bool :=
  match re2.compile pattern with
  | .ok regex => re2.fullMatch regex key
  | .error _ => false

def Re2.Literal {Regex : Type} (re2 : Re2 Regex) : Prop :=
  ∀ pattern literal key, KeyPatterns.exact pattern = some literal →
    (re2.matches pattern key = true ↔ key = literal)

namespace KeyPatterns

/-! ## Lists of holders -/

theorem removeOne_none {owners : List Owner} {owner : Owner}
    (none_ : removeOne owners owner = none) : owner ∉ owners := by
  simpa [removeOne] using none_

theorem removeOne_some {owners left : List Owner} {owner : Owner}
    (removed : removeOne owners owner = some left) (each : Owner) :
    left.count each + (if owner = each then 1 else 0) = owners.count each := by
  simp only [removeOne, map_eq_some_iff] at removed
  obtain ⟨index, found, rfl⟩ := removed
  obtain ⟨bound, shows, -⟩ := idxOf?_eq_some_iff.mp found
  rcases eq_nil_or_concat owners with rfl | ⟨init, _, rfl⟩
  · simp at bound
  simp only [concat_eq_append] at bound shows ⊢
  rw [getLastD_concat, set_append]
  by_cases inside : index < init.length
  · rw [if_pos inside, dropLast_concat, count_set inside, count_append]
    rw [getElem_append_left inside] at shows
    have present : init[index] = each → 0 < init.count each := by
      rintro rfl
      exact count_pos_iff.mpr (getElem_mem inside)
    rw [shows] at present
    simp only [shows, beq_iff_eq, count_singleton]
    by_cases same : owner = each
    · have positive := present same
      simp only [same, if_true]
      omega
    · simp only [same, if_false]
      omega
  · have atEnd : index = init.length := by simp at bound; omega
    subst atEnd
    simp only [getElem_concat_length] at shows
    subst shows
    simp [count_append, count_singleton]

variable {Regex : Type}

namespace FilteredType

/-! ## A type's index -/

inductive Place where
  | literal (key : Bytes)
  | slot (text : Bytes)
deriving DecidableEq

def place (pattern : Bytes) : Place :=
  match KeyPatterns.exact pattern with
  | some key => .literal key
  | none => .slot pattern

def listed (type : FilteredType Regex) : Place → List Owner
  | .literal key => (type.exact.lookup key).getD []
  | .slot text => ((type.slotByText.lookup text).bind (type.slots[·]?)).elim [] Pattern.holders

structure Built (type : FilteredType Regex) (texts : List Bytes) : Prop where
  aligned : ∀ (index : Nat) text, texts[index]? = some text →
    ∃ slot, type.slotByIndex[index]? = some slot ∧ type.slotByText.lookup text = some slot
  complete : ∀ text slot, type.slotByText.lookup text = some slot → ∃ index : Nat, texts[index]? = some text

structure WellFormed (re2 : Re2 Regex) (type : FilteredType Regex) : Prop where
  bound : ∀ text slot, type.slotByText.lookup text = some slot →
    ∃ found regex, type.slots[slot]? = some found ∧ found.text = text ∧
      found.regex = some regex ∧ re2.compile text = .ok regex
  used : ∀ (slot : Nat) found, type.slots[slot]? = some found → found.regex.isSome →
    type.slotByText.lookup found.text = some slot
  vacant : ∀ slot ∈ type.freeSlots,
    ∃ found, type.slots[slot]? = some found ∧ found.regex = none ∧ found.holders = []
  distinct : type.freeSlots.Nodup
  built : type.stale = false → ∀ texts, type.set = some texts → Built type texts

variable {re2 : Re2 Regex} {type : FilteredType Regex}

theorem WellFormed.empty : WellFormed re2 ({} : FilteredType Regex) where
  bound := by
    intro _ slot found
    cases found
  used := by
    intro _ _ shows
    simp at shows
  vacant := by simp
  distinct := nodup_nil
  built := by
    intro fresh
    cases fresh

section

variable (wellFormed : WellFormed re2 type)

include wellFormed

theorem WellFormed.withOwners (owners : Nat) : WellFormed re2 { type with owners } := by
  obtain ⟨bound, used, vacant, distinct, built⟩ := wellFormed
  refine ⟨bound, used, vacant, distinct, ?_⟩
  intro current texts isSet
  obtain ⟨aligned, complete⟩ := built current texts isSet
  exact ⟨aligned, complete⟩

theorem WellFormed.withExact
    (exact : AList fun _ : Bytes => List Owner) : WellFormed re2 { type with exact } := by
  obtain ⟨bound, used, vacant, distinct, built⟩ := wellFormed
  refine ⟨bound, used, vacant, distinct, ?_⟩
  intro current texts isSet
  obtain ⟨aligned, complete⟩ := built current texts isSet
  exact ⟨aligned, complete⟩

theorem WellFormed.modifyHolders {text : Bytes} {slot : Nat}
    (known : type.slotByText.lookup text = some slot) (change : List Owner → List Owner) :
    WellFormed re2 { type with
      slots := type.slots.modify slot fun found =>
        { found with holders := change found.holders } } := by
  obtain ⟨bound, used, vacant, distinct, built⟩ := wellFormed
  have shape : ∀ (index : Nat) found, (type.slots.modify slot fun found : Pattern Regex =>
        { found with holders := change found.holders })[index]? = some found →
      ∃ before, type.slots[index]? = some before ∧ found.text = before.text ∧ found.regex = before.regex := by
    intro index found shows
    rw [getElem?_modify, Option.map_eq_map, map_eq_some_iff] at shows
    obtain ⟨before, shows, rfl⟩ := shows
    refine ⟨before, shows, ?_⟩
    split <;> exact ⟨rfl, rfl⟩
  refine ⟨?_, ?_, ?_, distinct, ?_⟩
  · intro text slot' lookup
    obtain ⟨found, regex, shows, sameText, sameRegex, compiles⟩ := bound text slot' lookup
    dsimp only
    rw [getElem?_modify, shows]
    refine ⟨_, regex, rfl, ?_, ?_, compiles⟩
    · split <;> exact sameText
    · split <;> exact sameRegex
  · intro index found shows isUsed
    obtain ⟨before, shown, sameText, sameRegex⟩ := shape index found shows
    rw [sameText]
    exact used index before shown (sameRegex ▸ isUsed)
  · intro free member
    obtain ⟨found, shows, unused, empty⟩ := vacant free member
    have different : slot ≠ free := by
      rintro rfl
      obtain ⟨_, _, shown, -, sameRegex, -⟩ := bound text slot known
      cases shows.symm.trans shown
      cases unused.symm.trans sameRegex
    exact ⟨found, by simp [shows, different], unused, empty⟩
  · intro fresh texts isSet
    obtain ⟨aligned, complete⟩ := built fresh texts isSet
    exact ⟨aligned, complete⟩

theorem listed_modifyHolders {text : Bytes} {slot : Nat} {found : Pattern Regex} (known : type.slotByText.lookup text = some slot)
    (shows : type.slots[slot]? = some found) (change : List Owner → List Owner) (place : Place) :
    listed { type with
        slots := type.slots.modify slot fun found =>
          { found with holders := change found.holders } } place =
      if place = .slot text then change found.holders else type.listed place := by
  cases place with
  | literal => simp [listed]
  | slot other =>
    by_cases same : other = text
    · subst same
      simp [listed, known, getElem?_modify, shows]
    · have apart : ∀ slot', type.slotByText.lookup other = some slot' → slot ≠ slot' := by
        rintro slot' lookup rfl
        obtain ⟨_, _, firstShows, firstText, -⟩ := wellFormed.bound text slot known
        obtain ⟨_, _, secondShows, secondText, -⟩ := wellFormed.bound other slot lookup
        cases firstShows.symm.trans secondShows
        exact same (secondText.symm.trans firstText)
      simp only [listed, Place.slot.injEq, same, if_false]
      cases lookup : type.slotByText.lookup other with
      | none => rfl
      | some slot' =>
        have different := apart slot' lookup
        simp [getElem?_modify, different]

theorem freshSlot_spec :
    ∃ slot slots freeSlots, type.freshSlot = (slot, { type with slots, freeSlots }) ∧
      (∃ found, slots[slot]? = some found ∧ found.regex = none ∧ found.holders = []) ∧
      slot ∉ freeSlots ∧ freeSlots.Nodup ∧ (∀ free ∈ freeSlots, free ∈ type.freeSlots) ∧
      (∀ other ≠ slot, slots[other]? = type.slots[other]?) ∧
      (∀ found, type.slots[slot]? = some found → found.regex = none) := by
  unfold freshSlot
  cases shows : type.freeSlots with
  | nil =>
    refine ⟨type.slots.length, type.slots ++ [({} : Pattern Regex)], [], rfl,
      ⟨{}, by simp, rfl, rfl⟩, by simp, nodup_nil, by simp, ?_, ?_⟩
    · intro other _
      by_cases inside : other < type.slots.length
      · rw [getElem?_append_left inside]
      · rw [getElem?_eq_none (by simp; omega), getElem?_eq_none (by omega)]
    · intro found past
      simp at past
  | cons slot rest =>
    have distinct := wellFormed.distinct
    rw [shows, nodup_cons] at distinct
    obtain ⟨found, shown, unused, empty⟩ := wellFormed.vacant slot (by simp [shows])
    refine ⟨slot, type.slots, rest, rfl, ⟨found, shown, unused, empty⟩, distinct.1, distinct.2,
      ?_, fun _ _ => rfl, ?_⟩
    · intro _ member
      simp [member]
    · intro _ shownToo
      cases shown.symm.trans shownToo
      exact unused

theorem WellFormed.newSlot {slots : List (Pattern Regex)} {freeSlots : List Nat} {slot : Nat}
    {found : Pattern Regex} {text : Bytes} {regex : Regex}
    (unknown : type.slotByText.lookup text = none)
    (shows : slots[slot]? = some found) (free : slot ∉ freeSlots) (distinct : freeSlots.Nodup)
    (sub : ∀ free ∈ freeSlots, free ∈ type.freeSlots)
    (others : ∀ other ≠ slot, slots[other]? = type.slots[other]?)
    (unused : ∀ found, type.slots[slot]? = some found → found.regex = none)
    (compiles : re2.compile text = .ok regex) : WellFormed re2 { type with
      freeSlots
      slots := slots.modify slot fun found => { found with text, regex := some regex }
      slotByText := type.slotByText.insert text slot
      stale := true } := by
  have apart : ∀ other slot', type.slotByText.lookup other = some slot' → slot ≠ slot' := by
    rintro other slot' lookup rfl
    obtain ⟨found, regex, shown, -, isUsed, -⟩ := wellFormed.bound other slot lookup
    cases (unused found shown).symm.trans isUsed
  refine ⟨?_, ?_, ?_, distinct, nofun⟩
  · intro other slot' lookup
    by_cases same : other = text
    · subst same
      rw [AList.lookup_insert, some.injEq] at lookup
      subst lookup
      exact ⟨_, regex, by simp only [getElem?_modify, shows]; rfl, by simp, by simp, compiles⟩
    · rw [AList.lookup_insert_ne same] at lookup
      obtain ⟨found, regex, shown, sameText, sameRegex, compiles⟩ :=
        wellFormed.bound other slot' lookup
      have different := apart other slot' lookup
      refine ⟨found, regex, ?_, sameText, sameRegex, compiles⟩
      simp [different, others slot' (Ne.symm different), shown]
  · intro slot' found shown isUsed
    by_cases same : slot = slot'
    · subst same
      simp only [getElem?_modify, shows, if_true, Option.map_eq_map, map_some, some.injEq] at shown
      subst shown
      exact AList.lookup_insert _
    · simp only [getElem?_modify, same, if_false, Option.map_eq_map, Option.map_id',
        others slot' (Ne.symm same)] at shown
      have lookup := wellFormed.used slot' found shown isUsed
      have different : found.text ≠ text := by
        rintro rfl
        cases unknown.symm.trans lookup
      rw [AList.lookup_insert_ne different]
      exact lookup
  · intro other member
    obtain ⟨found, shown, isFree, empty⟩ := wellFormed.vacant other (sub other member)
    have different : slot ≠ other := by
      rintro rfl
      exact free member
    exact ⟨found, by simp [different, others other (Ne.symm different), shown], isFree, empty⟩

/-- A pattern taken adds its owner once where the pattern stands. -/
theorem takePattern_spec {fresh : Compiled Regex} {number : Nat} {owner : Owner} {pattern : Bytes}
    (ready : KeyPatterns.exact pattern = none → type.slotByText.lookup pattern = none →
      ∃ regex, fresh.lookup (number, pattern) = some regex ∧ re2.compile pattern = .ok regex) :
    WellFormed re2 (takePattern fresh number owner type pattern) ∧
      (takePattern fresh number owner type pattern).owners = type.owners ∧
      (∀ text, (type.slotByText.lookup text).isSome →
        ((takePattern fresh number owner type pattern).slotByText.lookup text).isSome) ∧
      ∀ at_ each, ((takePattern fresh number owner type pattern).listed at_).count each =
        (type.listed at_).count each +
          if at_ = place pattern ∧ owner = each then 1 else 0 := by
  unfold takePattern place
  cases literal : KeyPatterns.exact pattern with
  | some key =>
    refine ⟨wellFormed.withExact _, rfl, fun _ present => present, ?_⟩
    intro at_ each
    cases at_ with
    | slot => simp [listed]
    | literal other =>
      by_cases same : other = key
      · subst same
        simp [listed, count_append, count_singleton]
      · simp [listed, AList.lookup_insert_ne same, same]
  | none =>
    cases known : type.slotByText.lookup pattern with
    | some slot =>
      obtain ⟨found, regex, shows, -⟩ := wellFormed.bound pattern slot known
      refine ⟨wellFormed.modifyHolders known (· ++ [owner]), rfl, fun _ present => present, ?_⟩
      intro at_ each
      have moved := listed_modifyHolders wellFormed known shows (· ++ [owner]) at_
      simp only [hold, moved]
      by_cases same : at_ = .slot pattern
      · subst same
        simp [listed, known, shows, count_append, count_singleton]
      · simp [same]
    | none =>
      obtain ⟨regex, provided, compiles⟩ := ready literal known
      obtain ⟨slot, slots, _, taken, ⟨found, shows, _, empty⟩, free, distinct,
        sub, others, unused⟩ := freshSlot_spec wellFormed
      have made := wellFormed.newSlot known shows free distinct sub others unused compiles
      have lookup : (type.slotByText.insert pattern slot).lookup pattern = some slot :=
        AList.lookup_insert _
      simp only [taken, provided, hold]
      refine ⟨made.modifyHolders lookup (· ++ [owner]), trivial, ?_, ?_⟩
      · intro text _
        by_cases same : text = pattern
        · subst same
          simp
        · rwa [AList.lookup_insert_ne same]
      · intro at_ _
        have shown : (slots.modify slot fun found : Pattern Regex =>
            { found with text := pattern, regex := some regex })[slot]? =
            some { found with text := pattern, regex := some regex } := by
          simp [shows]
        have moved := listed_modifyHolders made lookup shown (· ++ [owner]) at_
        dsimp only at moved
        rw [moved]
        by_cases same : at_ = .slot pattern
        · subst same
          simp [listed, known, empty, count_singleton]
        · cases at_ with
          | literal => simp [listed]
          | slot text =>
            have different : text ≠ pattern := by
              rintro rfl
              exact same rfl
            simp only [listed, AList.lookup_insert_ne different, Place.slot.injEq, different,
              if_false, false_and, Nat.add_zero]
            cases other : type.slotByText.lookup text with
            | none => rfl
            | some slot' =>
              have apart : slot' ≠ slot := by
                rintro rfl
                obtain ⟨found, _, shownToo, -, isUsed, -⟩ := wellFormed.bound text slot' other
                cases (unused found shownToo).symm.trans isUsed
              simp [Ne.symm apart, others slot' apart]

theorem WellFormed.giveSlotBack {text : Bytes} {slot : Nat}
    (known : type.slotByText.lookup text = some slot) : WellFormed re2 { type with
      freeSlots := slot :: type.freeSlots
      slots := type.slots.set slot {}
      slotByText := type.slotByText.erase text
      stale := true } := by
  obtain ⟨bound, used, vacant, distinct, -⟩ := wellFormed
  obtain ⟨_, _, shows, sameText, sameRegex, -⟩ := bound text slot known
  obtain ⟨inside, -⟩ := List.getElem?_eq_some_iff.mp shows
  have busy : ∀ free ∈ type.freeSlots, slot ≠ free := by
    rintro free member rfl
    obtain ⟨other, shown, unused, -⟩ := vacant slot member
    rw [shows, some.injEq] at shown
    rw [← shown, sameRegex] at unused
    cases unused
  refine ⟨?_, ?_, ?_, ?_, nofun⟩
  · intro other slot' lookup
    have different : other ≠ text := by
      rintro rfl
      rw [AList.lookup_erase] at lookup
      cases lookup
    rw [AList.lookup_erase_ne different] at lookup
    obtain ⟨found', regex', shown, sameText', sameRegex', compiles⟩ := bound other slot' lookup
    have apart : slot ≠ slot' := by
      rintro rfl
      rw [shows, some.injEq] at shown
      exact different (by rw [← sameText', ← shown, sameText])
    exact ⟨found', regex', by rw [getElem?_set_ne apart, shown], sameText', sameRegex', compiles⟩
  · intro slot' other shown isUsed
    by_cases same : slot = slot'
    · subst same
      simp only [getElem?_set_self inside, some.injEq] at shown
      subst shown
      cases isUsed
    · rw [getElem?_set_ne same] at shown
      have lookup := used slot' other shown isUsed
      have different : other.text ≠ text := by
        rintro rfl
        rw [lookup, some.injEq] at known
        exact same known.symm
      rw [AList.lookup_erase_ne different]
      exact lookup
  · intro free member
    rcases mem_cons.mp member with rfl | member
    · exact ⟨{}, by simp [getElem?_set_self inside], rfl, rfl⟩
    · obtain ⟨other, shown, unused, empty⟩ := vacant free member
      exact ⟨other, by rw [getElem?_set_ne (busy free member), shown], unused, empty⟩
  · refine nodup_cons.mpr ⟨?_, distinct⟩
    intro member
    exact busy slot member rfl

theorem listed_giveSlotBack {text : Bytes} {slot : Nat}
    (known : type.slotByText.lookup text = some slot) (at_ : Place) : listed { type with
        freeSlots := slot :: type.freeSlots
        slots := type.slots.set slot {}
        slotByText := type.slotByText.erase text
        stale := true } at_ =
      if at_ = .slot text then [] else type.listed at_ := by
  cases at_ with
  | literal => simp [listed]
  | slot other =>
    by_cases same : other = text
    · subst same
      simp [listed]
    · simp only [listed, AList.lookup_erase_ne same, Place.slot.injEq, same, if_false]
      cases lookup : type.slotByText.lookup other with
      | none => rfl
      | some slot' =>
        have apart : slot ≠ slot' := by
          rintro rfl
          obtain ⟨_, _, firstShows, firstText, -⟩ := wellFormed.bound text slot known
          obtain ⟨_, _, secondShows, secondText, -⟩ := wellFormed.bound other slot lookup
          rw [firstShows, some.injEq] at secondShows
          exact same (by rw [← secondText, ← secondShows, firstText])
        simp [getElem?_set_ne apart]

/-- A pattern given back takes its owner off once. -/
theorem giveBackPattern_spec {owner : Owner} {pattern : Bytes}
    (holds : owner ∈ type.listed (place pattern)) :
    WellFormed re2 (giveBackPattern owner type pattern) ∧
      (giveBackPattern owner type pattern).owners = type.owners ∧
      ∀ at_ each, ((giveBackPattern owner type pattern).listed at_).count each +
        (if at_ = place pattern ∧ owner = each then 1 else 0) = (type.listed at_).count each := by
  unfold giveBackPattern
  unfold place at holds ⊢
  cases literal : KeyPatterns.exact pattern with
  | some key =>
    rw [literal] at holds
    dsimp only at holds ⊢
    cases lookup : type.exact.lookup key with
    | none => simp [listed, lookup] at holds
    | some owners =>
      cases removed : removeOne owners owner with
      | none => exact absurd (by simpa [listed, lookup] using holds) (removeOne_none removed)
      | some left =>
        have counted := removeOne_some removed
        simp only [removed]
        cases left with
        | nil =>
          refine ⟨wellFormed.withExact _, rfl, ?_⟩
          intro at_ each
          cases at_ with
          | slot => simp [listed]
          | literal other =>
            by_cases same : other = key
            · subst same
              have count := counted each
              simpa [listed, lookup] using count
            · simp [listed, AList.lookup_erase_ne same, same]
        | cons =>
          refine ⟨wellFormed.withExact _, rfl, ?_⟩
          intro at_ each
          cases at_ with
          | slot => simp [listed]
          | literal other =>
            by_cases same : other = key
            · subst same
              have count := counted each
              simpa [listed, lookup] using count
            · simp [listed, AList.lookup_insert_ne same, same]
  | none =>
    rw [literal] at holds
    dsimp only at holds ⊢
    cases known : type.slotByText.lookup pattern with
    | none => simp [listed, known] at holds
    | some slot =>
      obtain ⟨found, _, shows, -⟩ := wellFormed.bound pattern slot known
      have holders : type.listed (.slot pattern) = found.holders := by
        simp [listed, known, shows]
      cases removed : removeOne found.holders owner with
      | none => exact absurd (holders ▸ holds) (removeOne_none removed)
      | some left =>
        have counted := removeOne_some removed
        simp only [shows, bind_some, removed]
        cases left with
        | nil =>
          refine ⟨wellFormed.giveSlotBack known, rfl, ?_⟩
          intro at_ each
          rw [listed_giveSlotBack wellFormed known]
          by_cases same : at_ = .slot pattern
          · subst same
            have count := counted each
            simpa [holders] using count
          · simp [same]
        | cons first rest =>
          refine ⟨wellFormed.modifyHolders known fun _ => first :: rest, rfl, ?_⟩
          intro at_ each
          rw [listed_modifyHolders wellFormed known shows (fun _ => first :: rest)]
          by_cases same : at_ = .slot pattern
          · subst same
            have count := counted each
            simpa [holders] using count
          · simp [same]

theorem takePatterns_spec {fresh : Compiled Regex} {number : Nat} {owner : Owner}
    {patterns : List Bytes} (ready : ∀ pattern ∈ patterns, KeyPatterns.exact pattern = none →
      (type.slotByText.lookup pattern).isSome ∨
        ∃ regex, fresh.lookup (number, pattern) = some regex ∧ re2.compile pattern = .ok regex) :
    WellFormed re2 (patterns.foldl (takePattern fresh number owner) type) ∧
      (patterns.foldl (takePattern fresh number owner) type).owners = type.owners ∧
      (∀ text, (type.slotByText.lookup text).isSome →
        ((patterns.foldl (takePattern fresh number owner) type).slotByText.lookup text).isSome) ∧
      ∀ at_ each, ((patterns.foldl (takePattern fresh number owner) type).listed at_).count each =
        (type.listed at_).count each +
          if owner = each then (patterns.map place).count at_ else 0 := by
  induction patterns generalizing type with
  | nil => exact ⟨wellFormed, rfl, fun _ present => present, by simp⟩
  | cons pattern patterns ih =>
    have first : KeyPatterns.exact pattern = none → type.slotByText.lookup pattern = none →
        ∃ regex, fresh.lookup (number, pattern) = some regex ∧ re2.compile pattern = .ok regex := by
      intro notLiteral unknown
      rcases ready pattern mem_cons_self notLiteral with known | provided
      · simp [unknown] at known
      · exact provided
    obtain ⟨wellFormed', owners, known, counted⟩ :=
      @takePattern_spec _ _ _ wellFormed fresh number owner pattern first
    have rest : ∀ pattern' ∈ patterns, KeyPatterns.exact pattern' = none →
        ((takePattern fresh number owner type pattern).slotByText.lookup pattern').isSome ∨
          ∃ regex, fresh.lookup (number, pattern') = some regex ∧ re2.compile pattern' = .ok regex := by
      intro pattern' member notLiteral
      rcases ready pattern' (mem_cons_of_mem _ member) notLiteral with present | provided
      · exact .inl (known pattern' present)
      · exact .inr provided
    obtain ⟨wellFormed'', owners', known', counted'⟩ := ih wellFormed' rest
    refine ⟨wellFormed'', owners'.trans owners, fun text present => known' text (known text present), ?_⟩
    intro at_ each
    rw [foldl_cons, counted', counted, map_cons, count_cons]
    by_cases same : owner = each
    · by_cases here : place pattern = at_
      · simp [same, here]
        omega
      · simp [same, here, Ne.symm here]
    · simp [same]

theorem giveBackPatterns_spec {owner : Owner} {patterns : List Bytes}
    (holds : ∀ at_, (patterns.map place).count at_ ≤ (type.listed at_).count owner) :
    WellFormed re2 (patterns.foldl (giveBackPattern owner) type) ∧
      (patterns.foldl (giveBackPattern owner) type).owners = type.owners ∧
      ∀ at_ each, ((patterns.foldl (giveBackPattern owner) type).listed at_).count each +
        (if owner = each then (patterns.map place).count at_ else 0) = (type.listed at_).count each := by
  induction patterns generalizing type with
  | nil => exact ⟨wellFormed, rfl, by simp⟩
  | cons pattern patterns ih =>
    have held : owner ∈ type.listed (place pattern) := by
      have some_ := holds (place pattern)
      rw [map_cons, count_cons_self] at some_
      exact count_pos_iff.mp (by omega)
    obtain ⟨wellFormed', owners, counted⟩ := giveBackPattern_spec wellFormed held
    have rest : ∀ at_, (patterns.map place).count at_ ≤
        ((giveBackPattern owner type pattern).listed at_).count owner := by
      intro at_
      have enough := holds at_
      have count := counted at_ owner
      rw [map_cons, count_cons] at enough
      by_cases here : place pattern = at_
      · simp [here] at enough count
        omega
      · simp [here, Ne.symm here] at enough count
        omega
    obtain ⟨wellFormed'', owners', counted'⟩ := ih wellFormed' rest
    refine ⟨wellFormed'', owners'.trans owners, ?_⟩
    intro at_ each
    have later := counted' at_ each
    have now := counted at_ each
    rw [foldl_cons, map_cons, count_cons]
    by_cases same : owner = each
    · by_cases here : place pattern = at_
      · simp [same, here] at later now ⊢
        omega
      · simp [same, here, Ne.symm here] at later now ⊢
        omega
    · simp [same] at later now ⊢
      omega

end

end FilteredType

/-! ## The index of all types -/

open FilteredType

def namedBy (declared : List (Owner × KeyFilter)) (owner : Owner) (number : Nat) : List Place :=
  declared.flatMap fun filter =>
    if filter.1 = owner ∧ filter.2.type = number then filter.2.pattern.map place else []

structure Indexed (re2 : Re2 Regex) (patterns : KeyPatterns Regex)
    (declared : List (Owner × KeyFilter)) : Prop where
  wellFormed : ∀ number type, patterns.types.lookup number = some type → WellFormed re2 type ∧ 0 < type.owners
  owners : ∀ number, (patterns.types.lookup number).elim 0 FilteredType.owners =
    declared.countP fun filter => filter.2.type = number
  listed : ∀ number at_ each,
    ((patterns.types.lookup number).elim [] fun type => type.listed at_).count each =
      (namedBy declared each number).count at_

variable {re2 : Re2 Regex} {patterns : KeyPatterns Regex} {declared : List (Owner × KeyFilter)}

theorem Indexed.perm {declared' : List (Owner × KeyFilter)} (indexed : Indexed re2 patterns declared)
    (same : declared.Perm declared') : Indexed re2 patterns declared' := by
  obtain ⟨wellFormed, owners, listed⟩ := indexed
  refine ⟨wellFormed, ?_, ?_⟩
  · intro number
    rw [owners, same.countP_eq]
  · intro _ at_ _
    rw [listed]
    exact (same.flatMap_right _).count_eq at_

theorem namedBy_cons (owner each : Owner) (filter : KeyFilter) (number : Nat) (at_ : Place) :
    (namedBy ((owner, filter) :: declared) each number).count at_ = (namedBy declared each number).count at_ +
        if owner = each ∧ filter.type = number then (filter.pattern.map place).count at_ else 0 := by
  simp only [namedBy, flatMap_cons, count_append]
  split <;> simp [Nat.add_comm]

theorem takeFilter_indexed {fresh : Compiled Regex} {owner : Owner} {filter : KeyFilter}
    (indexed : Indexed re2 patterns declared)
    (ready : ∀ pattern ∈ filter.pattern, exact pattern = none →
      ((patterns.types.lookup filter.type).bind fun type =>
        type.slotByText.lookup pattern).isSome ∨
        ∃ regex, fresh.lookup (filter.type, pattern) = some regex ∧ re2.compile pattern = .ok regex) :
    Indexed re2 (takeFilter fresh owner patterns filter) ((owner, filter) :: declared) ∧ ∀ number text,
        ((patterns.types.lookup number).bind fun type => type.slotByText.lookup text).isSome →
        (((takeFilter fresh owner patterns filter).types.lookup number).bind fun type =>
          type.slotByText.lookup text).isSome := by
  obtain ⟨wellFormed, owners, listed⟩ := indexed
  -- the type as the filter finds it, empty when the filter is its first
  obtain ⟨before, shape⟩ : ∃ before, before = (patterns.types.lookup filter.type).getD {} := ⟨_, rfl⟩
  have known : ∀ text, ((patterns.types.lookup filter.type).bind fun type =>
      type.slotByText.lookup text) = before.slotByText.lookup text := by
    intro text
    rw [shape]
    cases patterns.types.lookup filter.type <;> rfl
  have holds : ∀ at_, ((patterns.types.lookup filter.type).elim [] fun type => type.listed at_) =
      before.listed at_ := by
    intro at_
    rw [shape]
    cases patterns.types.lookup filter.type with
    | none => cases at_ <;> rfl
    | some => rfl
  have users : (patterns.types.lookup filter.type).elim 0 FilteredType.owners = before.owners := by
    rw [shape]
    cases patterns.types.lookup filter.type <;> rfl
  have wellFormedBefore : WellFormed re2 { before with owners := before.owners + 1 } := by
    refine WellFormed.withOwners ?_ _
    rw [shape]
    cases lookup : patterns.types.lookup filter.type with
    | none => exact .empty
    | some => exact (wellFormed _ _ lookup).1
  obtain ⟨wellFormed', owners', known', counted⟩ :=
    @takePatterns_spec _ _ _ wellFormedBefore fresh filter.type owner filter.pattern (by
      intro pattern member notLiteral
      have found := ready pattern member notLiteral
      rwa [known] at found)
  have same : ∀ at_, FilteredType.listed { before with owners := before.owners + 1 } at_ =
      before.listed at_ := by
    intro at_
    cases at_ <;> rfl
  unfold takeFilter
  rw [← shape]
  refine ⟨⟨?_, ?_, ?_⟩, ?_⟩
  · intro number type lookup
    by_cases here : number = filter.type
    · subst here
      rw [AList.lookup_insert, some.injEq] at lookup
      subst lookup
      exact ⟨wellFormed', by rw [owners']; exact Nat.succ_pos _⟩
    · rw [AList.lookup_insert_ne here] at lookup
      exact wellFormed number type lookup
  · intro number
    rw [countP_cons]
    by_cases here : number = filter.type
    · subst here
      rw [AList.lookup_insert, ← owners, users]
      simp [owners']
    · rw [AList.lookup_insert_ne here, owners]
      simp [Ne.symm here]
  · intro number _ _
    rw [namedBy_cons, ← listed]
    by_cases here : number = filter.type
    · subst here
      rw [AList.lookup_insert, holds]
      simp [counted, same]
    · rw [AList.lookup_insert_ne here]
      simp [Ne.symm here]
  · intro number text present
    by_cases here : number = filter.type
    · subst here
      rw [AList.lookup_insert]
      rw [known] at present
      exact known' text present
    · rwa [AList.lookup_insert_ne here]

theorem giveBackFilter_indexed {owner : Owner} {filter : KeyFilter}
    (indexed : Indexed re2 patterns ((owner, filter) :: declared)) :
    Indexed re2 (giveBackFilter owner patterns filter) declared := by
  obtain ⟨wellFormed, owners, listed⟩ := indexed
  have count := owners filter.type
  rw [countP_cons] at count
  unfold giveBackFilter
  cases lookup : patterns.types.lookup filter.type with
  | none => simp [lookup] at count
  | some type =>
    simp only [lookup, elim_some, decide_true, if_true] at count
    have holds : ∀ at_, (filter.pattern.map place).count at_ ≤ (type.listed at_).count owner := by
      intro at_
      have named := listed filter.type at_ owner
      rw [namedBy_cons, lookup, elim_some] at named
      simp at named
      omega
    obtain ⟨wellFormed', owners', counted⟩ :=
      giveBackPatterns_spec (wellFormed _ _ lookup).1 holds
    have left : ∀ at_ each, ((filter.pattern.foldl (giveBackPattern owner) type).listed at_).count each =
          (namedBy declared each filter.type).count at_ := by
      intro at_ each
      have named := listed filter.type at_ each
      have struck := counted at_ each
      rw [namedBy_cons, lookup, elim_some] at named
      by_cases same : owner = each
      · subst same
        simp at named struck
        omega
      · simp [same] at named struck
        omega
    dsimp only
    rw [owners']
    split
    · rename_i last
      -- the last owner of the type leaves with it
      have nobody : declared.countP (fun other => other.2.type = filter.type) = 0 := by omega
      refine ⟨?_, ?_, ?_⟩
      · intro number other lookup'
        have here : number ≠ filter.type := by
          rintro rfl
          rw [AList.lookup_erase] at lookup'
          cases lookup'
        rw [AList.lookup_erase_ne here] at lookup'
        exact wellFormed number other lookup'
      · intro number
        by_cases here : number = filter.type
        · subst here
          rw [AList.lookup_erase, nobody]
          rfl
        · rw [AList.lookup_erase_ne here, owners, countP_cons]
          simp [Ne.symm here]
      · intro number at_ each
        by_cases here : number = filter.type
        · subst here
          have unnamed : namedBy declared each filter.type = [] := by
            rw [countP_eq_zero] at nobody
            simp only [namedBy, flatMap_eq_nil_iff]
            intro other member
            have apart := nobody other member
            rw [if_neg (by simp_all)]
          rw [AList.lookup_erase, unnamed]
          rfl
        · rw [AList.lookup_erase_ne here, listed, namedBy_cons]
          simp [Ne.symm here]
    · rename_i notLast
      have notLast : type.owners ≠ 1 := notLast
      refine ⟨?_, ?_, ?_⟩
      · intro number other lookup'
        by_cases here : number = filter.type
        · subst here
          rw [AList.lookup_insert, some.injEq] at lookup'
          subst lookup'
          have more := (wellFormed _ _ lookup).2
          exact ⟨wellFormed'.withOwners _, by dsimp only; omega⟩
        · rw [AList.lookup_insert_ne here] at lookup'
          exact wellFormed number other lookup'
      · intro number
        by_cases here : number = filter.type
        · subst here
          rw [AList.lookup_insert]
          dsimp only [elim_some]
          omega
        · rw [AList.lookup_insert_ne here, owners, countP_cons]
          simp [Ne.symm here]
      · intro number at_ _
        by_cases here : number = filter.type
        · subst here
          rw [AList.lookup_insert, ← left]
          cases at_ <;> rfl
        · rw [AList.lookup_insert_ne here, listed, namedBy_cons]
          simp [Ne.symm here]

end KeyPatterns

end Multiplexer.Server
