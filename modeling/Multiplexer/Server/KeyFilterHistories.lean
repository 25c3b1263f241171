import Multiplexer.Server.KeyFilterIndex

/-! Key filters decide exactly: over every history of calls, the index of shared patterns
answers as each owner's own filters do. -/

set_option autoImplicit false

namespace Multiplexer.Server

namespace KeyPatterns

open FilteredType List Option Function

variable {Regex : Type} {re2 : Re2 Regex} {patterns : KeyPatterns Regex}
  {declared : List (Owner × KeyFilter)}

/-! ## Requests -/

def Compiles (re2 : Re2 Regex) (fresh : Compiled Regex) : Prop :=
  ∀ number pattern regex, fresh.lookup (number, pattern) = some regex →
    re2.compile pattern = .ok regex

variable {fresh : Compiled Regex} {owner : Owner} {own : List KeyFilter} {type : Nat} {key : Bytes}

theorem checkPatterns_spec {known : Option (FilteredType Regex)} {number : Nat} {texts : List Bytes}
    {compiled : Compiled Regex}
    (checked : checkPatterns re2 known number texts compiled = .ok fresh)
    (compiles : Compiles re2 compiled) : Compiles re2 fresh ∧
      (∀ place, (compiled.lookup place).isSome → (fresh.lookup place).isSome) ∧
      ∀ pattern ∈ texts, exact pattern = none → (known.bind fun type => type.slotByText.lookup pattern).isSome ∨
          (fresh.lookup (number, pattern)).isSome := by
  induction texts generalizing compiled with
  | nil =>
    cases checked
    exact ⟨compiles, fun _ present => present, by simp⟩
  | cons pattern texts ih =>
    unfold checkPatterns at checked
    split at checked
    · cases checked
    · split at checked
      · rename_i skipped
        obtain ⟨compiles', kept, provided⟩ := ih checked compiles
        refine ⟨compiles', kept, ?_⟩
        intro other member notLiteral
        rcases mem_cons.mp member with rfl | member
        · rcases skipped with literal | isKnown | isCompiled
          · simp [notLiteral] at literal
          · exact .inl isKnown
          · exact .inr (kept _ isCompiled)
        · exact provided other member notLiteral
      · split at checked
        · cases checked
        · rename_i regex ok
          have compilesMore : Compiles re2 (compiled.insert (number, pattern) regex) := by
            intro number' pattern' regex' lookup
            by_cases same : (number', pattern') = (number, pattern)
            · cases same
              rw [AList.lookup_insert, some.injEq] at lookup
              exact lookup ▸ ok
            · rw [AList.lookup_insert_ne same] at lookup
              exact compiles number' pattern' regex' lookup
          obtain ⟨compiles', kept, provided⟩ := ih checked compilesMore
          refine ⟨compiles', ?_, ?_⟩
          · intro place _
            refine kept place ?_
            by_cases same : place = (number, pattern)
            · subst same
              simp
            · rwa [AList.lookup_insert_ne same]
          · intro other member notLiteral
            rcases mem_cons.mp member with rfl | member
            · exact .inr (kept _ (by simp))
            · exact provided other member notLiteral

theorem checkFilters_spec {filters : List KeyFilter} {seen : List Nat} {compiled : Compiled Regex}
    (checked : checkFilters re2 patterns filters seen compiled = .ok fresh)
    (compiles : Compiles re2 compiled) : Compiles re2 fresh ∧
      (∀ place, (compiled.lookup place).isSome → (fresh.lookup place).isSome) ∧
      ∀ filter ∈ filters, ∀ pattern ∈ filter.pattern, exact pattern = none →
        ((patterns.types.lookup filter.type).bind fun type =>
          type.slotByText.lookup pattern).isSome ∨
          (fresh.lookup (filter.type, pattern)).isSome := by
  induction filters generalizing seen compiled with
  | nil =>
    cases checked
    exact ⟨compiles, fun _ present => present, by simp⟩
  | cons filter filters ih =>
    unfold checkFilters at checked
    split at checked
    · cases checked
    · split at checked
      · cases checked
      · split at checked
        · cases checked
        · rename_i more passed
          obtain ⟨compilesMore, keptFirst, providedFirst⟩ := checkPatterns_spec passed compiles
          obtain ⟨compiles', kept, provided⟩ := ih checked compilesMore
          refine ⟨compiles', fun place present => kept place (keptFirst place present), ?_⟩
          intro other member pattern listed notLiteral
          rcases mem_cons.mp member with rfl | member
          · rcases providedFirst pattern listed notLiteral with isKnown | isCompiled
            · exact .inl isKnown
            · exact .inr (kept _ isCompiled)
          · exact provided other member pattern listed notLiteral

theorem take_indexed {filters : List KeyFilter} (indexed : Indexed re2 patterns declared)
    (compiles : Compiles re2 fresh)
    (ready : ∀ filter ∈ filters, ∀ pattern ∈ filter.pattern, exact pattern = none →
      ((patterns.types.lookup filter.type).bind fun type =>
        type.slotByText.lookup pattern).isSome ∨
        (fresh.lookup (filter.type, pattern)).isSome) :
    Indexed re2 (patterns.take owner filters fresh) (filters.map (owner, ·) ++ declared) := by
  induction filters generalizing patterns declared with
  | nil => exact indexed
  | cons filter _ ih =>
    have first : ∀ pattern ∈ filter.pattern, exact pattern = none →
        ((patterns.types.lookup filter.type).bind fun type =>
          type.slotByText.lookup pattern).isSome ∨
          ∃ regex, fresh.lookup (filter.type, pattern) = some regex ∧ re2.compile pattern = .ok regex := by
      intro pattern listed notLiteral
      rcases ready filter mem_cons_self pattern listed notLiteral with isKnown | isCompiled
      · exact .inl isKnown
      · obtain ⟨regex, lookup⟩ := isSome_iff_exists.mp isCompiled
        exact .inr ⟨regex, lookup, compiles _ _ _ lookup⟩
    obtain ⟨indexed', kept⟩ := @takeFilter_indexed _ _ _ _ fresh owner filter indexed first
    have rest := ih indexed' (by
      intro other member pattern listed notLiteral
      rcases ready other (mem_cons_of_mem _ member) pattern listed notLiteral with
        isKnown | isCompiled
      · exact .inl (kept _ _ isKnown)
      · exact .inr isCompiled)
    exact rest.perm perm_middle

theorem giveBack_indexed {filters : List KeyFilter}
    (indexed : Indexed re2 patterns (filters.map (owner, ·) ++ declared)) :
    Indexed re2 (patterns.giveBack owner filters) declared := by
  induction filters generalizing patterns with
  | nil => exact indexed
  | cons _ _ ih => exact ih (giveBackFilter_indexed indexed)

theorem take_owners (owner : Owner) (filters : List KeyFilter) (fresh : Compiled Regex)
    (patterns : KeyPatterns Regex) : (patterns.take owner filters fresh).owners = patterns.owners ∧
      (patterns.take owner filters fresh).freeOwners = patterns.freeOwners ∧
      (patterns.take owner filters fresh).evaluations = patterns.evaluations := by
  induction filters generalizing patterns with
  | nil => exact ⟨rfl, rfl, rfl⟩
  | cons filter _ ih => exact ih (takeFilter fresh owner patterns filter)

theorem giveBack_owners (owner : Owner) (filters : List KeyFilter) (patterns : KeyPatterns Regex) :
    (patterns.giveBack owner filters).owners = patterns.owners ∧
      (patterns.giveBack owner filters).freeOwners = patterns.freeOwners ∧
      (patterns.giveBack owner filters).evaluations = patterns.evaluations := by
  induction filters generalizing patterns with
  | nil => exact ⟨rfl, rfl, rfl⟩
  | cons filter _ ih =>
    obtain ⟨owners, freeOwners, evaluations⟩ := ih (giveBackFilter owner patterns filter)
    have first : (giveBackFilter owner patterns filter).owners = patterns.owners ∧
        (giveBackFilter owner patterns filter).freeOwners = patterns.freeOwners ∧
        (giveBackFilter owner patterns filter).evaluations = patterns.evaluations := by
      unfold giveBackFilter
      split
      · exact ⟨rfl, rfl, rfl⟩
      · dsimp only
        split <;> exact ⟨rfl, rfl, rfl⟩
    exact ⟨owners.trans first.1, freeOwners.trans first.2.1, evaluations.trans first.2.2⟩

/-! ## Matching -/

section

variable {type : FilteredType Regex}

theorem mem_used {slot : Nat} {found : Pattern Regex} :
    (slot, found) ∈ type.used ↔ type.slots[slot]? = some found ∧ found.regex.isSome := by
  unfold used
  constructor
  · intro member
    obtain ⟨⟨_, _⟩, inside, same⟩ := List.mem_map.mp member
    cases same
    obtain ⟨inside, isUsed⟩ := mem_filter.mp inside
    exact ⟨mk_mem_zipIdx_iff_getElem?.mp inside, isUsed⟩
  · rintro ⟨shows, isUsed⟩
    refine List.mem_map.mpr ⟨(found, slot), mem_filter.mpr ⟨?_, isUsed⟩, rfl⟩
    exact mk_mem_zipIdx_iff_getElem?.mpr shows

theorem build_wellFormed (wellFormed : WellFormed re2 type) (compiles : Nat → Bool) :
    WellFormed re2 (type.build re2 compiles) ∧ (type.build re2 compiles).stale = false ∧
      (type.build re2 compiles).owners = type.owners ∧
      ∀ at_, (type.build re2 compiles).listed at_ = type.listed at_ := by
  obtain ⟨bound, used, vacant, distinct, -⟩ := wellFormed
  unfold build
  dsimp only
  split
  · refine ⟨⟨bound, used, vacant, distinct, nofun⟩, rfl, rfl, ?_⟩
    rintro (key | text) <;> rfl
  · split
    · refine ⟨⟨bound, used, vacant, distinct, ?_⟩, rfl, rfl, ?_⟩
      · rintro - _ isSet
        cases isSet
        refine ⟨?_, ?_⟩
        · intro index text shows
          rw [getElem?_map, map_eq_some_iff] at shows
          obtain ⟨⟨slot, found⟩, shown, rfl⟩ := shows
          obtain ⟨inSlots, isUsed⟩ := mem_used.mp (mem_of_getElem? shown)
          refine ⟨slot, ?_, used slot found inSlots isUsed⟩
          change (type.used.map Prod.fst)[index]? = some slot
          rw [getElem?_map]
          exact map_eq_some_iff.mpr ⟨_, shown, rfl⟩
        · intro text slot lookup
          obtain ⟨found, _, shows, rfl, isUsed, -⟩ := bound text slot lookup
          have member : (slot, found) ∈ type.used := mem_used.mpr ⟨shows, by simp [isUsed]⟩
          obtain ⟨index, shown⟩ := mem_iff_getElem?.mp member
          refine ⟨index, ?_⟩
          rw [getElem?_map]
          exact map_eq_some_iff.mpr ⟨_, shown, rfl⟩
      · rintro (key | text) <;> rfl
    · refine ⟨⟨bound, used, vacant, distinct, nofun⟩, rfl, rfl, ?_⟩
      rintro (_ | _) <;> rfl

def SetRun.exactFor (re2 : Re2 Regex) (texts : List Bytes) (key : Bytes) (how : SetRun) : Bool :=
  match how.hits with
  | none => true
  | some hits =>
    (hits.all fun index => (texts[index]?).any fun text => re2.matches text key) &&
      texts.zipIdx.all fun text => !re2.matches text.1 key || hits.contains text.2

variable {key : Bytes} {owner : Owner}

theorem SetRun.mem_hits {texts : List Bytes} {how : SetRun} {hits : List Nat}
    (exactly : how.exactFor re2 texts key = true) (shows : how.hits = some hits) (index : Nat) :
    index ∈ hits ↔ ∃ text, texts[index]? = some text ∧ re2.matches text key = true := by
  simp only [exactFor, shows, Bool.and_eq_true, List.all_eq_true] at exactly
  obtain ⟨only, all⟩ := exactly
  constructor
  · intro member
    have found := only index member
    exact (Option.any_eq_true _ _).mp found
  · rintro ⟨text, found, matched⟩
    have member := all (text, index) (mk_mem_zipIdx_iff_getElem?.mpr found)
    simpa [matched] using member

theorem mem_listed {text : Bytes} : owner ∈ type.listed (.slot text) ↔ ∃ slot found,
      type.slotByText.lookup text = some slot ∧ type.slots[slot]? = some found ∧ owner ∈ found.holders := by
  unfold listed
  cases lookup : type.slotByText.lookup text with
  | none => simp [lookup]
  | some slot =>
    cases shows : type.slots[slot]? with
    | none | some found => simp [lookup, shows]

theorem mem_oneByOne (wellFormed : WellFormed re2 type) : owner ∈ oneByOne re2 key type ↔
      ∃ text, owner ∈ type.listed (.slot text) ∧ re2.matches text key = true := by
  have matching : ∀ {slot : Nat} {found : Pattern Regex} {regex : Regex},
      type.slots[slot]? = some found → found.regex = some regex →
      type.slotByText.lookup found.text = some slot ∧ re2.matches found.text key = re2.fullMatch regex key := by
    intro slot found regex shows isUsed
    have lookup := wellFormed.used slot found shows (by simp [isUsed])
    obtain ⟨other, _, shown, -, isUsed', compiles⟩ := wellFormed.bound _ _ lookup
    rw [shows, some.injEq] at shown
    subst shown
    rw [isUsed, some.injEq] at isUsed'
    subst isUsed'
    exact ⟨lookup, by simp [Re2.matches, compiles]⟩
  constructor
  · intro member
    obtain ⟨found, inSlots, member⟩ := mem_flatMap.mp member
    obtain ⟨slot, shows⟩ := mem_iff_getElem?.mp inSlots
    cases isUsed : found.regex with
    | none => simp [isUsed] at member
    | some regex =>
      obtain ⟨lookup, same⟩ := matching shows isUsed
      by_cases matched : re2.fullMatch regex key = true
      · simp only [isUsed, matched, if_true] at member
        exact ⟨found.text, mem_listed.mpr ⟨slot, found, lookup, shows, member⟩, same.trans matched⟩
      · simp [isUsed, matched] at member
  · rintro ⟨text, listed, matched⟩
    obtain ⟨slot, found, lookup, shows, member⟩ := mem_listed.mp listed
    obtain ⟨_, _, shown, rfl, isUsed, -⟩ := wellFormed.bound text slot lookup
    rw [shows, some.injEq] at shown
    subst shown
    refine mem_flatMap.mpr ⟨found, mem_of_getElem? shows, ?_⟩
    rw [(matching shows isUsed).2] at matched
    simpa [isUsed, matched] using member

theorem mem_found {how : SetRun} (wellFormed : WellFormed re2 type) (current : type.stale = false)
    (exactly : ∀ texts, type.set = some texts → how.exactFor re2 texts key = true) :
    owner ∈ found re2 key how type ↔ ∃ text, owner ∈ type.listed (.slot text) ∧ re2.matches text key = true := by
  cases isSet : type.set with
  | none => simpa only [found, isSet] using mem_oneByOne wellFormed
  | some texts =>
    cases hits : how.hits with
    | none => simpa only [found, isSet, hits] using mem_oneByOne wellFormed
    | some =>
      obtain ⟨aligned, complete⟩ := wellFormed.built current texts isSet
      have hit := SetRun.mem_hits (exactly texts isSet) hits
      simp only [found, isSet, hits, mem_flatMap]
      constructor
      · rintro ⟨index, member, holds⟩
        obtain ⟨text, shows, matched⟩ := (hit index).mp member
        obtain ⟨slot, atIndex, lookup⟩ := aligned index text shows
        rw [atIndex, bind_some] at holds
        cases shown : type.slots[slot]? with
        | none => simp [shown] at holds
        | some found =>
          rw [shown, elim_some] at holds
          exact ⟨text, mem_listed.mpr ⟨slot, found, lookup, shown, holds⟩, matched⟩
      · rintro ⟨text, listed, matched⟩
        obtain ⟨slot, _, lookup, shows, member⟩ := mem_listed.mp listed
        obtain ⟨index, atIndex⟩ := complete text slot lookup
        obtain ⟨_, bySlot, lookup'⟩ := aligned index text atIndex
        rw [lookup, some.injEq] at lookup'
        subst lookup'
        exact ⟨index, (hit index).mpr ⟨text, atIndex, matched⟩, by simp [bySlot, shows, member]⟩

end

theorem stamp_getElem? (holders : List Owner) (evaluation : Nat) (owners : List OwnerState)
    (owner : Owner) : (stamp holders evaluation owners)[owner]? = owners[owner]?.map fun state =>
      if owner ∈ holders then { state with taken := evaluation } else state := by
  unfold stamp
  induction holders generalizing owners with
  | nil => simp
  | cons holder holders ih =>
    rw [foldl_cons, ih, getElem?_modify]
    cases owners[owner]? with
    | none => rfl
    | some =>
      by_cases same : holder = owner
      · subst same
        by_cases member : holder ∈ holders <;> simp [member]
      · by_cases member : owner ∈ holders <;> simp [member, same, Ne.symm same]

/-! ## The owners' own filters -/

abbrev Declared := Owner → Option (List KeyFilter)

def Takes (re2 : Re2 Regex) (filters : List KeyFilter) (type : Nat) (key : Bytes) : Prop :=
  (∀ filter ∈ filters, filter.type ≠ type) ∨
    ∃ filter ∈ filters, filter.type = type ∧
      ∃ pattern ∈ filter.pattern, re2.matches pattern key = true

structure Serves (re2 : Re2 Regex) (patterns : KeyPatterns Regex) (filters : Declared) : Prop where
  indexed : ∃ declared, Indexed re2 patterns declared ∧
    ∀ owner, ((declared.filter fun filter => filter.1 = owner).map Prod.snd).Perm ((filters owner).getD [])
  live : ∀ owner own, filters owner = some own →
    ∃ state, patterns.owners[owner]? = some state ∧ state.live = true ∧ state.filters = own ∧
      state.types = own.map KeyFilter.type
  dead : ∀ (owner : Owner) state, filters owner = none → patterns.owners[owner]? = some state →
    state.live = false ∧ state.filters = [] ∧ state.types = []
  free : ∀ owner ∈ patterns.freeOwners, filters owner = none ∧ owner < patterns.owners.length
  distinct : patterns.freeOwners.Nodup
  stamped : ∀ (owner : Owner) state, patterns.owners[owner]? = some state → state.taken ≤ patterns.evaluations

variable {filters : Declared}

theorem Serves.empty : Serves re2 ({} : KeyPatterns Regex) fun _ => none where
  indexed := by
    refine ⟨[], ⟨?_, ?_, ?_⟩, ?_⟩
    · intro number _ lookup
      cases lookup
    · intro number
      rfl
    · intro _ _ _
      rfl
    · intro _
      exact .refl _
  live := by simp
  dead := by simp
  free := by simp
  distinct := nodup_nil
  stamped := by simp

theorem Serves.mem_declared {filter : KeyFilter}
    (declares : ((declared.filter fun filter => filter.1 = owner).map Prod.snd).Perm own) :
    (owner, filter) ∈ declared ↔ filter ∈ own := by
  rw [← declares.mem_iff]
  constructor
  · intro member
    exact List.mem_map.mpr ⟨_, mem_filter.mpr ⟨member, by simp⟩, rfl⟩
  · intro member
    obtain ⟨⟨_, _⟩, inside, rfl⟩ := List.mem_map.mp member
    obtain ⟨present, same⟩ := mem_filter.mp inside
    simp only [decide_eq_true_eq] at same
    subst same
    exact present

theorem redeclared {old : List KeyFilter} (new : List KeyFilter)
    (declares : ∀ each, ((declared.filter fun filter => filter.1 = each).map Prod.snd).Perm
      ((filters each).getD [])) (own : (filters owner).getD [] = old) :
    (new.map (owner, ·) ++ declared).Perm (old.map (owner, ·) ++
        (new.map (owner, ·) ++ declared.filter fun filter => filter.1 ≠ owner)) ∧
      ∀ (filters' : Declared), (filters' owner).getD [] = new →
        (∀ each ≠ owner, filters' each = filters each) → ∀ each,
        (((new.map (owner, ·) ++ declared.filter fun filter => filter.1 ≠ owner).filter
          fun filter => filter.1 = each).map Prod.snd).Perm ((filters' each).getD []) := by
  have mine : (declared.filter fun filter => filter.1 = owner).Perm (old.map (owner, ·)) := by
    have named : (declared.filter fun filter => filter.1 = owner) =
        ((declared.filter fun filter => filter.1 = owner).map Prod.snd).map (owner, ·) := by
      rw [List.map_map]
      refine (List.map_id _).symm.trans (map_congr_left ?_)
      intro filter member
      obtain ⟨-, same⟩ := mem_filter.mp member
      simp only [decide_eq_true_eq] at same
      subst same
      rfl
    rw [named, ← own]
    exact (declares owner).map _
  refine ⟨?_, ?_⟩
  · have split : declared.Perm (old.map (owner, ·) ++ declared.filter fun filter => filter.1 ≠ owner) := by
      have parts := (filter_append_perm (fun filter => decide (filter.1 = owner)) declared).symm
      simp only [← decide_not] at parts
      exact parts.trans (mine.append_right _)
    have swap := split.append_left (new.map (owner, ·))
    refine swap.trans ?_
    rw [← append_assoc, ← append_assoc]
    exact (perm_append_comm).append_right _
  · intro _ mine' others each
    rw [filter_append, map_append, List.filter_filter]
    by_cases same : each = owner
    · subst same
      have all : (new.map (each, ·)).filter (fun filter => decide (filter.1 = each)) = new.map (each, ·) := by
        rw [filter_eq_self]
        intro filter member
        obtain ⟨_, -, rfl⟩ := List.mem_map.mp member
        simp
      have none_ : (declared.filter fun filter =>
          decide (filter.1 = each) && decide (filter.1 ≠ each)) = [] := by
        rw [filter_eq_nil_iff]
        simp
      rw [all, none_, mine']
      simp [comp_def]
    · have none_ : (new.map (owner, ·)).filter (fun filter => decide (filter.1 = each)) = [] := by
        rw [filter_eq_nil_iff]
        intro filter member
        obtain ⟨_, -, rfl⟩ := List.mem_map.mp member
        simpa using Ne.symm same
      have rest : (declared.filter fun filter =>
          decide (filter.1 = each) && decide (filter.1 ≠ owner)) =
          declared.filter fun filter => filter.1 = each := by
        refine filter_congr ?_
        intro filter _
        by_cases here : filter.1 = each
        · simp [here, same]
        · simp [here]
      rw [none_, rest, others each same]
      simpa using declares each

/-- One owner's place changed, and nothing at the others'. -/
theorem Serves.atOwner {after : KeyPatterns Regex} {now : OwnerState}
    {declares : Option (List KeyFilter)} (serves : Serves re2 patterns filters)
    (indexed : ∃ declared, Indexed re2 after declared ∧
      ∀ each, ((declared.filter fun filter => filter.1 = each).map Prod.snd).Perm
        ((update filters owner declares each).getD [])) (owners : ∀ each : Nat,
      after.owners[each]? = if each = owner then some now else patterns.owners[each]?)
    (here : now.live = declares.isSome ∧ now.filters = declares.getD [] ∧
      now.types = (declares.getD []).map KeyFilter.type) (free : ∀ each ∈ after.freeOwners,
      each = owner ∧ declares = none ∨ each ≠ owner ∧ each ∈ patterns.freeOwners)
    (distinct : after.freeOwners.Nodup) (evaluations : after.evaluations = patterns.evaluations)
    (stamped : now.taken ≤ patterns.evaluations) :
    Serves re2 after (update filters owner declares) := by
  have own := owners owner
  rw [if_pos rfl] at own
  refine ⟨indexed, ?_, ?_, ?_, distinct, ?_⟩
  · intro each theirs shows
    by_cases same : each = owner
    · subst same
      rw [update_self] at shows
      subst shows
      exact ⟨now, own, here⟩
    · rw [update_of_ne same] at shows
      rw [owners, if_neg same]
      exact serves.live each theirs shows
  · intro each state shows found
    by_cases same : each = owner
    · subst same
      rw [update_self] at shows
      cases own.symm.trans found
      subst shows
      exact here
    · rw [update_of_ne same] at shows
      rw [owners, if_neg same] at found
      exact serves.dead each state shows found
  · intro each member
    obtain ⟨rfl, rfl⟩ | ⟨different, member⟩ := free each member
    · exact ⟨update_self _ _ _, (List.getElem?_eq_some_iff.mp own).1⟩
    · obtain ⟨unowned, inside⟩ := serves.free each member
      have found := owners each
      rw [if_neg different, getElem?_eq_getElem inside] at found
      rw [update_of_ne different]
      exact ⟨unowned, (List.getElem?_eq_some_iff.mp found).1⟩
  · intro each state found
    rw [owners] at found
    rw [evaluations]
    split at found
    · cases found
      exact stamped
    · exact serves.stamped each state found

theorem addOwner_shape (serves : Serves re2 patterns filters) :
    ∃ (owner : Owner) (owners : List OwnerState) (freeOwners : List Owner) (state : OwnerState),
      patterns.addOwner = (owner, { patterns with
        freeOwners
        owners := owners.modify owner fun state => { state with live := true } }) ∧
      filters owner = none ∧ owners[owner]? = some state ∧ state.filters = [] ∧
      state.types = [] ∧ state.taken ≤ patterns.evaluations ∧
      (∀ other ≠ owner, owners[other]? = patterns.owners[other]?) ∧ owner ∉ freeOwners ∧
      (∀ each ∈ freeOwners, each ∈ patterns.freeOwners) ∧ freeOwners.Nodup := by
  obtain ⟨-, live, dead, free, distinct, stamped⟩ := serves
  unfold addOwner
  cases shows : patterns.freeOwners with
  | nil =>
    refine ⟨patterns.owners.length, patterns.owners ++ [({} : OwnerState)], [], {}, rfl, ?_,
      by simp, rfl, rfl, Nat.zero_le _, ?_, by simp, by simp, nodup_nil⟩
    · cases isNone : filters patterns.owners.length with
      | none => rfl
      | some own =>
        obtain ⟨_, found, -⟩ := live _ own isNone
        simp at found
    · intro other different
      rcases Nat.lt_or_gt_of_ne different with inside | past
      · rw [getElem?_append_left inside]
      · have grown : (patterns.owners ++ [({} : OwnerState)]).length ≤ other := by
          rw [length_append]
          exact past
        rw [getElem?_eq_none grown, getElem?_eq_none (Nat.le_of_lt past)]
  | cons owner rest =>
    rw [shows, nodup_cons] at distinct
    obtain ⟨isNone, inside⟩ := free owner (by simp [shows])
    have found := getElem?_eq_getElem inside
    obtain ⟨-, noFilters, noTypes⟩ := dead owner _ isNone found
    exact ⟨owner, patterns.owners, rest, _, rfl, isNone, found, noFilters, noTypes,
      stamped _ _ found, fun _ _ => rfl, distinct.1, fun each member => by simp [member],
      distinct.2⟩

theorem addOwner_serves (serves : Serves re2 patterns filters) : filters patterns.addOwner.1 = none ∧
      Serves re2 patterns.addOwner.2 (update filters patterns.addOwner.1 (some [])) ∧
      ∀ type evaluation, patterns.addOwner.2.takes patterns.addOwner.1 type evaluation = true := by
  obtain ⟨owner, owners, _, state, shape, isNone, found, noFilters, noTypes, old, others,
    nothing, sub, distinct'⟩ := addOwner_shape serves
  obtain ⟨declared, indexed, declares⟩ := serves.indexed
  rw [shape]
  dsimp only
  have modified : ∀ each : Nat, (owners.modify owner fun state =>
      { state with live := true })[each]? = if each = owner then some { state with live := true }
        else patterns.owners[each]? := by
    intro each
    rw [getElem?_modify]
    by_cases same : each = owner
    · subst same
      simp [found]
    · simp [same, Ne.symm same, others each same]
  apply And.intro isNone
  constructor
  · refine serves.atOwner ⟨declared, ⟨indexed.wellFormed, indexed.owners, indexed.listed⟩, ?_⟩
      modified ⟨rfl, noFilters, noTypes⟩ ?_ distinct' rfl old
    · intro each
      by_cases same : each = owner
      · subst same
        simpa [isNone] using declares each
      · simpa [update_of_ne same] using declares each
    · intro each member
      refine .inr ⟨?_, sub each member⟩
      rintro rfl
      exact nothing member
  · intro _ _
    simp only [takes, modified, if_true, noTypes]
    simp

theorem setFilters_refused {error : Bytes}
    (refused : (patterns.setFilters re2 owner own).1 = .error error) :
    (patterns.setFilters re2 owner own).2 = patterns := by
  unfold setFilters at refused ⊢
  split
  · rfl
  · rename_i fresh checked
    simp [checked] at refused

theorem setFilters_serves {old : List KeyFilter} (serves : Serves re2 patterns filters)
    (isLive : filters owner = some old) (accepted : (patterns.setFilters re2 owner own).1 = .ok ()) :
    Serves re2 (patterns.setFilters re2 owner own).2 (update filters owner (some own)) := by
  obtain ⟨declared, indexed, declares⟩ := serves.indexed
  obtain ⟨state, found, lives, sameFilters, -⟩ := serves.live owner old isLive
  unfold setFilters at accepted ⊢
  split
  · rename_i error checked
    simp [checked] at accepted
  · rename_i fresh checked
    have none_ : Compiles re2 (∅ : Compiled Regex) := by
      intro _ _ _ lookup
      cases lookup
    obtain ⟨compiles, -, ready⟩ := checkFilters_spec checked none_
    have taken := @take_indexed _ _ _ _ fresh owner own indexed compiles ready
    obtain ⟨reordered, declares'⟩ :=
      redeclared own declares (by simp [isLive] : (filters owner).getD [] = old)
    have given := giveBack_indexed (taken.perm reordered)
    have oldFilters : (patterns.owners[owner]?.map OwnerState.filters).getD [] = old := by
      simp [found, sameFilters]
    dsimp only
    rw [oldFilters]
    obtain ⟨takeOwners, takeFree, takeEvaluations⟩ := take_owners owner own fresh patterns
    obtain ⟨giveOwners, giveFree, giveEvaluations⟩ :=
      giveBack_owners owner old (patterns.take owner own fresh)
    rw [takeOwners] at giveOwners
    rw [takeFree] at giveFree
    rw [takeEvaluations] at giveEvaluations
    have modified : ∀ each : Nat, (patterns.owners.modify owner fun state =>
        { state with filters := own, types := own.map KeyFilter.type })[each]? =
          if each = owner then
            some { state with filters := own, types := own.map KeyFilter.type }
          else patterns.owners[each]? := by
      intro each
      rw [getElem?_modify]
      by_cases same : each = owner
      · subst same
        simp [found]
      · simp [same, Ne.symm same]
    rw [giveOwners]
    refine serves.atOwner ⟨_, ⟨given.wellFormed, given.owners, given.listed⟩, ?_⟩ modified ⟨lives, rfl, rfl⟩ ?_ ?_
      giveEvaluations (serves.stamped owner state found)
    · exact declares' _ (by simp) fun each different => update_of_ne different _ _
    · intro each member
      rw [giveFree] at member
      refine .inr ⟨?_, member⟩
      rintro rfl
      simp [(serves.free each member).1] at isLive
    · rw [giveFree]
      exact serves.distinct

theorem removeOwner_serves (serves : Serves re2 patterns filters) (owner : Owner) :
    Serves re2 (patterns.removeOwner owner) (update filters owner none) := by
  obtain ⟨_, indexed, declares⟩ := serves.indexed
  unfold removeOwner
  cases own : filters owner with
  | none =>
    have unchanged : update filters owner none = filters := by
      rw [← own, update_eq_self]
    rw [unchanged]
    cases found : patterns.owners[owner]? with
    | none => exact serves
    | some state =>
      obtain ⟨gone, -⟩ := serves.dead owner state own found
      simpa [gone] using serves
  | some old =>
    obtain ⟨_, found, lives, sameFilters, -⟩ := serves.live owner old own
    simp only [found, lives, if_true, sameFilters]
    obtain ⟨reordered, declares'⟩ :=
      redeclared [] declares (by simp [own] : (filters owner).getD [] = old)
    have given := giveBack_indexed (indexed.perm reordered)
    obtain ⟨giveOwners, giveFree, giveEvaluations⟩ := giveBack_owners owner old patterns
    obtain ⟨inside, -⟩ := List.getElem?_eq_some_iff.mp found
    have emptied : ∀ each : Nat, (patterns.owners.set owner {})[each]? =
        if each = owner then some {} else patterns.owners[each]? := by
      intro each
      by_cases same : each = owner
      · subst same
        simp [getElem?_set_self inside]
      · simp [same, getElem?_set_ne (Ne.symm same)]
    rw [giveOwners]
    refine serves.atOwner ⟨_, ⟨given.wellFormed, given.owners, given.listed⟩, ?_⟩ emptied ⟨rfl, rfl, rfl⟩ ?_ ?_
      giveEvaluations (Nat.zero_le _)
    · exact declares' _ (by simp) fun each different => update_of_ne different _ _
    · intro each member
      rw [giveFree] at member
      rcases mem_cons.mp member with rfl | stays
      · exact .inl ⟨rfl, rfl⟩
      · refine .inr ⟨?_, stays⟩
        rintro rfl
        simp [(serves.free each stays).1] at own
    · rw [giveFree]
      refine nodup_cons.mpr ⟨?_, serves.distinct⟩
      intro member
      simp [(serves.free owner member).1] at own

/-! ## Answers -/

def fetch (re2 : Re2 Regex) (how : SetRun) (type : FilteredType Regex) : FilteredType Regex :=
  if type.stale then type.build re2 how.compiles else type

def exactMatch (re2 : Re2 Regex) (type : Nat) (key : Bytes) (how : SetRun)
    (patterns : KeyPatterns Regex) : Bool :=
  ((patterns.types.lookup type).bind fun type => (fetch re2 how type).set).all
    fun texts => how.exactFor re2 texts key

theorem fetch_wellFormed {type : FilteredType Regex} (wellFormed : WellFormed re2 type)
    (how : SetRun) : WellFormed re2 (fetch re2 how type) ∧ (fetch re2 how type).stale = false ∧
      (fetch re2 how type).owners = type.owners ∧
      ∀ at_, (fetch re2 how type).listed at_ = type.listed at_ := by
  unfold fetch
  split
  · exact build_wellFormed wellFormed how.compiles
  · rename_i current
    exact ⟨wellFormed, by simpa using current, rfl, fun _ => rfl⟩

theorem mem_places (literal : re2.Literal)
    (declares : ((declared.filter fun filter => filter.1 = owner).map Prod.snd).Perm own) :
    (.literal key ∈ namedBy declared owner type ∨
        ∃ text, .slot text ∈ namedBy declared owner type ∧ re2.matches text key = true) ↔
      ∃ filter ∈ own, filter.type = type ∧ ∃ pattern ∈ filter.pattern, re2.matches pattern key = true := by
  have named : ∀ at_, at_ ∈ namedBy declared owner type ↔ ∃ filter ∈ own, filter.type = type ∧
      ∃ pattern ∈ filter.pattern, place pattern = at_ := by
    intro at_
    simp only [namedBy, mem_flatMap]
    constructor
    · rintro ⟨⟨other, filter⟩, member, inside⟩
      split at inside
      · rename_i same
        obtain ⟨rfl, rfl⟩ := same
        obtain ⟨pattern, listed, rfl⟩ := List.mem_map.mp inside
        exact ⟨filter, (Serves.mem_declared declares).mp member, rfl, pattern, listed, rfl⟩
      · simp at inside
    · rintro ⟨filter, member, rfl, pattern, listed, rfl⟩
      exact ⟨(owner, filter), (Serves.mem_declared declares).mpr member,
        by simpa using ⟨pattern, listed, rfl⟩⟩
  simp only [named]
  constructor
  · rintro (⟨filter, member, isType, pattern, listed, at_⟩ |
      ⟨text, ⟨filter, member, isType, pattern, listed, at_⟩, matched⟩)
    · refine ⟨filter, member, isType, pattern, listed, ?_⟩
      unfold place at at_
      split at at_
      · rename_i found
        cases at_
        exact (literal pattern key key found).mpr rfl
      · cases at_
    · refine ⟨filter, member, isType, pattern, listed, ?_⟩
      unfold place at at_
      split at at_
      · cases at_
      · cases at_
        exact matched
  · rintro ⟨filter, member, isType, pattern, listed, matched⟩
    cases found : exact pattern with
    | some key' =>
      obtain rfl := (literal pattern key' key found).mp matched
      exact .inl ⟨filter, member, isType, pattern, listed, by simp [place, found]⟩
    | none =>
      exact .inr ⟨pattern, ⟨filter, member, isType, pattern, listed, by simp [place, found]⟩, matched⟩

theorem matchKey_none (serves : Serves re2 patterns filters) (type : Nat) (key : Bytes)
    (how : SetRun) : (patterns.matchKey re2 type key how).1 = none ↔
      ∀ owner own, filters owner = some own → ∀ filter ∈ own, filter.type ≠ type := by
  obtain ⟨⟨declared, indexed, declares⟩, -⟩ := serves
  have users := indexed.owners type
  have answered : (patterns.matchKey re2 type key how).1 = none ↔ patterns.types.lookup type = none := by
    unfold matchKey
    split
    · rename_i absent
      simp [absent]
    · rename_i filtered present
      dsimp only
      split <;> simp [present]
  rw [answered]
  constructor
  · intro absent owner own shows filter member isType
    rw [absent, elim_none, eq_comm, countP_eq_zero] at users
    have inside := (Serves.mem_declared (declares owner)).mpr (by simpa [shows] using member)
    exact users _ inside (by simpa using isType)
  · intro nobody
    cases lookup : patterns.types.lookup type with
    | none => rfl
    | some filtered =>
      have some_ := (indexed.wellFormed type filtered lookup).2
      rw [lookup, elim_some] at users
      rw [users, countP_pos_iff] at some_
      obtain ⟨⟨owner, filter⟩, member, isType⟩ := some_
      have declared' := (Serves.mem_declared (declares owner)).mp member
      cases shows : filters owner with
      | none => simp [shows] at declared'
      | some own =>
        rw [shows, getD_some] at declared'
        exact absurd (by simpa using isType) (nobody owner own shows filter declared')

theorem stamp_append (first second : List Owner) (evaluation : Nat) (owners : List OwnerState) :
    stamp second evaluation (stamp first evaluation owners) = stamp (first ++ second) evaluation owners := by
  simp [stamp, foldl_append]

theorem matchKey_shape {how : SetRun} {filtered : FilteredType Regex}
    (indexed : Indexed re2 patterns declared)
    (exactly : patterns.exactMatch re2 type key how = true)
    (lookup : patterns.types.lookup type = some filtered) : ∃ holders types,
      patterns.matchKey re2 type key how = (some (patterns.evaluations + 1), { patterns with
        types
        evaluations := patterns.evaluations + 1
        owners := stamp holders (patterns.evaluations + 1) patterns.owners }) ∧
      (∀ owner, owner ∈ holders ↔ owner ∈ filtered.listed (.literal key) ∨
        ∃ text, owner ∈ filtered.listed (.slot text) ∧ re2.matches text key = true) ∧
      ∀ declared, Indexed re2 patterns declared →
        Indexed re2 ({ patterns with types } : KeyPatterns Regex) declared := by
  obtain ⟨wellFormed, -⟩ := indexed.wellFormed type filtered lookup
  unfold matchKey
  rw [lookup]
  dsimp only
  split
  · rename_i noSlots
    have noText : ∀ text, filtered.slotByText.lookup text = none := by
      intro _
      rw [List.isEmpty_iff] at noSlots
      have bare : filtered.slotByText = ∅ := AList.ext noSlots
      rw [bare, AList.lookup_empty]
    refine ⟨_, patterns.types, rfl, ?_, fun _ same => same⟩
    intro owner
    constructor
    · exact .inl
    · rintro (listed | ⟨_, listed, -⟩)
      · exact listed
      · obtain ⟨_, -, found, -⟩ := mem_listed.mp listed
        simp [noText] at found
  · obtain ⟨wellFormed', current, sameOwners, sameListed⟩ := fetch_wellFormed wellFormed how
    rw [stamp_append]
    refine ⟨_, _, rfl, ?_, ?_⟩
    · intro _
      have exact' : ∀ texts, (fetch re2 how filtered).set = some texts → how.exactFor re2 texts key = true := by
        intro _ isSet
        simpa [exactMatch, lookup, isSet] using exactly
      rw [mem_append]
      refine or_congr Iff.rfl ((mem_found wellFormed' current exact').trans ?_)
      simp only [sameListed]
    · rintro _ ⟨wellFormeds, owners, listed⟩
      refine ⟨?_, ?_, ?_⟩
      · intro number other found
        by_cases same : number = type
        · subst same
          rw [AList.lookup_insert, some.injEq] at found
          subst found
          obtain ⟨-, some_⟩ := wellFormeds number filtered lookup
          exact ⟨wellFormed', sameOwners ▸ some_⟩
        · rw [AList.lookup_insert_ne same] at found
          exact wellFormeds number other found
      · intro number
        rw [← owners]
        by_cases same : number = type
        · subst same
          rw [AList.lookup_insert, lookup]
          exact sameOwners
        · rw [AList.lookup_insert_ne same]
      · intro number at_ each
        rw [← listed]
        by_cases same : number = type
        · subst same
          rw [AList.lookup_insert, lookup, elim_some, elim_some]
          exact congrArg (List.count each) (sameListed at_)
        · rw [AList.lookup_insert_ne same]

theorem matchKey_some {evaluation : Nat} {how : SetRun} (serves : Serves re2 patterns filters)
    (literal : re2.Literal) (exactly : patterns.exactMatch re2 type key how = true)
    (matched : (patterns.matchKey re2 type key how).1 = some evaluation) :
    evaluation = patterns.evaluations + 1 ∧ Serves re2 (patterns.matchKey re2 type key how).2 filters ∧
      ∀ owner own, filters owner = some own →
        ((patterns.matchKey re2 type key how).2.takes owner type evaluation = true ↔ Takes re2 own type key) := by
  obtain ⟨⟨declared, indexed, declares⟩, live, dead, free, distinct, stamped⟩ := serves
  cases lookup : patterns.types.lookup type with
  | none => simp [matchKey, lookup] at matched
  | some filtered =>
    obtain ⟨holders, _, shape, finds, kept⟩ := matchKey_shape indexed exactly lookup
    have listing : ∀ at_ owner, owner ∈ filtered.listed at_ ↔ at_ ∈ namedBy declared owner type := by
      intro at_ owner
      have count := indexed.listed type at_ owner
      rw [lookup, elim_some] at count
      rw [← count_pos_iff, count, count_pos_iff]
    have states : ∀ owner : Nat, (stamp holders (patterns.evaluations + 1) patterns.owners)[owner]? =
        patterns.owners[owner]?.map fun state =>
          if owner ∈ holders then { state with taken := patterns.evaluations + 1 } else state :=
      fun owner => stamp_getElem? _ _ _ owner
    rw [shape] at matched ⊢
    cases matched
    refine ⟨rfl, ⟨⟨declared, ?_, declares⟩, ?_, ?_, ?_, distinct, ?_⟩, ?_⟩
    · obtain ⟨wellFormeds, owners, listed⟩ := kept declared indexed
      exact ⟨wellFormeds, owners, listed⟩
    · intro owner own shows
      obtain ⟨state, found, lives, sameFilters, sameTypes⟩ := live owner own shows
      dsimp only
      rw [states, found]
      refine ⟨_, rfl, ?_⟩
      split <;> exact ⟨lives, sameFilters, sameTypes⟩
    · intro owner state' shows found'
      dsimp only at found'
      rw [states, map_eq_some_iff] at found'
      obtain ⟨state, found, rfl⟩ := found'
      obtain ⟨gone, noFilters, noTypes⟩ := dead owner state shows found
      split <;> exact ⟨gone, noFilters, noTypes⟩
    · intro owner member
      obtain ⟨isNone, inside⟩ := free owner member
      refine ⟨isNone, ?_⟩
      have present := states owner
      rw [getElem?_eq_getElem inside, map_some] at present
      exact (List.getElem?_eq_some_iff.mp present).1
    · intro owner _ found'
      dsimp only at found' ⊢
      rw [states, map_eq_some_iff] at found'
      obtain ⟨state, found, rfl⟩ := found'
      have before := stamped owner state found
      split
      · exact Nat.le_refl _
      · omega
    · intro owner own shows
      obtain ⟨state, found, -, -, sameTypes⟩ := live owner own shows
      have places := @mem_places _ _ _ owner own type key literal (by simpa [shows] using declares owner)
      simp only [← listing, ← finds] at places
      have before := stamped owner state found
      unfold takes Takes
      dsimp only
      rw [states, found, map_some, ← places]
      dsimp only
      by_cases member : owner ∈ holders
      · simp [member]
      · have older : state.taken ≠ patterns.evaluations + 1 := by omega
        simp [member, older, sameTypes]

/-! ## Histories -/

inductive Call where
  | addOwner
  | setFilters (owner : Owner) (filters : List KeyFilter)
  | removeOwner (owner : Owner)
  | matchKey (type : Nat) (key : Bytes) (how : SetRun)

inductive Reply where
  | added (owner : Owner)
  | set (result : Except Bytes Unit)
  | removed
  | matched (evaluation : Option Nat)

def call (re2 : Re2 Regex) (request : Call) (patterns : KeyPatterns Regex) :
    Option (Reply × KeyPatterns Regex) :=
  match request with
  | .addOwner => some (.added patterns.addOwner.1, patterns.addOwner.2)
  | .setFilters owner own =>
    if (patterns.owners[owner]?).any OwnerState.live then
      let (result, patterns) := patterns.setFilters re2 owner own
      some (.set result, patterns)
    else none
  | .removeOwner owner => some (.removed, patterns.removeOwner owner)
  | .matchKey type key how =>
    if patterns.exactMatch re2 type key how then
      let (evaluation, patterns) := patterns.matchKey re2 type key how
      some (.matched evaluation, patterns)
    else none

def Declared.after (request : Call) (reply : Reply) (filters : Declared) : Declared :=
  match request, reply with
  | .addOwner, .added owner => update filters owner (some [])
  | .setFilters owner own, .set (.ok ()) => update filters owner (some own)
  | .removeOwner owner, _ => update filters owner none
  | _, _ => filters

def run (re2 : Re2 Regex) : List Call → KeyPatterns Regex × Declared →
    Option (KeyPatterns Regex × Declared)
  | [], state => some state
  | request :: requests, (patterns, filters) =>
    (call re2 request patterns).bind fun (reply, after) =>
      run re2 requests (after, filters.after request reply)

theorem Serves.call {request : Call} {reply : Reply} {after : KeyPatterns Regex}
    (literal : re2.Literal) (serves : Serves re2 patterns filters)
    (called : KeyPatterns.call re2 request patterns = some (reply, after)) :
    Serves re2 after (filters.after request reply) := by
  cases request with
  | addOwner =>
    cases called
    exact (addOwner_serves serves).2.1
  | setFilters owner own =>
    simp only [KeyPatterns.call] at called
    split at called
    · rename_i isLive
      simp only [some.injEq, Prod.mk.injEq] at called
      obtain ⟨rfl, rfl⟩ := called
      cases result : (patterns.setFilters re2 owner own).1 with
      | error =>
        rw [setFilters_refused result]
        exact serves
      | ok =>
        obtain ⟨state, found, lives⟩ := (Option.any_eq_true _ _).mp isLive
        cases shows : filters owner with
        | none => simp [(serves.dead owner state shows found).1] at lives
        | some => exact setFilters_serves serves shows result
    · cases called
  | removeOwner owner =>
    cases called
    exact removeOwner_serves serves owner
  | matchKey type key how =>
    simp only [KeyPatterns.call] at called
    split at called
    · rename_i exactly
      simp only [some.injEq, Prod.mk.injEq] at called
      obtain ⟨rfl, rfl⟩ := called
      cases result : (patterns.matchKey re2 type key how).1 with
      | some => exact (matchKey_some serves literal exactly result).2.1
      | none =>
        have unchanged : (patterns.matchKey re2 type key how).2 = patterns := by
          unfold matchKey at result ⊢
          split
          · rfl
          · rename_i filtered lookup
            rw [lookup] at result
            dsimp only at result
            split at result <;> cases result
        rw [unchanged]
        exact serves
    · cases called

theorem Serves.run {requests : List Call} {after : KeyPatterns Regex} {declared : Declared}
    (literal : re2.Literal) (serves : Serves re2 patterns filters)
    (ran : KeyPatterns.run re2 requests (patterns, filters) = some (after, declared)) :
    Serves re2 after declared := by
  induction requests generalizing patterns filters with
  | nil =>
    cases ran
    exact serves
  | cons _ _ ih =>
    obtain ⟨⟨_, _⟩, called, ran⟩ := bind_eq_some_iff.mp ran
    exact ih (serves.call literal called) ran

/-- Whatever calls came before: a match answers for each owner as its own filters do,
however RE2 found the answer; it finds the type unfiltered when no owner filters it; a
request refused changes nothing; and a number handed out brings no filters. -/
theorem key_filters_decide_exactly {requests : List Call} (literal : re2.Literal)
    (ran : run re2 requests ({}, fun _ => none) = some (patterns, filters)) :
    (∀ type key how evaluation after,
      call re2 (.matchKey type key how) patterns = some (.matched (some evaluation), after) →
      ∀ owner own, filters owner = some own → (after.takes owner type evaluation = true ↔ Takes re2 own type key)) ∧
      (∀ type key how evaluation after,
        call re2 (.matchKey type key how) patterns = some (.matched evaluation, after) →
        (evaluation = none ↔ ∀ owner own, filters owner = some own → ∀ filter ∈ own, filter.type ≠ type)) ∧
      (∀ type key how how' evaluation evaluation' after after',
        call re2 (.matchKey type key how) patterns = some (.matched evaluation, after) →
        call re2 (.matchKey type key how') patterns = some (.matched evaluation', after') →
        evaluation = evaluation' ∧ ∀ owner own number, filters owner = some own → evaluation = some number →
          after.takes owner type number = after'.takes owner type number) ∧
      (∀ owner own error after, call re2 (.setFilters owner own) patterns = some (.set (.error error), after) →
        after = patterns) ∧
      (∀ owner after, call re2 .addOwner patterns = some (.added owner, after) →
        filters owner = none ∧ ∀ type evaluation, after.takes owner type evaluation = true) := by
  have serves := Serves.empty.run literal ran
  have answers : ∀ type key how evaluation after,
      call re2 (.matchKey type key how) patterns = some (.matched (some evaluation), after) →
      evaluation = patterns.evaluations + 1 ∧ ∀ owner own, filters owner = some own →
        (after.takes owner type evaluation = true ↔ Takes re2 own type key) := by
    intro type key how evaluation after called
    simp only [call] at called
    split at called
    · rename_i exactly
      simp only [some.injEq, Prod.mk.injEq, Reply.matched.injEq] at called
      obtain ⟨result, rfl⟩ := called
      obtain ⟨number, -, takes⟩ := matchKey_some serves literal exactly result
      exact ⟨number, takes⟩
    · cases called
  have unfiltered : ∀ type key how evaluation after,
      call re2 (.matchKey type key how) patterns = some (.matched evaluation, after) →
      (evaluation = none ↔ ∀ owner own, filters owner = some own → ∀ filter ∈ own, filter.type ≠ type) := by
    intro type key how evaluation after called
    simp only [call] at called
    split at called
    · simp only [some.injEq, Prod.mk.injEq, Reply.matched.injEq] at called
      obtain ⟨rfl, -⟩ := called
      exact matchKey_none serves type key how
    · cases called
  refine ⟨fun type key how evaluation after called =>
    (answers type key how evaluation after called).2, unfiltered, ?_, ?_, ?_⟩
  · intro _ _ _ _ evaluation evaluation' after _ first second
    have same : evaluation = none ↔ evaluation' = none :=
      (unfiltered _ _ _ _ _ first).trans (unfiltered _ _ _ _ _ second).symm
    cases evaluation with
    | none => exact ⟨(same.mp rfl).symm, nofun⟩
    | some =>
      cases evaluation' with
      | none => exact absurd (same.mpr rfl) nofun
      | some =>
        obtain ⟨rfl, takes⟩ := answers _ _ _ _ _ first
        obtain ⟨rfl, takes'⟩ := answers _ _ _ _ _ second
        refine ⟨rfl, ?_⟩
        rintro owner own _ shows ⟨⟩
        rw [Bool.eq_iff_iff, takes owner own shows, takes' owner own shows]
  · intro owner _ _ after called
    simp only [call] at called
    split at called
    · simp only [some.injEq, Prod.mk.injEq, Reply.set.injEq] at called
      obtain ⟨result, rfl⟩ := called
      exact setFilters_refused result
    · cases called
  · intro _ _ called
    cases called
    obtain ⟨isNone, -, takes⟩ := addOwner_serves serves
    exact ⟨isNone, takes⟩

def plainRe2 : Re2 (Option Bytes) where
  compile pattern :=
    match exact pattern with
    | some literal => .ok (some literal)
    | none => if pattern = text ".*" then .ok none else .error (text "unexpected")
  programSize _ := 1
  fullMatch regex key := regex.elim true (· == key)

theorem plainRe2_literal : plainRe2.Literal := by
  intro _ _ _ found
  simp only [Re2.matches, plainRe2, found, elim_some, beq_iff_eq]
  exact eq_comm

def twoOwners : List Call :=
  [.addOwner, .addOwner, .setFilters 0 [⟨100, [text "acme"]⟩], .setFilters 1 [⟨100, [text ".*"]⟩],
    .matchKey 100 (text "acme") ⟨fun _ => true, some [0]⟩]

theorem key_filters_decide_exactly_twoOwners :
    ∃ patterns filters, run plainRe2 twoOwners ({}, fun _ => none) = some (patterns, filters) ∧
      filters 0 = some [⟨100, [text "acme"]⟩] ∧
      ∀ how evaluation after, call plainRe2 (.matchKey 100 (text "other") how) patterns =
          some (.matched (some evaluation), after) →
        (after.takes 0 100 evaluation = true ↔ Takes plainRe2 [⟨100, [text "acme"]⟩] 100 (text "other")) := by
  have ran : run plainRe2 twoOwners ({}, fun _ => none) = some _ := rfl
  refine ⟨_, _, ran, rfl, ?_⟩
  intro _ _ _ called
  exact (key_filters_decide_exactly plainRe2_literal ran).1 _ _ _ _ _ called 0 _ rfl

end KeyPatterns

end Multiplexer.Server
