import Multiplexer.Wire.Message
import Mathlib.Algebra.Order.Ring.Nat
import Mathlib.Data.List.AList

/-! The server's side of key filters: the patterns its peers declare per message type for the keys
they take, each compiled once, and the matching of a message's key against them. -/

set_option autoImplicit false

namespace Multiplexer.Server

abbrev Bytes := List UInt8

def text (string : String) : Bytes := string.toList.map fun char => UInt8.ofNat char.toNat

def decimal (number : Nat) : Bytes := text (toString number)

structure KeyFilter where
  type : Nat
  pattern : List Bytes
deriving DecidableEq

abbrev Owner := Nat

def NO_OWNER : Owner := 0xffffffff

/-- RE2: a pattern compiled, or why it does not compile, the size of its program, and
whether it matches a key whole. -/
structure Re2 (Regex : Type) where
  compile : Bytes → Except Bytes Regex
  programSize : Regex → Nat
  fullMatch : Regex → Bytes → Bool

namespace KeyPatterns

/-! ## Exact keys -/

def asciiWordCharacter (character : UInt8) : Bool :=
  (48 ≤ character && character ≤ 57) || (97 ≤ character && character ≤ 122) ||
    (65 ≤ character && character ≤ 90) || character == 95

def operators : Bytes := text ".+*?()|[]\x7b\x7d^$"

def exact : Bytes → Option Bytes
  | [] => some []
  | character :: rest =>
    if character = 0 ∨ 0x80 ≤ character then none
    else if character = 92 then
      match rest with
      | [] => none
      | escaped :: rest =>
        if escaped = 0 ∨ 0x80 ≤ escaped ∨ asciiWordCharacter escaped then none
        else (exact rest).map (escaped :: ·)
    else if character ∈ operators then none
    else (exact rest).map (character :: ·)

/-! ## One message type's filters -/

structure Pattern (Regex : Type) where
  text : Bytes := []
  regex : Option Regex := none
  holders : List Owner := []

/-- One message type's filters (`KeyPatterns::Type`). -/
structure FilteredType (Regex : Type) where
  exact : AList (fun _ : Bytes => List Owner) := ∅
  slots : List (Pattern Regex) := []
  -- a stack, its top first
  freeSlots : List Nat := []
  slotByText : AList (fun _ : Bytes => Nat) := ∅
  -- the texts added to the set, by its index
  set : Option (List Bytes) := none
  slotByIndex : List Nat := []
  stale : Bool := true
  owners : Nat := 0

abbrev Compiled (Regex : Type) := AList fun _ : Nat × Bytes => Regex

def SET_BYTES_PER_INSTRUCTION : Nat := 128
def SET_MAX_MEM : Nat := 2 ^ 30

def DEFAULT_MAX_MEM : Nat := 8 * 2 ^ 20

def setBudget (instructions : Nat) : Nat :=
  min SET_MAX_MEM (max DEFAULT_MAX_MEM (SET_BYTES_PER_INSTRUCTION * instructions))

def removeOne (owners : List Owner) (owner : Owner) : Option (List Owner) :=
  (owners.idxOf? owner).map fun index =>
    (owners.set index (owners.getLastD owner)).dropLast

structure SetRun where
  compiles : Nat → Bool
  hits : Option (List Nat)

namespace FilteredType

variable {Regex : Type}

/-- Whether the set compiles in one of the attempts left, each with twice the memory. -/
def attempts (compiles : Nat → Bool) : Nat → Nat → Nat → Bool
  | 0, _, _ => false
  | left + 1, budget, tried =>
    if budget > tried then
      compiles budget || attempts compiles left (min SET_MAX_MEM (2 * budget)) budget
    else false

def used (type : FilteredType Regex) : List (Nat × Pattern Regex) :=
  (type.slots.zipIdx.filter fun slot => slot.1.regex.isSome).map Prod.swap

def instructions (re2 : Re2 Regex) (type : FilteredType Regex) : Nat :=
  (type.slots.filterMap fun slot => slot.regex.map fun regex => re2.programSize regex + 1).sum

/-- Builds the set again from the slots in use. -/
def build (re2 : Re2 Regex) (compiles : Nat → Bool) (type : FilteredType Regex) : FilteredType Regex :=
  let type := { type with stale := false, slotByIndex := [], set := none }
  if type.slotByText.entries.isEmpty then type
  else if attempts compiles 2 (setBudget (type.instructions re2)) 0 then
    { type with
      set := some (type.used.map fun slot => slot.2.text)
      slotByIndex := type.used.map Prod.fst }
  else type

def hold (slot : Nat) (owner : Owner) (type : FilteredType Regex) : FilteredType Regex :=
  { type with
    slots := type.slots.modify slot fun pattern =>
      { pattern with holders := pattern.holders ++ [owner] } }

/-- A slot for a pattern new to the type: one given back, else a new one. -/
def freshSlot (type : FilteredType Regex) : Nat × FilteredType Regex :=
  match type.freeSlots with
  | [] => (type.slots.length, { type with slots := type.slots ++ [{}] })
  | slot :: rest => (slot, { type with freeSlots := rest })

/-- Adds `owner` to what one pattern of a filter of `number` names. -/
def takePattern (fresh : Compiled Regex) (number : Nat) (owner : Owner)
    (type : FilteredType Regex) (pattern : Bytes) : FilteredType Regex :=
  match KeyPatterns.exact pattern with
  | some key =>
    { type with exact := type.exact.insert key ((type.exact.lookup key).getD [] ++ [owner]) }
  | none =>
    match type.slotByText.lookup pattern with
    | some slot => type.hold slot owner
    | none =>
      let (slot, type) := type.freshSlot
      hold slot owner
        { type with
          slots := type.slots.modify slot fun found =>
            { found with text := pattern, regex := fresh.lookup (number, pattern) }
          slotByText := type.slotByText.insert pattern slot
          stale := true }

def giveBackPattern (owner : Owner) (type : FilteredType Regex) (pattern : Bytes) :
    FilteredType Regex :=
  match KeyPatterns.exact pattern with
  | some key =>
    match type.exact.lookup key with
    | none => type
    | some owners =>
      match removeOne owners owner with
      | none => type
      | some [] => { type with exact := type.exact.erase key }
      | some left => { type with exact := type.exact.insert key left }
  | none =>
    match type.slotByText.lookup pattern with
    | none => type
    | some slot =>
      match (type.slots[slot]?).bind fun found => removeOne found.holders owner with
      | none => type
      | some [] =>
        { type with
          freeSlots := slot :: type.freeSlots
          slots := type.slots.set slot {}
          slotByText := type.slotByText.erase pattern
          stale := true }
      | some left =>
        { type with slots := type.slots.modify slot fun found => { found with holders := left } }

end FilteredType

/-- An owner number: whether it is a peer's, the match that last found its filter taking
the key, the types it filters and its filters. -/
structure OwnerState where
  live : Bool := false
  taken : Nat := 0
  types : List Nat := []
  filters : List KeyFilter := []
deriving DecidableEq

end KeyPatterns

open KeyPatterns in
structure KeyPatterns (Regex : Type) where
  types : AList (fun _ : Nat => FilteredType Regex) := ∅
  owners : List OwnerState := []
  -- a stack, its top first
  freeOwners : List Owner := []
  evaluations : Nat := 0

namespace KeyPatterns

variable {Regex : Type}

def addOwner (patterns : KeyPatterns Regex) : Owner × KeyPatterns Regex :=
  let (owner, patterns) :=
    match patterns.freeOwners with
    | [] => (patterns.owners.length, { patterns with owners := patterns.owners ++ [({} : OwnerState)] })
    | owner :: rest => (owner, { patterns with freeOwners := rest })
  (owner,
    { patterns with
      owners := patterns.owners.modify owner fun state => { state with live := true } })

def takeFilter (fresh : Compiled Regex) (owner : Owner) (patterns : KeyPatterns Regex)
    (filter : KeyFilter) : KeyPatterns Regex :=
  let type := (patterns.types.lookup filter.type).getD {}
  let type := { type with owners := type.owners + 1 }
  { patterns with
    types := patterns.types.insert filter.type
      (filter.pattern.foldl (FilteredType.takePattern fresh filter.type owner) type) }

/-- Adds `owner` to what `filters` name, the patterns new to their types from `fresh`. -/
def take (owner : Owner) (filters : List KeyFilter) (fresh : Compiled Regex)
    (patterns : KeyPatterns Regex) : KeyPatterns Regex :=
  filters.foldl (takeFilter fresh owner) patterns

def giveBackFilter (owner : Owner) (patterns : KeyPatterns Regex) (filter : KeyFilter) :
    KeyPatterns Regex :=
  match patterns.types.lookup filter.type with
  | none => patterns
  | some type =>
    let type := filter.pattern.foldl (FilteredType.giveBackPattern owner) type
    match type.owners with
    | 1 => { patterns with types := patterns.types.erase filter.type }
    | owners =>
      { patterns with
        types := patterns.types.insert filter.type { type with owners := owners - 1 } }

/-- Removes `owner` from what `filters` name, once for each place `take` added it. -/
def giveBack (owner : Owner) (filters : List KeyFilter) (patterns : KeyPatterns Regex) : KeyPatterns Regex :=
  filters.foldl (giveBackFilter owner) patterns

def removeOwner (owner : Owner) (patterns : KeyPatterns Regex) : KeyPatterns Regex :=
  match patterns.owners[owner]? with
  | none => patterns
  | some state =>
    if state.live then
      let patterns := patterns.giveBack owner state.filters
      { patterns with
        owners := patterns.owners.set owner {}
        freeOwners := owner :: patterns.freeOwners }
    else patterns

/-! ## What a peer may declare -/

def protocolTypeError (type : Nat) : Bytes :=
  text "a key filter for message type " ++ decimal type ++ text ", a protocol type"

def twoFiltersError (type : Nat) : Bytes := text "two key filters for message type " ++ decimal type

def patternSizeError (size type : Nat) : Bytes :=
  text "a key pattern of " ++ decimal size ++ text " bytes for message type " ++ decimal type ++
    text ", over the limit of " ++ decimal MAX_KEY_PATTERN_SIZE ++ text " (MAX_KEY_PATTERN_SIZE)"

def compileError (pattern : Bytes) (type : Nat) (error : Bytes) : Bytes :=
  text "the key pattern \"" ++ pattern ++ text "\" for message type " ++ decimal type ++
    text " does not compile: " ++ error

/-- The patterns of one filter of `type`: those new to it compiled, or why one is
refused. -/
def checkPatterns (re2 : Re2 Regex) (known : Option (FilteredType Regex)) (type : Nat) :
    List Bytes → Compiled Regex → Except Bytes (Compiled Regex)
  | [], compiled => .ok compiled
  | pattern :: rest, compiled =>
    if pattern.length > MAX_KEY_PATTERN_SIZE then .error (patternSizeError pattern.length type)
    else if (exact pattern).isSome ∨
        (known.bind fun known => known.slotByText.lookup pattern).isSome ∨
        (compiled.lookup (type, pattern)).isSome then
      checkPatterns re2 known type rest compiled
    else
      match re2.compile pattern with
      | .error error => .error (compileError pattern type error)
      | .ok regex => checkPatterns re2 known type rest (compiled.insert (type, pattern) regex)

def checkFilters (re2 : Re2 Regex) (patterns : KeyPatterns Regex) :
    List KeyFilter → List Nat → Compiled Regex → Except Bytes (Compiled Regex)
  | [], _, compiled => .ok compiled
  | filter :: rest, seen, compiled =>
    if filter.type ≤ types.MAX_MULTIPLEXER_META_PACKET then
      .error (protocolTypeError filter.type)
    else if filter.type ∈ seen then .error (twoFiltersError filter.type)
    else
      match checkPatterns re2 (patterns.types.lookup filter.type) filter.type filter.pattern
        compiled with
      | .error error => .error error
      | .ok compiled => checkFilters re2 patterns rest (filter.type :: seen) compiled

/-- Replaces `owner`'s filters whole, or says why not and changes nothing. -/
def setFilters (re2 : Re2 Regex) (owner : Owner) (filters : List KeyFilter)
    (patterns : KeyPatterns Regex) : Except Bytes Unit × KeyPatterns Regex :=
  match checkFilters re2 patterns filters [] ∅ with
  | .error error => (.error error, patterns)
  | .ok fresh =>
    let old := (patterns.owners[owner]?.map OwnerState.filters).getD []
    let patterns := (patterns.take owner filters fresh).giveBack owner old
    (.ok (),
      { patterns with
        owners := patterns.owners.modify owner fun state =>
          { state with filters, types := filters.map KeyFilter.type } })

/-! ## Matching -/

def stamp (holders : List Owner) (evaluation : Nat) (owners : List OwnerState) : List OwnerState :=
  holders.foldl
    (fun owners owner => owners.modify owner fun state => { state with taken := evaluation }) owners

/-- The holders of the patterns that take `key`, each matched alone. -/
def oneByOne (re2 : Re2 Regex) (key : Bytes) (type : FilteredType Regex) : List Owner :=
  type.slots.flatMap fun slot =>
    match slot.regex with
    | some regex => if re2.fullMatch regex key then slot.holders else []
    | none => []

/-- The holders of the patterns that take `key`. -/
def found (re2 : Re2 Regex) (key : Bytes) (run : SetRun) (type : FilteredType Regex) :
    List Owner :=
  match type.set, run.hits with
  | some _, some hits =>
    hits.flatMap fun index =>
      ((type.slotByIndex[index]?).bind fun slot => type.slots[slot]?).elim [] Pattern.holders
  | _, _ => oneByOne re2 key type

/-- Matches `key` against the filters of `type`, stamping the owners that take it. -/
def matchKey (re2 : Re2 Regex) (type : Nat) (key : Bytes) (run : SetRun)
    (patterns : KeyPatterns Regex) : Option Nat × KeyPatterns Regex :=
  match patterns.types.lookup type with
  | none => (none, patterns)
  | some filtered =>
    let now := patterns.evaluations + 1
    let owners := stamp ((filtered.exact.lookup key).getD []) now patterns.owners
    if filtered.slotByText.entries.isEmpty then
      (some now, { patterns with evaluations := now, owners })
    else
      let filtered := if filtered.stale then filtered.build re2 run.compiles else filtered
      (some now,
        { patterns with
          evaluations := now
          owners := stamp (found re2 key run filtered) now owners
          types := patterns.types.insert type filtered })

/-- Whether `owner` takes the key that match `evaluation` was for. -/
def takes (patterns : KeyPatterns Regex) (owner : Owner) (type evaluation : Nat) : Bool :=
  match patterns.owners[owner]? with
  | none => true
  | some state => state.taken == evaluation || !state.types.contains type

end KeyPatterns

end Multiplexer.Server
