import Mathlib.Data.List.Basic

/-! A multiplexer's address as text, `host:port` or `[address]:port`. A text is its characters,
found and cut by the offsets of their bytes; a cut off a character's bounds is a panic. -/

set_option autoImplicit false

namespace Multiplexer.Endpoint

open List Option

abbrev Text := List Char

/-! ## Texts by their bytes -/

def bytes (text : Text) : List UInt8 := text.flatMap String.utf8EncodeChar

def find (wanted : Char) : Text → Option Nat
  | [] => none
  | char :: rest => if char = wanted then some 0 else (find wanted rest).map (· + char.utf8Size)

/-- What stands before the offset and from it on; none where a slice there panics. -/
def cutAt : Text → Nat → Option (Text × Text)
  | text, 0 => some ([], text)
  | [], _ + 1 => none
  | char :: rest, offset + 1 =>
    if char.utf8Size ≤ offset + 1 then
      (cutAt rest (offset + 1 - char.utf8Size)).map fun cut => (char :: cut.1, cut.2)
    else none

/-! ## Reading and printing -/

def refuse {α : Type} (text : Text) (why : String) : Except String α :=
  let text := String.ofList text
  .error s!"'{text}': {why}"

def portDigits (text : Text) : List UInt8 → Nat → Except String UInt16
  | [], value => .ok (UInt16.ofNat value)
  | digit :: rest, value =>
    if 48 ≤ digit ∧ digit ≤ 57 then
      let value := value * 10 + (digit.toNat - 48)
      if value > 65535 then refuse text "the port is a number from 0 to 65535"
      else portDigits text rest value
    else refuse text "the port is a number from 0 to 65535"

def portNumber (text port : Text) : Except String UInt16 :=
  if port.isEmpty then refuse text "no port after the colon" else portDigits text (bytes port) 0

/-- The end of `parse_endpoint`, once the host and the colon before the port are known; none when
it panics. -/
def withPort (text host : Text) (colon : Nat) (defaultPort : Option UInt16) :
    Option (Except String (Text × UInt16)) :=
  if colon = (bytes text).length then
    match defaultPort with
    | some port => some (.ok (host, port))
    | none => some (refuse text "no port: host:port, or [address]:port for an IPv6 address")
  else
    (cutAt text (colon + 1)).map fun cut => (portNumber text cut.2).map fun port => (host, port)

/-- `parse_endpoint` of a text that is a bracket and `rest`. -/
def parseBracketed (text rest : Text) (defaultPort : Option UInt16) :
    Option (Except String (Text × UInt16)) :=
  match find ']' rest with
  | none => some (refuse text "no ] after the IPv6 address")
  | some close =>
    (cutAt rest close).bind fun cut =>
      if ':' ∉ cut.1 ∨ '[' ∈ cut.1 then some (refuse text "brackets hold an IPv6 address")
      else if close + 2 < (bytes text).length then
        (bytes text)[close + 2]?.bind fun byte =>
          if byte ≠ 58 then some (refuse text "only :port may follow the ]")
          else withPort text cut.1 (close + 2) defaultPort
      else withPort text cut.1 (close + 2) defaultPort

def parsePlain (text : Text) (defaultPort : Option UInt16) : Option (Except String (Text × UInt16)) :=
  if '[' ∈ text ∨ ']' ∈ text then
    some (refuse text "brackets go around an IPv6 address, at the start")
  else
    match find ':' text with
    | some found =>
      (cutAt text (found + 1)).bind fun cut =>
        if ':' ∈ cut.2 then some (refuse text "an IPv6 address goes in brackets, as in [::1]:1980")
        else (cutAt text found).bind fun cut => withPort text cut.1 found defaultPort
    | none =>
      (cutAt text (bytes text).length).bind fun cut =>
        withPort text cut.1 (bytes text).length defaultPort

def parseEndpoint (text : Text) (defaultPort : Option UInt16) : Option (Except String (Text × UInt16)) :=
  match text with
  | [] => some (refuse text "no address")
  | first :: rest => if first = '[' then parseBracketed text rest defaultPort else parsePlain text defaultPort

def formatEndpoint (host : Text) (port : UInt16) : Text :=
  if ':' ∈ host then '[' :: host ++ ']' :: ':' :: Nat.toDigits 10 port.toNat
  else host ++ ':' :: Nat.toDigits 10 port.toNat

/-! ## Offsets -/

@[simp] theorem bytes_append (first second : Text) : bytes (first ++ second) = bytes first ++ bytes second :=
  flatMap_append

@[simp] theorem bytes_cons (char : Char) (rest : Text) :
    bytes (char :: rest) = String.utf8EncodeChar char ++ bytes rest := rfl

theorem cutAt_append (first second : Text) :
    cutAt (first ++ second) (bytes first).length = some (first, second) := by
  induction first with
  | nil => cases second <;> rfl
  | cons char first ih =>
    have positive := char.utf8Size_pos
    have length : (bytes (char :: first)).length = (bytes first).length + char.utf8Size - 1 + 1 := by
      simp only [bytes_cons, length_append, String.length_utf8EncodeChar]
      omega
    rw [length, cons_append, cutAt, if_pos (by omega)]
    rw [show (bytes first).length + char.utf8Size - 1 + 1 - char.utf8Size = (bytes first).length by
      omega, ih]
    rfl

theorem find_append {wanted : Char} {first : Text} (absent : wanted ∉ first) (rest : Text) :
    find wanted (first ++ wanted :: rest) = some (bytes first).length := by
  induction first with
  | nil => simp [find, bytes]
  | cons _ _ ih =>
    simp only [mem_cons, not_or] at absent
    rw [cons_append, find, if_neg (Ne.symm absent.1), ih absent.2]
    simp [Nat.add_comm]

theorem find_some {wanted : Char} {text : Text} {offset : Nat} (found : find wanted text = some offset) :
    ∃ first rest, text = first ++ wanted :: rest ∧ wanted ∉ first ∧ offset = (bytes first).length := by
  induction text generalizing offset with
  | nil => cases found
  | cons char rest ih =>
    unfold find at found
    split at found
    · rename_i same
      cases found
      exact ⟨[], rest, by rw [same]; rfl, not_mem_nil, rfl⟩
    · rename_i other
      obtain ⟨_, there, rfl⟩ := map_eq_some_iff.mp found
      obtain ⟨first, more, rfl, absent, rfl⟩ := ih there
      refine ⟨char :: first, more, rfl, ?_, by simp [Nat.add_comm]⟩
      simp [Ne.symm other, absent]

theorem eq_colon {char : Char} {rest : Text} (first : (bytes (char :: rest))[0]? = some 58) :
    char = ':' := by
  have value : char.val.toNat = 58 := by
    rw [bytes_cons, String.utf8EncodeChar] at first
    split at first
    on_goal 2 => split at first
    on_goal 3 => split at first
    all_goals
      have byte := congrArg UInt8.toNat (some.inj first)
      simp only [UInt8.toNat_ofNat', UInt8.toNat_ofNat] at byte
      omega
  exact Char.ext (UInt32.toNat_inj.mp value)

/-! ## The port -/

theorem portDigits_digits (text : Text) {digits : Text} (digital : ∀ digit ∈ digits, digit.isDigit = true)
    {value : Nat} (small : Nat.ofDigitChars 10 digits value ≤ 65535) :
    portDigits text (bytes digits) value = .ok (UInt16.ofNat (Nat.ofDigitChars 10 digits value)) := by
  induction digits generalizing value with
  | nil => rfl
  | cons digit digits ih =>
    obtain ⟨own, others⟩ := forall_mem_cons.mp digital
    have range : 48 ≤ digit.val.toNat ∧ digit.val.toNat ≤ 57 := by
      simpa [Char.isDigit, UInt32.le_iff_toNat_le] using own
    have byte : (UInt8.ofNat digit.val.toNat).toNat = digit.val.toNat := by
      rw [UInt8.toNat_ofNat']
      omega
    have encoded : bytes (digit :: digits) = UInt8.ofNat digit.val.toNat :: bytes digits := by
      rw [bytes_cons, String.utf8EncodeChar, if_pos (by omega)]
      rfl
    have next : Nat.ofDigitChars 10 (digit :: digits) value =
        Nat.ofDigitChars 10 digits (value * 10 + (digit.val.toNat - 48)) := by
      rw [Nat.ofDigitChars_cons, Nat.mul_comm]
      rfl
    rw [next] at small ⊢
    have grows : value * 10 + (digit.val.toNat - 48) ≤
        Nat.ofDigitChars 10 digits (value * 10 + (digit.val.toNat - 48)) := by
      rw [Nat.ofDigitChars_eq_ofDigitChars_zero]
      have positive : 0 < 10 ^ digits.length := Nat.pow_pos (by decide)
      exact Nat.le_trans (Nat.le_mul_of_pos_left _ positive) (Nat.le_add_right _ _)
    rw [encoded, portDigits, if_pos (by simp only [UInt8.le_iff_toNat_le, byte]; exact range), byte,
      if_neg (by omega)]
    exact ih others small

theorem portNumber_digits (text : Text) (port : UInt16) :
    portNumber text (Nat.toDigits 10 port.toNat) = .ok port := by
  have small : Nat.ofDigitChars 10 (Nat.toDigits 10 port.toNat) 0 ≤ 65535 := by
    rw [Nat.ofDigitChars_ten_toDigits]
    exact Nat.le_of_lt_succ port.toNat_lt
  rw [portNumber, if_neg (by simp [Nat.toDigits_ne_nil]), portDigits_digits text _ small,
    Nat.ofDigitChars_ten_toDigits, UInt16.ofNat_toNat]
  exact fun digit member => Nat.isDigit_of_mem_toDigits (by decide) (by decide) member

theorem cutAt_past (before after : Text) :
    cutAt (before ++ ':' :: after) ((bytes before).length + 1) = some (before ++ [':'], after) := by
  have cut := cutAt_append (before ++ [':']) after
  rw [bytes_append, length_append, append_assoc] at cut
  exact cut

theorem withPort_colon (before host port : Text) (defaultPort : Option UInt16) :
    withPort (before ++ ':' :: port) host (bytes before).length defaultPort =
      some ((portNumber (before ++ ':' :: port) port).map fun port => (host, port)) := by
  have longer : (bytes before).length ≠ (bytes (before ++ ':' :: port)).length := by
    rw [bytes_append, bytes_cons, length_append, length_append, String.length_utf8EncodeChar]
    have positive := ':'.utf8Size_pos
    omega
  unfold withPort
  rw [if_neg longer, cutAt_past]
  rfl

/-! ## The two forms -/

theorem refuse_ne_ok {α : Type} (text : Text) (why : String) (result : α) :
    refuse text why ≠ .ok result := nofun

/-- With the colon where the text ends or has one, `withPort` does not panic, and gives that host. -/
theorem withPort_host {text host : Text} {colon : Nat} {defaultPort : Option UInt16}
    (placed : colon = (bytes text).length ∨
      ∃ before port, text = before ++ ':' :: port ∧ colon = (bytes before).length) :
    ∃ result, withPort text host colon defaultPort = some result ∧
      ∀ each port, result = .ok (each, port) → each = host := by
  rcases placed with rfl | ⟨before, port, rfl, rfl⟩
  · unfold withPort
    rw [if_pos rfl]
    cases defaultPort with
    | none => exact ⟨_, rfl, fun each port told => absurd told (refuse_ne_ok _ _ _)⟩
    | some port =>
      refine ⟨_, rfl, fun each port told => ?_⟩
      cases told
      rfl
  · refine ⟨_, withPort_colon before host port defaultPort, fun each number told => ?_⟩
    cases read : portNumber (before ++ ':' :: port) port with
    | error =>
      rw [read] at told
      cases told
    | ok =>
      rw [read] at told
      cases told
      rfl

theorem parseEndpoint_cons (first : Char) (rest : Text) (defaultPort : Option UInt16) :
    parseEndpoint (first :: rest) defaultPort =
      if first = '[' then parseBracketed (first :: rest) rest defaultPort
      else parsePlain (first :: rest) defaultPort := rfl

theorem parseEndpoint_plain {text : Text} (plain : '[' ∉ text) (some : text ≠ [])
    (defaultPort : Option UInt16) : parseEndpoint text defaultPort = parsePlain text defaultPort := by
  cases text with
  | nil => exact absurd rfl some
  | cons =>
    rw [parseEndpoint_cons, if_neg]
    intro bracket
    exact plain (bracket ▸ mem_cons_self)

theorem bytes_bracketed (host : Text) : (bytes ('[' :: (host ++ [']']))).length = (bytes host).length + 2 := by
  simp only [bytes_cons, bytes_append, length_append]
  rw [Nat.add_comm, Nat.add_assoc]
  rfl

theorem parse_format {host : Text} (plain : '[' ∉ host ∧ ']' ∉ host) (port : UInt16)
    (defaultPort : Option UInt16) :
    parseEndpoint (formatEndpoint host port) defaultPort = some (.ok (host, port)) := by
  have digital : ∀ char ∈ Nat.toDigits 10 port.toNat, char.isDigit = true :=
    fun char member => Nat.isDigit_of_mem_toDigits (by decide) (by decide) member
  have absent : ∀ char : Char, char.isDigit = false → char ∉ Nat.toDigits 10 port.toNat := by
    intro char other member
    cases (digital char member).symm.trans other
  unfold formatEndpoint
  split
  · rename_i address
    have whole : '[' :: (host ++ ']' :: ':' :: Nat.toDigits 10 port.toNat) =
        ('[' :: (host ++ [']'])) ++ ':' :: Nat.toDigits 10 port.toNat := by simp
    have byte : (bytes ('[' :: (host ++ ']' :: ':' :: Nat.toDigits 10 port.toNat)))[(bytes host).length + 2]? =
        some 58 := by
      rw [whole, bytes_append, ← bytes_bracketed, getElem?_append_right (Nat.le_refl _), Nat.sub_self]
      rfl
    obtain ⟨before, -⟩ := List.getElem?_eq_some_iff.mp byte
    rw [cons_append, parseEndpoint_cons, if_pos rfl, parseBracketed, find_append plain.2]
    dsimp only
    rw [cutAt_append, bind_some, if_neg (by simp [address, plain.1]), if_pos before, byte,
      bind_some, if_neg (by simp), whole, ← bytes_bracketed, withPort_colon, portNumber_digits]
    rfl
  · rename_i address
    have text : '[' ∉ host ++ ':' :: Nat.toDigits 10 port.toNat ∧
        ']' ∉ host ++ ':' :: Nat.toDigits 10 port.toNat := by
      simp [plain, absent '[' rfl, absent ']' rfl]
    rw [parseEndpoint_plain text.1 (by simp), parsePlain, if_neg (by simp [text]), find_append address]
    dsimp only
    rw [cutAt_past, bind_some, if_neg (absent ':' rfl), cutAt_append, bind_some, withPort_colon, portNumber_digits]
    rfl

theorem parse_safe (text : Text) (defaultPort : Option UInt16) :
    ∃ result, parseEndpoint text defaultPort = some result ∧
      ∀ host port, result = .ok (host, port) → '[' ∉ host ∧ ']' ∉ host := by
  have refused : ∀ {why : String}, ∃ result : Except String (Text × UInt16),
      some (refuse text why) = some result ∧ ∀ host port, result = .ok (host, port) → '[' ∉ host ∧ ']' ∉ host :=
    fun {why} => ⟨_, rfl, fun host port told => absurd told (refuse_ne_ok _ _ _)⟩
  have placed : ∀ {host : Text} {colon : Nat}, '[' ∉ host ∧ ']' ∉ host →
      (colon = (bytes text).length ∨ ∃ before port, text = before ++ ':' :: port ∧ colon = (bytes before).length) →
      ∃ result, withPort text host colon defaultPort = some result ∧
        ∀ host port, result = .ok (host, port) → '[' ∉ host ∧ ']' ∉ host := by
    intro host colon plain placed
    obtain ⟨result, is, same⟩ := @withPort_host text host colon defaultPort placed
    exact ⟨result, is, fun each port told => same each port told ▸ plain⟩
  cases text with
  | nil => exact refused
  | cons first rest =>
    rw [parseEndpoint_cons]
    split
    · rename_i bracket
      subst bracket
      unfold parseBracketed
      split
      · exact refused
      · rename_i close found
        obtain ⟨host, after, rfl, closed, rfl⟩ := find_some found
        rw [cutAt_append, bind_some]
        split
        · exact refused
        · rename_i address
          have plain : '[' ∉ host ∧ ']' ∉ host := ⟨fun inner => address (.inr inner), closed⟩
          have whole : '[' :: (host ++ ']' :: after) = ('[' :: (host ++ [']'])) ++ after := by simp
          cases after with
          | nil =>
            rw [← bytes_bracketed, if_neg (Nat.lt_irrefl _)]
            exact placed plain (.inl rfl)
          | cons char port =>
            obtain ⟨byte, first⟩ : ∃ byte, (bytes (char :: port))[0]? = some byte := by
              cases encoded : String.utf8EncodeChar char with
              | nil => exact absurd encoded String.utf8EncodeChar_ne_nil
              | cons byte => exact ⟨byte, by rw [bytes_cons, encoded]; rfl⟩
            have here : (bytes ('[' :: (host ++ ']' :: char :: port)))[(bytes host).length + 2]? =
                some byte := by
              rw [whole, bytes_append, ← bytes_bracketed, getElem?_append_right (Nat.le_refl _),
                Nat.sub_self, first]
            obtain ⟨before, -⟩ := List.getElem?_eq_some_iff.mp here
            rw [if_pos before, here, bind_some]
            split
            · exact refused
            · rename_i same
              cases eq_colon (first.trans (congrArg some (not_not.mp same)))
              exact placed plain (.inr ⟨_, port, whole, (bytes_bracketed host).symm⟩)
    · unfold parsePlain
      split
      · exact refused
      · rename_i plain
        rw [not_or] at plain
        split
        · rename_i found is
          obtain ⟨host, port, whole, -, rfl⟩ := find_some is
          have host' : '[' ∉ host ∧ ']' ∉ host := by
            rw [whole] at plain
            simp only [mem_append, not_or] at plain
            exact ⟨plain.1.1, plain.2.1⟩
          rw [whole, cutAt_past, bind_some, ← whole]
          split
          · exact refused
          · rw [whole, cutAt_append, bind_some, ← whole]
            exact placed host' (.inr ⟨host, port, whole, rfl⟩)
        · have cut := cutAt_append (first :: rest) []
          rw [append_nil] at cut
          rw [cut, bind_some]
          exact placed plain (.inl rfl)

/-- What is printed reads back, whatever the default; what was read prints as a text that reads the
same; and reading never panics. -/
theorem endpoints_read_back (defaultPort : Option UInt16) :
    (∀ (host : Text) (port : UInt16), '[' ∉ host → ']' ∉ host →
      parseEndpoint (formatEndpoint host port) defaultPort = some (.ok (host, port))) ∧
    (∀ (text host : Text) (port : UInt16), parseEndpoint text defaultPort = some (.ok (host, port)) →
      parseEndpoint (formatEndpoint host port) none = some (.ok (host, port))) ∧
    ∀ text : Text, parseEndpoint text defaultPort ≠ none := by
  refine ⟨fun host port opens closes => parse_format ⟨opens, closes⟩ port defaultPort, ?_, ?_⟩
  · intro text host port read
    obtain ⟨result, is, plain⟩ := parse_safe text defaultPort
    cases is.symm.trans read
    exact parse_format (plain host port rfl) port none
  · intro text panics
    obtain ⟨_, is, -⟩ := parse_safe text defaultPort
    cases is.symm.trans panics

/-- An address in brackets, and a name read with the default port. -/
theorem endpoints_read_back_localhost :
    parseEndpoint (formatEndpoint "::1".toList 1980) none = some (.ok ("::1".toList, 1980)) ∧
      parseEndpoint (formatEndpoint "localhost".toList 1980) none = some (.ok ("localhost".toList, 1980)) :=
  ⟨(endpoints_read_back none).1 _ _ (by decide) (by decide),
    (endpoints_read_back (some 1980)).2.1 "localhost".toList _ _ rfl⟩

end Multiplexer.Endpoint
