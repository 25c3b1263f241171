import Multiplexer.Wire.Message

/-! The wire's frames: a header of two little-endian words, the body's length and its
checksum, then the body. The parse of a byte stream here is the reference both readers are
held against. -/

set_option autoImplicit false

namespace Multiplexer.Frames

open List

def littleEndian : List UInt8 → Nat
  | [] => 0
  | byte :: rest => byte.toNat + 256 * littleEndian rest

/-- A frame's header as read: the body's length and its checksum. -/
structure Header where
  length : Nat
  checksum : Nat
deriving DecidableEq

/-- A header's words; none for a length of 0 or above `MAX_MESSAGE_SIZE`. -/
def unpackHeader (header : List UInt8) : Option Header :=
  let length := littleEndian (header.take 4)
  let checksum := littleEndian ((header.drop 4).take 4)
  if length = 0 ∨ length > MAX_MESSAGE_SIZE then none else some { length, checksum }

variable (checksum : List UInt8 → UInt32)

def verify (header : Header) (body : List UInt8) : Bool :=
  body.length == header.length && (checksum body).toNat == header.checksum

inductive Front where
  | more
  | frame (body rest : List UInt8)
  | badHeader
  | badChecksum
deriving DecidableEq

def front (bytes : List UInt8) : Front :=
  if bytes.length < HEADER_LENGTH then .more
  else
    match unpackHeader (bytes.take HEADER_LENGTH) with
    | none => .badHeader
    | some header =>
      let rest := bytes.drop HEADER_LENGTH
      if rest.length < header.length then .more
      else if verify checksum header (rest.take header.length) then
        .frame (rest.take header.length) (rest.drop header.length)
      else .badChecksum

/-- How a stream's frames end: with a start of one, or with bytes that are none. -/
inductive Verdict where
  | more
  | badHeader
  | badChecksum
deriving DecidableEq

structure Parsed where
  frames : List (List UInt8)
  verdict : Verdict
deriving DecidableEq

def Parsed.after (parsed : Parsed) (earlier : List (List UInt8)) : Parsed :=
  { parsed with frames := earlier ++ parsed.frames }

def parseUpTo : Nat → List UInt8 → Parsed
  | 0, _ => ⟨[], .more⟩
  | count + 1, bytes =>
    match front checksum bytes with
    | .more => ⟨[], .more⟩
    | .badHeader => ⟨[], .badHeader⟩
    | .badChecksum => ⟨[], .badChecksum⟩
    | .frame body rest => (parseUpTo count rest).after [body]

/-- The bodies of a stream's frames, up to the first bad header or checksum. -/
def parse (bytes : List UInt8) : Parsed := parseUpTo checksum (bytes.length + 1) bytes

/-! ## What the parse takes at the front -/

variable {checksum : List UInt8 → UInt32} {bytes body rest : List UInt8}

theorem Parsed.after_after (parsed : Parsed) (first second : List (List UInt8)) :
    (parsed.after second).after first = parsed.after (first ++ second) := by
  simp only [Parsed.after, append_assoc]

theorem front_frame_shorter (first : front checksum bytes = .frame body rest) : rest.length < bytes.length := by
  unfold front at first
  split at first
  · cases first
  · rename_i long
    split at first
    · cases first
    · dsimp only at first
      split at first
      · cases first
      · split at first
        · cases first
          simp only [length_drop, HEADER_LENGTH] at long ⊢
          omega
        · cases first

theorem front_of_header {header : Header} (long : HEADER_LENGTH ≤ bytes.length)
    (unpacked : unpackHeader (bytes.take HEADER_LENGTH) = some header) : front checksum bytes =
      if (bytes.drop HEADER_LENGTH).length < header.length then .more
      else if verify checksum header ((bytes.drop HEADER_LENGTH).take header.length) then
        .frame ((bytes.drop HEADER_LENGTH).take header.length) ((bytes.drop HEADER_LENGTH).drop header.length)
      else .badChecksum := by
  simp only [front, if_neg (Nat.not_lt.mpr long), unpacked]

theorem front_of_badHeader (long : HEADER_LENGTH ≤ bytes.length)
    (unpacked : unpackHeader (bytes.take HEADER_LENGTH) = none) :
    front checksum bytes = .badHeader := by
  simp only [front, if_neg (Nat.not_lt.mpr long), unpacked]

/-- More bytes do not change a front that is settled. -/
theorem front_append (more : List UInt8) (settled : front checksum bytes ≠ .more) : front checksum (bytes ++ more) =
      match front checksum bytes with
      | .frame body rest => .frame body (rest ++ more)
      | first => first := by
  by_cases long : HEADER_LENGTH ≤ bytes.length
  · have longer : HEADER_LENGTH ≤ (bytes ++ more).length := by
      rw [length_append]
      omega
    have sameHeader : (bytes ++ more).take HEADER_LENGTH = bytes.take HEADER_LENGTH :=
      take_append_of_le_length long
    have sameRest : (bytes ++ more).drop HEADER_LENGTH = bytes.drop HEADER_LENGTH ++ more :=
      drop_append_of_le_length long
    cases unpacked : unpackHeader (bytes.take HEADER_LENGTH) with
    | none =>
      rw [front_of_badHeader long unpacked, front_of_badHeader longer (by rw [sameHeader]; exact unpacked)]
    | some header =>
      have first : front checksum bytes = _ := front_of_header long unpacked
      have first' : front checksum (bytes ++ more) = _ :=
        front_of_header longer (by rw [sameHeader]; exact unpacked)
      rw [sameRest] at first'
      by_cases short : (bytes.drop HEADER_LENGTH).length < header.length
      · rw [if_pos short] at first
        exact absurd first settled
      · have enough := Nat.not_lt.mp short
        rw [if_neg short] at first
        rw [if_neg (by rw [length_append]; omega), take_append_of_le_length enough,
          drop_append_of_le_length enough] at first'
        rw [first, first']
        split
        · rfl
        · rfl
  · have first : front checksum bytes = .more := by
      simp only [front, if_pos (Nat.not_le.mp long)]
    exact absurd first settled

/-! ## The parse -/

theorem parseUpTo_enough {count : Nat} (enough : bytes.length < count) :
    parseUpTo checksum count bytes = parse checksum bytes := by
  induction count using Nat.strong_induction_on generalizing bytes with
  | _ count ih =>
    cases count with
    | zero => omega
    | succ count =>
      simp only [parse, parseUpTo]
      cases first : front checksum bytes with
      | more | badHeader | badChecksum => rfl
      | frame body rest =>
        have shorter := front_frame_shorter first
        have here := ih count (by omega) (show rest.length < count by omega)
        dsimp only
        rw [here]
        by_cases same : bytes.length = count
        · rw [same, here]
        · rw [ih bytes.length (by omega) shorter]

/-- The parse of a stream, by its front. -/
theorem parse_eq (bytes : List UInt8) : parse checksum bytes =
      match front checksum bytes with
      | .more => ⟨[], .more⟩
      | .badHeader => ⟨[], .badHeader⟩
      | .badChecksum => ⟨[], .badChecksum⟩
      | .frame body rest => (parse checksum rest).after [body] := by
  have unfolded : parse checksum bytes = parseUpTo checksum (bytes.length + 1) bytes := rfl
  rw [unfolded, parseUpTo]
  cases first : front checksum bytes with
  | more | badHeader | badChecksum => rfl
  | frame =>
    dsimp only
    rw [parseUpTo_enough (front_frame_shorter first)]

theorem parse_of_frame (first : front checksum bytes = .frame body rest) :
    parse checksum bytes = (parse checksum rest).after [body] := by
  rw [parse_eq, first]

/-! ## Streams taken piece by piece -/

/-- Of `bytes` the frames `taken` were taken and `rest` is left. -/
def Leaves (checksum : List UInt8 → UInt32) (bytes : List UInt8) (taken : List (List UInt8))
    (rest : List UInt8) : Prop :=
  ∀ more, parse checksum (bytes ++ more) = (parse checksum (rest ++ more)).after taken

/-- The frames of `bytes` are `taken`, and what ends them will not change. -/
def Ends (checksum : List UInt8 → UInt32) (bytes : List UInt8) (taken : List (List UInt8))
    (verdict : Verdict) : Prop :=
  ∀ more, parse checksum (bytes ++ more) = ⟨taken, verdict⟩

variable {taken : List (List UInt8)}

theorem Leaves.nil : Leaves checksum [] [] [] := fun _ => rfl

section

variable (leaves : Leaves checksum bytes taken rest)

include leaves

theorem Leaves.read (chunk : List UInt8) : Leaves checksum (bytes ++ chunk) taken (rest ++ chunk) := by
  intro more
  rw [append_assoc, append_assoc]
  exact leaves (chunk ++ more)

theorem Leaves.frame {left : List UInt8} (first : front checksum rest = .frame body left) :
    Leaves checksum bytes (taken ++ [body]) left := by
  intro more
  have settled : front checksum rest ≠ .more := by
    rw [first]
    exact nofun
  have first' := front_append more settled
  rw [first] at first'
  rw [leaves more, parse_of_frame first', Parsed.after_after]

theorem Leaves.badHeader (first : front checksum rest = .badHeader) : Ends checksum bytes taken .badHeader := by
  intro more
  have settled : front checksum rest ≠ .more := by
    rw [first]
    exact nofun
  have first' := front_append more settled
  rw [first] at first'
  rw [leaves more, parse_eq, first']
  simp only [Parsed.after, append_nil]

theorem Leaves.badChecksum
    (first : front checksum rest = .badChecksum) : Ends checksum bytes taken .badChecksum := by
  intro more
  have settled : front checksum rest ≠ .more := by
    rw [first]
    exact nofun
  have first' := front_append more settled
  rw [first] at first'
  rw [leaves more, parse_eq, first']
  simp only [Parsed.after, append_nil]

theorem Leaves.parse : Frames.parse checksum bytes = (Frames.parse checksum rest).after taken := by
  have here := leaves []
  rw [append_nil, append_nil] at here
  exact here

theorem Leaves.parse_more (first : front checksum rest = .more) : Frames.parse checksum bytes = ⟨taken, .more⟩ := by
  rw [leaves.parse, parse_eq, first]
  simp only [Parsed.after, append_nil]

end

theorem Ends.parse {verdict : Verdict} (ends : Ends checksum bytes taken verdict) :
    Frames.parse checksum bytes = ⟨taken, verdict⟩ := by
  have here := ends []
  rw [append_nil] at here
  exact here

theorem Ends.read {verdict : Verdict} (ends : Ends checksum bytes taken verdict)
    (chunk : List UInt8) : Ends checksum (bytes ++ chunk) taken verdict := by
  intro more
  rw [append_assoc]
  exact ends (chunk ++ more)

end Multiplexer.Frames
