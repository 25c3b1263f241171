import Multiplexer.Core.Query.Stages
import Multiplexer.Frames.FrameReaderProperties

/-! The ways a frame is built. They write the header's two words at different moments, some
over zeros left for them, and agree on every byte; what they build, both the parse and the
reader take. -/

set_option autoImplicit false

namespace Multiplexer.Frames

open List

/-- A message as `prost` serializes it, and the key its envelope has. -/
structure Serialized where
  key : Option String
  body : List UInt8

def toLeBytes (word : UInt32) : List UInt8 :=
  [word.toUInt8, (word >>> 8).toUInt8, (word >>> 16).toUInt8, (word >>> 24).toUInt8]

/-- `copy_from_slice` into the part of `buffer` that starts at `start`. -/
def copyInto (buffer : List UInt8) (start : Nat) (bytes : List UInt8) : List UInt8 :=
  buffer.take start ++ bytes ++ buffer.drop (start + bytes.length)

def zeros : List UInt8 := replicate HEADER_LENGTH 0

/-- The header with the body's length and a checksum left 0, then the body. -/
def encodeBody (message : Serialized) (key : Option String) : Except TooLarge (List UInt8) := do
  checkKeySize key
  let size := message.body.length
  checkMessageSize size
  let buffer := zeros ++ message.body
  pure (copyInto buffer 0 (toLeBytes (.ofNat size)))

variable (checksum : List UInt8 → UInt32)

def writeChecksum (buffer : List UInt8) : List UInt8 :=
  copyInto buffer 4 (toLeBytes (checksum (buffer.drop HEADER_LENGTH)))

def encode (message : Serialized) : Except TooLarge (List UInt8) := do
  let buffer ← encodeBody message message.key
  pure (writeChecksum checksum buffer)

def headerOf (body : List UInt8) : List UInt8 :=
  let header := copyInto zeros 0 (toLeBytes (.ofNat body.length))
  copyInto header 4 (toLeBytes (checksum body))

def writeHeader (frame : List UInt8) : List UInt8 :=
  copyInto frame 0 (headerOf checksum (frame.drop HEADER_LENGTH))

def encodeInto (message : Serialized) (key : Option String) (buffer : List UInt8) :
    Except TooLarge (List UInt8) := do
  checkKeySize key
  checkMessageSize message.body.length
  -- the buffer is emptied and keeps its capacity only
  let buffer := buffer.take 0
  pure (writeHeader checksum (buffer ++ zeros ++ message.body))

def encodeUnsealed (message : Serialized) : Except TooLarge (List UInt8) :=
  encodeBody message message.key

/-- The source's `seal`: the frame sealed, and what whoever else holds its buffer is left with,
a buffer that is `shared` being copied first. -/
def sealFrame (bytes : List UInt8) (shared : Bool) : List UInt8 × Option (List UInt8) :=
  (writeChecksum checksum bytes, if shared then some bytes else none)

def frameOfBody (body : List UInt8) : List UInt8 := writeHeader checksum (zeros ++ body)

def headOf (body : List UInt8) : List UInt8 := headerOf checksum body

/-! ## One layout -/

/-- The layout of `wire_format`: the length, the checksum, the body. -/
def layout (body : List UInt8) : List UInt8 :=
  toLeBytes (.ofNat body.length) ++ toLeBytes (checksum body) ++ body

/-- What the limits let through and the other side accepts. -/
structure Serialized.Fits (message : Serialized) : Prop where
  key : (message.key.map String.utf8ByteSize).getD 0 ≤ MAX_KEY_SIZE
  filled : 1 ≤ message.body.length
  size : message.body.length ≤ MAX_MESSAGE_SIZE

section

variable {checksum : List UInt8 → UInt32} {message : Serialized} {body rest : List UInt8}

theorem littleEndian_toLeBytes (word : UInt32) : littleEndian (toLeBytes word) = word.toNat := by
  have small := word.toNat_lt
  simp only [toLeBytes, littleEndian, UInt32.toNat_toUInt8, UInt32.toNat_shiftRight,
    Nat.shiftRight_eq_div_pow, UInt32.reduceToNat, Nat.reduceMod, Nat.reducePow]
  omega

section

variable (fits : message.Fits)

include fits

theorem checkKeySize_ok : checkKeySize message.key = .ok () :=
  if_neg (Nat.not_lt.mpr fits.key)

theorem checkMessageSize_ok : checkMessageSize message.body.length = .ok () := if_neg (Nat.not_lt.mpr fits.size)

theorem encodeBody_eq : encodeBody message message.key =
      .ok (toLeBytes (.ofNat message.body.length) ++ toLeBytes 0 ++ message.body) := by
  rw [encodeBody, checkKeySize_ok fits]
  dsimp only [bind, Except.bind]
  rw [checkMessageSize_ok fits]
  rfl

theorem encode_eq : encode checksum message = .ok (layout checksum message.body) := by
  rw [encode, encodeBody_eq fits]
  rfl

theorem encodeInto_eq (buffer : List UInt8) :
    encodeInto checksum message message.key buffer = .ok (layout checksum message.body) := by
  rw [encodeInto, checkKeySize_ok fits]
  dsimp only [bind, Except.bind]
  rw [checkMessageSize_ok fits]
  rfl

end

theorem unpackHeader_layout (filled : 1 ≤ body.length) (size : body.length ≤ MAX_MESSAGE_SIZE) :
    unpackHeader ((layout checksum body).take HEADER_LENGTH) = some ⟨body.length, (checksum body).toNat⟩ := by
  have words : unpackHeader ((layout checksum body).take HEADER_LENGTH) =
      if littleEndian (toLeBytes (.ofNat body.length)) = 0 ∨
          littleEndian (toLeBytes (.ofNat body.length)) > MAX_MESSAGE_SIZE then none
      else some ⟨littleEndian (toLeBytes (.ofNat body.length)), littleEndian (toLeBytes (checksum body))⟩ := rfl
  have small : body.length < 2 ^ 32 := by
    unfold MAX_MESSAGE_SIZE at size
    omega
  have length : littleEndian (toLeBytes (.ofNat body.length)) = body.length := by
    rw [littleEndian_toLeBytes, UInt32.toNat_ofNat_of_lt' small]
  rw [words, length, littleEndian_toLeBytes, if_neg (by omega)]

theorem verify_layout (body : List UInt8) : verify checksum ⟨body.length, (checksum body).toNat⟩ body = true := by
  simp only [verify, beq_self_eq_true, Bool.and_self]

/-! ## Taken by the reader -/

theorem front_layout (filled : 1 ≤ body.length) (size : body.length ≤ MAX_MESSAGE_SIZE) :
    front checksum (layout checksum body ++ rest) = .frame body rest := by
  have long : HEADER_LENGTH ≤ (layout checksum body ++ rest).length := by
    simp only [layout, toLeBytes, HEADER_LENGTH, length_append, length_cons]
    omega
  have behind : (layout checksum body ++ rest).drop HEADER_LENGTH = body ++ rest := rfl
  rw [front_of_header long (unpackHeader_layout filled size), behind]
  simp only [take_left, drop_left, verify_layout]
  rw [if_neg (by simp), if_pos trivial]

theorem parse_layouts {messages : List Serialized} (fit : ∀ message ∈ messages, message.Fits) :
    parse checksum (messages.map fun message => layout checksum message.body).flatten =
      ⟨messages.map Serialized.body, .more⟩ := by
  induction messages with
  | nil => rfl
  | cons message _ ih =>
    have fits := fit message mem_cons_self
    rw [map_cons, flatten_cons, parse_of_frame (front_layout fits.filled fits.size),
      ih fun other member => fit other (mem_cons_of_mem _ member)]
    rfl

theorem encode_all {messages : List Serialized} {frames : List (List UInt8)}
    (fit : ∀ message ∈ messages, message.Fits)
    (encoded : messages.map (encode checksum) = frames.map .ok) :
    frames = messages.map fun message => layout checksum message.body := by
  have same : messages.map (encode checksum) =
      (messages.map fun message => layout checksum message.body).map .ok := by
    rw [map_map]
    exact map_congr_left fun message member => encode_eq (fit message member)
  rw [same] at encoded
  exact (map_injective_iff.mpr (fun _ _ same => Except.ok.inj same) encoded).symm

namespace Reading

variable {reading : Reading} {bytes : List UInt8} {frames : List (List UInt8)}

/-- A reader that has read part of a stream of whole frames has met no error. -/
theorem open_of_whole (state : Open checksum reading ∨ Over checksum reading)
    (part : reading.bytes <+: bytes) (whole : parse checksum bytes = ⟨frames, .more⟩) :
    Open checksum reading := by
  obtain isOpen | ⟨-, _, _, told, ends, -⟩ := state
  · exact isOpen
  · obtain ⟨more, rfl⟩ := part
    have same := (ends more).symm.trans whole
    cases same
    cases told

theorem Open.part_given (isOpen : Open checksum reading) (part : reading.bytes <+: bytes)
    (whole : parse checksum bytes = ⟨frames, .more⟩) : bodies reading.given <+: frames := by
  obtain ⟨more, rfl⟩ := part
  obtain ⟨-, -, _, -, leaves, -⟩ := isOpen
  have same := congrArg Parsed.frames ((leaves more).symm.trans whole)
  exact ⟨_, same⟩

/-- A `next` that gives no frame leaves a reader that may be read into, unless it broke. -/
theorem next_step (isOpen : Open checksum reading) (part : reading.bytes <+: bytes)
    (whole : parse checksum bytes = ⟨frames, .more⟩) :
    ∃ later, reading.call checksum .next = some later ∧ Open checksum later ∧ later.bytes = reading.bytes ∧
      (later.mayRead = true ∨ (bodies later.given).length = (bodies reading.given).length + 1) := by
  cases gave : reading.reader.next checksum with
  | mk next reader =>
    have called : reading.call checksum .next = some
        { reading with
          reader
          given := reading.given ++ [next]
          mayRead := next = .nothing ∨ next = .started } := by
      simp only [call, gave]
    have later := open_of_whole (call_keeps (.inl isOpen) called) part whole
    apply Exists.intro
    apply And.intro called
    apply And.intro later
    apply And.intro rfl
    cases next with
    | nothing | started => exact .inl rfl
    | frame => exact .inr (by rw [bodies_append, length_append]; rfl)
    | badHeader | badChecksum =>
      have clean := later.errors
      simp [Next.isError] at clean

/-- Asked once more than there are frames left, the reader has given all there are. -/
theorem nexts_end (isOpen : Open checksum reading) (part : reading.bytes <+: bytes)
    (whole : parse checksum bytes = ⟨frames, .more⟩) {left : Nat}
    (enough : frames.length ≤ (bodies reading.given).length + left) :
    ∃ count later, count ≤ left + 1 ∧ run checksum (replicate count .next) reading = some later ∧
      later.bytes = reading.bytes ∧ later.mayRead = true := by
  induction left generalizing reading with
  | zero =>
    obtain ⟨later, called, isOpen, same, ready | longer⟩ := next_step isOpen part whole
    · exact ⟨1, later, Nat.le_refl 1, by simp [run, called], same, ready⟩
    · have within := (isOpen.part_given (same ▸ part) whole).length_le
      omega
  | succ _ ih =>
    obtain ⟨later, called, isOpen, same, ready | _⟩ := next_step isOpen part whole
    · exact ⟨1, later, by omega, by simp [run, called], same, ready⟩
    · obtain ⟨count, last, _, ran, bytes, ready⟩ := ih isOpen (same ▸ part) (by omega)
      have first : run checksum (replicate (count + 1) .next) reading = some last := by
        rw [replicate_succ, run, called]
        exact ran
      exact ⟨count + 1, last, by omega, first, bytes.trans same, ready⟩

end Reading

end

/-- Every constructor gives the same bytes for a message within the limits, whose header reads
back and verifies; and a reader of such frames, however they are cut, gives their bodies in
order and no error, all of them once it has read all. -/
theorem frame_constructors_agree (checksum : List UInt8 → UInt32) : (∀ message : Serialized, message.Fits →
      ∃ frame unsealed, encode checksum message = .ok frame ∧ encodeUnsealed message = .ok unsealed ∧
        (∀ shared, sealFrame checksum unsealed shared = (frame, if shared then some unsealed else none)) ∧
        (∀ buffer, encodeInto checksum message message.key buffer = .ok frame) ∧
        frameOfBody checksum message.body = frame ∧
        headOf checksum message.body ++ message.body = frame ∧
        ∃ header, unpackHeader (frame.take HEADER_LENGTH) = some header ∧ header.length = message.body.length ∧
          header.checksum = (checksum message.body).toNat ∧
          verify checksum header message.body = true) ∧
    ∀ (messages : List Serialized) (frames : List (List UInt8)),
      (∀ message ∈ messages, message.Fits) → messages.map (encode checksum) = frames.map .ok →
      ∀ calls reading, Reading.run checksum calls {} = some reading →
        reading.bytes <+: frames.flatten →
        bodies reading.given <+: messages.map Serialized.body ∧ (∀ next ∈ reading.given, next.isError = false) ∧
          (reading.mayRead = true → 0 < reading.reader.offered) ∧
          (reading.bytes = frames.flatten →
            (reading.mayRead = true → bodies reading.given = messages.map Serialized.body) ∧
            ∃ count later, count ≤ messages.length + 1 ∧
              Reading.run checksum (replicate count .next) reading = some later ∧
              bodies later.given = messages.map Serialized.body) := by
  constructor
  · intro message fits
    exact ⟨layout checksum message.body, _, encode_eq fits, encodeBody_eq fits, fun _ => rfl,
      encodeInto_eq fits, rfl, rfl, _, unpackHeader_layout fits.filled fits.size, rfl, rfl,
      verify_layout _⟩
  · intro messages frames fit encoded _ reading ran part
    have whole := @parse_layouts checksum messages fit
    rw [← encode_all fit encoded] at whole
    have isOpen := Reading.open_of_whole (Reading.run_keeps (.inl Reading.open_start) ran) part whole
    have given {reading : Reading} (isOpen : Reading.Open checksum reading)
        (all : reading.bytes = frames.flatten) (ready : reading.mayRead = true) :
        bodies reading.given = messages.map Serialized.body := by
      have same := isOpen.parse_given ready
      rw [all, whole] at same
      exact (congrArg Parsed.frames same).symm
    apply And.intro (isOpen.part_given part whole)
    constructor
    · intro next member
      rw [← Bool.not_eq_true]
      exact filter_eq_nil_iff.mp isOpen.errors next member
    constructor
    · intro ready
      obtain ⟨-, -, _, -, -, waits⟩ := isOpen
      exact (waits ready).2
    · intro all
      apply And.intro (given isOpen all)
      obtain ⟨count, later, few, nexts, same, ready⟩ :=
        @Reading.nexts_end checksum reading _ _ isOpen part whole messages.length (by simp)
      have laterOpen := Reading.open_of_whole (Reading.run_keeps (.inl isOpen) nexts) (same ▸ part) whole
      exact ⟨count, later, few, nexts, given laterOpen (same.trans all) ready⟩

def twoMessages : List Serialized := [⟨none, [9]⟩, ⟨some "key", [1, 2]⟩]

/-- Their frames, cut inside the first header and read with the second. -/
def cutOnce : List Call :=
  [.next, .read [1, 0, 0, 0, 7], .next, .read [0, 0, 0, 9, 2, 0, 0, 0, 7, 0, 0, 0, 1, 2], .next, .next, .next]

theorem frame_constructors_agree_cutOnce : (∃ frame, encode (fun _ => 7) ⟨none, [9]⟩ = .ok frame ∧
      encodeInto (fun _ => 7) ⟨none, [9]⟩ none [5] = .ok frame) ∧
    ∃ reading, Reading.run (fun _ => 7) cutOnce {} = some reading ∧ bodies reading.given = [[9], [1, 2]] := by
  have fit : ∀ message ∈ twoMessages, message.Fits := by
    intro message member
    simp only [twoMessages, mem_cons, not_mem_nil, or_false] at member
    rcases member with rfl | rfl
    · exact ⟨by decide, by decide, by decide⟩
    · exact ⟨by decide, by decide, by decide⟩
  have agree := frame_constructors_agree fun _ => 7
  constructor
  · obtain ⟨frame, _, encoded, -, -, into, -⟩ := agree.1 ⟨none, [9]⟩ (fit _ mem_cons_self)
    exact ⟨frame, encoded, into [5]⟩
  · have shows : (Reading.run (fun _ => 7) cutOnce {}).map (fun reading => (reading.bytes, reading.mayRead)) =
        some ([1, 0, 0, 0, 7, 0, 0, 0, 9] ++ [2, 0, 0, 0, 7, 0, 0, 0, 1, 2], true) := by decide
    obtain ⟨reading, ran, shows⟩ := Option.map_eq_some_iff.mp shows
    obtain ⟨bytes, ready⟩ := Prod.mk.inj shows
    have given := agree.2 twoMessages [[1, 0, 0, 0, 7, 0, 0, 0, 9], [2, 0, 0, 0, 7, 0, 0, 0, 1, 2]] fit rfl _ _ ran
      (by rw [bytes]; exact prefix_rfl)
    exact ⟨reading, ran, (given.2.2.2 bytes).1 ready⟩

end Multiplexer.Frames
