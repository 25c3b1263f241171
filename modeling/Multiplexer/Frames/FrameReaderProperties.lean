import Multiplexer.Frames.FrameReader

/-! What the client's reader gives is what the reference parse takes, however the stream was
cut into reads. -/

set_option autoImplicit false

namespace Multiplexer.Frames

open List Option

variable {checksum : List UInt8 → UInt32} {reader after : FrameReader} {rest bytes : List UInt8}

def FrameReader.Holds (reader : FrameReader) (rest : List UInt8) : Prop :=
  match reader.large with
  | none => rest = reader.buffer.held
  | some large =>
    reader.buffer.held = [] ∧ ∃ header, header.length = HEADER_LENGTH ∧
      unpackHeader header = some large.header ∧ rest = header ++ large.body.held

namespace Large

theorem length_held (large : Large) : large.body.held.length = large.body.stop := by
  rw [Window.length_held, large.fromFront, Nat.sub_zero]

theorem filled_iff (large : Large) : large.filled = true ↔ large.header.length ≤ large.body.held.length := by
  have stop_le := large.body.stop_le
  rw [length_held, filled, beq_iff_eq]
  omega

theorem held_of_filled (large : Large) (filled : large.filled = true) : large.body.held = large.body.cells :=
  large.body.held_of_full large.fromFront (beq_iff_eq.mp filled)

theorem room_pos (large : Large) (short : large.filled = false) : 0 < large.body.room := by
  have stop_le := large.body.stop_le
  rw [filled, beq_eq_false_iff_ne] at short
  rw [Window.room]
  omega

end Large

theorem front_large {large : Large} {header : List UInt8}
    (length : header.length = HEADER_LENGTH) (unpacked : unpackHeader header = some large.header) :
    front checksum (header ++ large.body.held) =
      if large.filled then
        if verify checksum large.header large.body.cells then .frame large.body.cells []
        else .badChecksum
      else .more := by
  have long : HEADER_LENGTH ≤ (header ++ large.body.held).length := by
    rw [length_append]
    omega
  have isHeader : (header ++ large.body.held).take HEADER_LENGTH = header := by
    rw [← length]
    exact take_left' rfl
  have isRest : (header ++ large.body.held).drop HEADER_LENGTH = large.body.held := by
    rw [← length]
    exact drop_left' rfl
  rw [front_of_header long (by rw [isHeader]; exact unpacked), isRest]
  cases filled : large.filled with
  | false =>
    have short : large.body.held.length < large.header.length := by
      by_contra enough
      rw [(Large.filled_iff large).mpr (Nat.not_lt.mp enough)] at filled
      cases filled
    rw [if_pos short]
    rfl
  | true =>
    have held := large.held_of_filled filled
    have size : large.body.cells.length = large.header.length := large.body.length_cells
    rw [held, if_neg (by omega), take_of_length_le (Nat.le_of_eq size), drop_eq_nil_of_le (Nat.le_of_eq size)]
    rfl

namespace FrameReader

theorem offered_pos (alone : reader.large = none) (short : reader.buffer.held.length < READ_BUFFER) :
    0 < reader.offered := by
  have stop_le := reader.buffer.stop_le
  simp only [offered, alone, readingBuffer]
  split
  · rw [Window.room_compact]
    omega
  · rw [Window.room]
    omega

def Gives (checksum : List UInt8 → UInt32) (rest : List UInt8) (next : Next)
    (after : FrameReader) : Prop :=
  match next with
  | .frame body => ∃ left, front checksum rest = .frame body left ∧ after.Holds left
  | .badHeader => front checksum rest = .badHeader
  | .badChecksum => front checksum rest = .badChecksum
  | .nothing | .started => front checksum rest = .more ∧ after.Holds rest ∧ 0 < after.offered

theorem nextStarted_gives (first : front checksum rest = .more) (holds : reader.Holds rest)
    (short : ∀ large, reader.large = some large → large.filled = false)
    (room : 0 < reader.offered) :
    Gives checksum rest (reader.nextStarted checksum).1 (reader.nextStarted checksum).2 := by
  obtain ⟨_, large, started, _⟩ := reader
  cases started with
  | true => exact ⟨first, holds, room⟩
  | false =>
    cases large with
    | none => exact ⟨first, holds, room⟩
    | some large =>
      have unfilled := short large rfl
      simp only [nextStarted, unfilled]
      exact ⟨first, holds, room⟩

theorem takeLarge_gives {large : Large} (isLarge : reader.large = some large)
    (holds : reader.Holds rest) (filled : large.filled = true) :
    Gives checksum rest (reader.takeLarge checksum large).1 (reader.takeLarge checksum large).2 := by
  simp only [Holds, isLarge] at holds
  obtain ⟨nothing, header, length, unpacked, rfl⟩ := holds
  have first : front checksum (header ++ large.body.held) = _ := front_large length unpacked
  rw [filled, if_pos rfl] at first
  unfold takeLarge
  cases good : verify checksum large.header large.body.cells with
  | true =>
    rw [good, if_pos rfl] at first
    exact ⟨[], first, nothing.symm⟩
  | false =>
    rw [good] at first
    exact first

theorem begin_held {header : Header} {here : List UInt8} (fits : here.length ≤ header.length) :
    (Large.begin header here fits).body.held = here :=
  (Window.held_fill (Window.empty 0) here fits).trans (nil_append here)

variable {buffer : Window UInt8 READ_BUFFER} {started broken : Bool}

theorem take_large {large : Large} (holds : Holds ⟨buffer, some large, started, broken⟩ rest) :
    Gives checksum rest (take checksum ⟨buffer, some large, started, broken⟩).1
      (take checksum ⟨buffer, some large, started, broken⟩).2 := by
  cases filled : large.filled with
  | true =>
    simp only [take, filled, if_true]
    exact takeLarge_gives rfl holds filled
  | false =>
    simp only [take, filled]
    obtain ⟨_, _, length, unpacked, same⟩ := id holds
    have first : front checksum rest = .more := by
      rw [same, front_large length unpacked, filled]
      rfl
    exact ⟨first, holds, large.room_pos filled⟩

theorem take_begins {header : Header} (long : HEADER_LENGTH ≤ buffer.held.length)
    (unpacked : unpackHeader (buffer.held.take HEADER_LENGTH) = some header)
    (fits : (buffer.held.drop HEADER_LENGTH).length ≤ header.length)
    (short : (buffer.held.drop HEADER_LENGTH).length < header.length) : let reader : FrameReader :=
      ⟨buffer.clear, some (Large.begin header (buffer.held.drop HEADER_LENGTH) fits), started, broken⟩
    Gives checksum buffer.held (reader.nextStarted checksum).1 (reader.nextStarted checksum).2 := by
  have first : front checksum buffer.held = .more := by
    rw [front_of_header long unpacked, if_pos short]
  have held := begin_held fits
  have unfilled : (Large.begin header (buffer.held.drop HEADER_LENGTH) fits).filled = false := by
    rw [← Bool.not_eq_true, Large.filled_iff, held]
    exact Nat.not_le.mpr short
  apply nextStarted_gives first
  · refine ⟨Window.held_clear _, buffer.held.take HEADER_LENGTH, ?_, unpacked, ?_⟩
    · rw [length_take]
      omega
    · rw [held]
      exact (take_append_drop _ _).symm
  · intro _ isLarge
    cases isLarge
    exact unfilled
  · exact Large.room_pos _ unfilled

theorem take_waits (first : front checksum buffer.held = .more)
    (short : buffer.held.length < READ_BUFFER) (moved : Window UInt8 READ_BUFFER)
    (same : moved.held = buffer.held) :
    Gives checksum buffer.held (nextStarted checksum ⟨moved, none, started, broken⟩).1
      (nextStarted checksum ⟨moved, none, started, broken⟩).2 := by
  apply nextStarted_gives first
  · exact same.symm
  · intro _ isLarge
    cases isLarge
  · exact offered_pos rfl (by rw [same]; exact short)

theorem take_small : Gives checksum buffer.held (take checksum ⟨buffer, none, started, broken⟩).1
      (take checksum ⟨buffer, none, started, broken⟩).2 := by
  by_cases tiny : buffer.held.length < HEADER_LENGTH
  · have small : HEADER_LENGTH < READ_BUFFER := by decide
    have first : front checksum buffer.held = .more := by
      rw [front, if_pos tiny]
    simp only [take, tiny, if_true]
    exact ⟨first, rfl, offered_pos rfl (Nat.lt_trans tiny small)⟩
  · have long := Nat.not_lt.mp tiny
    have length : (buffer.held.drop HEADER_LENGTH).length = buffer.held.length - HEADER_LENGTH :=
      length_drop
    have size := buffer.length_held_le
    simp only [take, tiny, if_false]
    split
    · rename_i unpacked
      exact front_of_badHeader long unpacked
    · rename_i header unpacked
      have first : front checksum buffer.held = _ := front_of_header long unpacked
      split
      · exact take_begins long unpacked _ (by omega)
      · split
        · rw [if_pos (by omega)] at first
          refine take_waits first (by omega) _ ?_
          split
          · exact Window.held_compact buffer
          · rfl
        · rename_i fitsBuffer enough
          rw [if_neg (by omega), drop_drop] at first
          split
          · rename_i good
            rw [if_pos good] at first
            refine ⟨_, first, ?_⟩
            change buffer.held.drop (HEADER_LENGTH + header.length) = Window.held _
            split
            · rename_i emptied
              rw [Window.held_clear, ← Window.held_skip buffer _ (Nat.not_lt.mp enough)]
              refine eq_nil_of_length_eq_zero ?_
              rw [Window.length_held, emptied, Nat.sub_self]
            · rw [Window.held_skip]
          · rename_i bad
            rw [if_neg bad] at first
            exact first

theorem take_gives (holds : reader.Holds rest) :
    Gives checksum rest (reader.take checksum).1 (reader.take checksum).2 := by
  obtain ⟨_, large, _, _⟩ := reader
  cases large with
  | none =>
    cases holds
    exact take_small
  | some => exact take_large holds

theorem readFrom_holds {chunk : List UInt8} (holds : reader.Holds rest)
    (reads : reader.readFrom chunk = some after) :
    after.Holds (rest ++ chunk) ∧ after.broken = reader.broken := by
  obtain ⟨_, large, _, _⟩ := reader
  cases large with
  | none =>
    cases holds
    simp only [readFrom] at reads
    split at reads
    · cases reads
      refine ⟨?_, rfl⟩
      simp only [Holds, Window.held_fill, readingBuffer]
      split
      · rw [Window.held_compact]
      · rfl
    · cases reads
  | some =>
    obtain ⟨nothing, header, length, unpacked, rfl⟩ := holds
    simp only [readFrom] at reads
    split at reads
    · cases reads
      refine ⟨⟨nothing, header, length, unpacked, ?_⟩, rfl⟩
      rw [Window.held_fill, append_assoc]
    · cases reads

end FrameReader

/-! ## A stream read -/

def Verdict.errors : Verdict → List Next
  | .more => []
  | .badHeader => [.badHeader]
  | .badChecksum => [.badChecksum]

theorem Verdict.isError_of {error : Next} (verdict : Verdict) (told : verdict.errors = [error]) :
    error.isError = true := by
  cases verdict with
  | more => cases told
  | badHeader | badChecksum =>
    cases told
    rfl

theorem bodies_append (first second : List Next) :
    bodies (first ++ second) = bodies first ++ bodies second := filterMap_append

structure Reading.Open (checksum : List UInt8 → UInt32) (reading : Reading) : Prop where
  whole : reading.reader.broken = false
  errors : reading.given.filter Next.isError = []
  rest : ∃ rest, reading.reader.Holds rest ∧ Leaves checksum reading.bytes (bodies reading.given) rest ∧
    (reading.mayRead = true → front checksum rest = .more ∧ 0 < reading.reader.offered)

structure Reading.Over (checksum : List UInt8 → UInt32) (reading : Reading) : Prop where
  broken : reading.reader.broken = true
  told : ∃ verdict error, verdict.errors = [error] ∧
    Ends checksum reading.bytes (bodies reading.given) verdict ∧
    ∃ earlier later, reading.given = earlier ++ error :: later ∧
      earlier.filter Next.isError = [] ∧ ∀ next ∈ later, next = .nothing

namespace Reading

variable {reading next : Reading}

theorem Open.gives (isOpen : Open checksum reading) {gave : Next} {after : FrameReader}
    (given : reading.reader.next checksum = (gave, after)) : Open checksum
        { reading with
          reader := after, given := reading.given ++ [gave]
          mayRead := gave = .nothing ∨ gave = .started } ∨
      Over checksum
        { reading with
          reader := after, given := reading.given ++ [gave]
          mayRead := gave = .nothing ∨ gave = .started } := by
  obtain ⟨whole, errors, rest, holds, leaves, -⟩ := isOpen
  simp only [FrameReader.next, whole, Bool.false_eq_true, if_false] at given
  have gives : FrameReader.Gives checksum rest _ _ := FrameReader.take_gives holds
  generalize reading.reader.take checksum = taken at given gives
  obtain ⟨next, _⟩ := taken
  cases given
  cases next with
  | frame =>
    obtain ⟨left, first, holds'⟩ := gives
    refine .inl ⟨rfl, ?_, left, holds', ?_, nofun⟩
    · rw [filter_append, errors]
      rfl
    · rw [bodies_append]
      exact leaves.frame first
  | started =>
    obtain ⟨first, holds', room⟩ := gives
    refine .inl ⟨rfl, ?_, rest, holds', ?_, fun _ => ⟨first, room⟩⟩
    · rw [filter_append, errors]
      rfl
    · rw [bodies_append, show bodies [.started] = [] from rfl, append_nil]
      exact leaves
  | nothing =>
    obtain ⟨first, holds', room⟩ := gives
    refine .inl ⟨rfl, ?_, rest, holds', ?_, fun _ => ⟨first, room⟩⟩
    · rw [filter_append, errors]
      rfl
    · rw [bodies_append, show bodies [.nothing] = [] from rfl, append_nil]
      exact leaves
  | badHeader =>
    refine .inr ⟨rfl, .badHeader, .badHeader, rfl, ?_, reading.given, [], rfl, errors, nofun⟩
    rw [bodies_append, show bodies [.badHeader] = [] from rfl, append_nil]
    exact leaves.badHeader gives
  | badChecksum =>
    refine .inr ⟨rfl, .badChecksum, .badChecksum, rfl, ?_, reading.given, [], rfl, errors, nofun⟩
    rw [bodies_append, show bodies [.badChecksum] = [] from rfl, append_nil]
    exact leaves.badChecksum gives

theorem call_keeps {call : Call} (state : Open checksum reading ∨ Over checksum reading)
    (called : reading.call checksum call = some next) :
    Open checksum next ∨ Over checksum next := by
  cases call with
  | next =>
    simp only [Reading.call] at called
    generalize given : reading.reader.next checksum = result at called
    obtain ⟨gave, _⟩ := result
    cases called
    obtain isOpen | isOver := state
    · exact isOpen.gives given
    · obtain ⟨broken, verdict, error, isError, ends, earlier, later, same, clean, quiet⟩ := isOver
      have nothing : reading.reader.next checksum = (.nothing, reading.reader) := by
        simp only [FrameReader.next, broken, if_true]
      cases nothing.symm.trans given
      refine .inr ⟨broken, verdict, error, isError, ?_, earlier, later ++ [.nothing], ?_, clean, ?_⟩
      · rw [bodies_append, show bodies [.nothing] = [] from rfl, append_nil]
        exact ends
      · rw [same, append_assoc]
        rfl
      · intro gave member
        obtain before | last := mem_append.mp member
        · exact quiet gave before
        · exact mem_singleton.mp last
  | read chunk =>
    simp only [Reading.call] at called
    split at called
    · obtain ⟨reader, reads, rfl⟩ := map_eq_some_iff.mp called
      obtain isOpen | isOver := state
      · obtain ⟨whole, errors, rest, holds, leaves, -⟩ := isOpen
        obtain ⟨holds', sameBroken⟩ := FrameReader.readFrom_holds holds reads
        exact .inl ⟨sameBroken.trans whole, errors, rest ++ chunk, holds', leaves.read chunk, nofun⟩
      · obtain ⟨broken, verdict, error, isError, ends, told⟩ := isOver
        have sameBroken : reader.broken = reading.reader.broken := by
          simp only [FrameReader.readFrom] at reads
          split at reads
          · split at reads
            · cases reads
              rfl
            · cases reads
          · split at reads
            · cases reads
              rfl
            · cases reads
        exact .inr ⟨sameBroken.trans broken, verdict, error, isError, ends.read chunk, told⟩
    · cases called

theorem run_keeps {calls : List Call} (state : Open checksum reading ∨ Over checksum reading)
    (ran : run checksum calls reading = some next) : Open checksum next ∨ Over checksum next := by
  induction calls generalizing reading with
  | nil =>
    cases ran
    exact state
  | cons _ _ ih =>
    obtain ⟨_, called, ran⟩ := bind_eq_some_iff.mp ran
    exact ih (call_keeps state called) ran

theorem open_start : Open checksum {} where
  whole := rfl
  errors := rfl
  rest := ⟨[], rfl, .nil, nofun⟩

theorem Open.parse_given (isOpen : Open checksum reading) (mayRead : reading.mayRead = true) :
    parse checksum reading.bytes = ⟨bodies reading.given, .more⟩ := by
  obtain ⟨-, -, _, -, leaves, waits⟩ := isOpen
  exact leaves.parse_more (waits mayRead).1

theorem Over.errors (isOver : Over checksum reading) :
    reading.given.filter Next.isError = (parse checksum reading.bytes).verdict.errors ∧
      bodies reading.given = (parse checksum reading.bytes).frames := by
  obtain ⟨-, verdict, _, isError, ends, _, later, same, clean, quiet⟩ := isOver
  rw [ends.parse]
  refine ⟨?_, rfl⟩
  have none : later.filter Next.isError = [] := by
    refine filter_eq_nil_iff.mpr fun next member => ?_
    rw [quiet next member]
    exact nofun
  have told := verdict.isError_of isError
  rw [same, filter_append, clean, filter_cons_of_pos told, none]
  exact isError.symm

theorem Over.silent (isOver : Over checksum reading) (earlier : List Next) (error : Next)
    (later : List Next) (same : reading.given = earlier ++ error :: later)
    (isError : error.isError = true) : ∀ next ∈ later, next = .nothing := by
  obtain ⟨-, _, _, -, -, _, _, same', clean, quiet⟩ := isOver
  rw [same] at same'
  -- nothing before the error told is one, and nothing behind it
  obtain ⟨between, rfl, rest⟩ | ⟨between, rfl, rest⟩ := append_eq_append_iff.mp same'
  · cases between with
    | nil =>
      cases rest
      exact quiet
    | cons _ between =>
      cases rest
      have member : error ∈ earlier ++ error :: between := by simp
      exact absurd isError (filter_eq_nil_iff.mp clean error member)
  · cases between with
    | nil =>
      cases rest
      exact quiet
    | cons =>
      cases rest
      have isNothing := quiet error (by simp)
      rw [isNothing] at isError
      cases isError

theorem all_given {calls : List Call} {reading : Reading}
    (ran : Reading.run checksum calls {} = some reading)
    (ready : reading.mayRead = true ∨ ∃ next ∈ reading.given, next.isError = true) :
    bodies reading.given = (parse checksum reading.bytes).frames ∧
      reading.given.filter Next.isError = (parse checksum reading.bytes).verdict.errors := by
  have start : Reading.Open checksum {} := Reading.open_start
  obtain isOpen | isOver := Reading.run_keeps (.inl start) ran
  · obtain mayRead | ⟨next, member, isError⟩ := ready
    · rw [isOpen.parse_given mayRead]
      exact ⟨rfl, isOpen.errors⟩
    · exact absurd isError (filter_eq_nil_iff.mp isOpen.errors next member)
  · exact isOver.errors.symm

end Reading

/-- However a stream is cut into reads, the reader gives the frames of the reference parse, in
order, all of them and the error that ends them by the time it may be read into or has told an
error; after an error it gives nothing; and until then it never offers a read no room. -/
theorem frames_of_any_chunking {calls : List Call} {reading : Reading}
    (ran : Reading.run checksum calls {} = some reading) :
    bodies reading.given <+: (parse checksum reading.bytes).frames ∧
      (reading.mayRead = true ∨ (∃ next ∈ reading.given, next.isError = true) →
        bodies reading.given = (parse checksum reading.bytes).frames ∧
          reading.given.filter Next.isError = (parse checksum reading.bytes).verdict.errors) ∧
      (∀ earlier error later, reading.given = earlier ++ error :: later → error.isError = true →
        ∀ next ∈ later, next = .nothing) ∧
      (reading.mayRead = true → (∀ next ∈ reading.given, next.isError = false) → 0 < reading.reader.offered) := by
  have start : Reading.Open checksum {} := Reading.open_start
  have state := Reading.run_keeps (.inl start) ran
  obtain isOpen | isOver := state
  · have clean (next : Next) (member : next ∈ reading.given) : next.isError = false := by
      rw [← Bool.not_eq_true]
      exact filter_eq_nil_iff.mp isOpen.errors next member
    refine ⟨?_, Reading.all_given ran, ?_, ?_⟩
    · obtain ⟨rest, -, leaves, -⟩ := isOpen.rest
      rw [leaves.parse]
      exact prefix_append _ _
    · intro _ error _ same isError
      rw [clean error (by simp [same])] at isError
      cases isError
    · intro mayRead _
      obtain ⟨_, -, -, waits⟩ := isOpen.rest
      exact (waits mayRead).2
  · refine ⟨?_, Reading.all_given ran, ?_, ?_⟩
    · exact ⟨[], by rw [append_nil, isOver.errors.2]⟩
    · exact isOver.silent
    · intro _ clean
      obtain ⟨-, verdict, error, isError, -, _, _, same, -⟩ := isOver
      have member : error ∈ reading.given := by simp [same]
      have told := clean error member
      cases (verdict.isError_of isError).symm.trans told

def cutInHeader : List Call :=
  [.next, .read [1, 0, 0], .next, .read [0, 0, 0, 0, 0, 7], .next, .next]

theorem cutInHeader_shows : (Reading.run (fun _ => 0) cutInHeader {}).map (fun reading =>
        (reading.bytes, reading.given, reading.mayRead)) =
      some ([1, 0, 0, 0, 0, 0, 0, 0, 7], [.nothing, .nothing, .frame [7], .nothing], true) := by
  decide

theorem frames_of_any_chunking_cutInHeader :
    ∃ reading, Reading.run (fun _ => 0) cutInHeader {} = some reading ∧
      (parse (fun _ => 0) reading.bytes).frames = [[7]] ∧ 0 < reading.reader.offered := by
  obtain ⟨reading, ran, shows⟩ := map_eq_some_iff.mp cutInHeader_shows
  simp only [Prod.mk.injEq] at shows
  obtain ⟨_, given, mayRead⟩ := shows
  have theirs := frames_of_any_chunking ran
  refine ⟨reading, ran, ?_, theirs.2.2.2 mayRead ?_⟩
  · rw [← (theirs.2.1 (.inl mayRead)).1, given]
    rfl
  · rw [given]
    decide

def fullReader (chunk : List UInt8) (full : chunk.length = READ_BUFFER) (broken : Bool) : FrameReader where
  buffer := (Window.empty 0).fill chunk (Nat.le_of_eq full)
  broken

section Full

variable {chunk : List UInt8} (full : chunk.length = READ_BUFFER)

include full

theorem fullReader_held (broken : Bool) : (fullReader chunk full broken).buffer.held = chunk :=
  (Window.held_fill _ _ (Nat.le_of_eq full)).trans (nil_append _)

theorem fullReader_read : FrameReader.readFrom chunk {} = some (fullReader chunk full false) := by
  have place : FrameReader.readingBuffer {} = Window.empty 0 := if_neg (by decide)
  have fits : chunk.length ≤ (FrameReader.readingBuffer {}).room := by
    rw [place]
    exact Nat.le_of_eq full
  rw [FrameReader.readFrom, dif_pos fits]
  simp only [place]
  rfl

theorem fullReader_next (bad : unpackHeader (chunk.take HEADER_LENGTH) = none) :
    (fullReader chunk full false).next checksum = (.badHeader, fullReader chunk full true) := by
  have held := fullReader_held full false
  have long : ¬chunk.length < HEADER_LENGTH := by
    rw [full]
    decide
  have taken : (fullReader chunk full false).take checksum = (.badHeader, fullReader chunk full false) := by
    unfold FrameReader.take
    simp only [held, if_neg long, bad]
    rfl
  simp only [FrameReader.next, taken]
  rfl

theorem fullReader_offered (broken : Bool) : (fullReader chunk full broken).offered = 0 := by
  have stop : (fullReader chunk full broken).buffer.stop = READ_BUFFER := by
    simp only [fullReader, Window.fill, Window.empty, Nat.zero_add, full]
  change (fullReader chunk full broken).readingBuffer.room = 0
  rw [FrameReader.readingBuffer, if_pos stop, Window.room_compact, fullReader_held, full, Nat.sub_self]

theorem fullReader_stuck (bad : unpackHeader (chunk.take HEADER_LENGTH) = none) :
    ∃ reading, Reading.run checksum [.next, .read chunk, .next, .next] {} = some reading ∧
      reading.given = [.nothing, .badHeader, .nothing] ∧ reading.mayRead = true ∧
      reading.reader.offered = 0 := by
  have first : FrameReader.next checksum {} = (.nothing, {}) := rfl
  have last : (fullReader chunk full true).next checksum = (.nothing, fullReader chunk full true) := rfl
  have some_ : chunk.isEmpty = false := by
    rw [isEmpty_eq_false_iff, ← length_pos_iff, full]
    decide
  refine ⟨⟨fullReader chunk full true, chunk, [.nothing, .badHeader, .nothing], true⟩, ?_, rfl, rfl,
    fullReader_offered full true⟩
  simp [Reading.run, Reading.call, first, some_, fullReader_read full, fullReader_next full bad, last]

end Full

theorem fullOfZeros_offers_nothing : ∃ reading, Reading.run (fun _ => 0)
        [.next, .read (replicate READ_BUFFER 0), .next, .next] {} = some reading ∧
      reading.given = [.nothing, .badHeader, .nothing] ∧ reading.mayRead = true ∧
      reading.reader.offered = 0 := by
  refine fullReader_stuck length_replicate ?_
  rw [take_replicate]
  decide

end Multiplexer.Frames
