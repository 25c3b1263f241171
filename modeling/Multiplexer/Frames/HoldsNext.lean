import Multiplexer.Frames.FrameReaderProperties

/-! What the client's reader tells of its next frame without taking it. -/

set_option autoImplicit false

namespace Multiplexer.Frames

namespace FrameReader

section Looks

variable (checksum : List UInt8 → UInt32) (reader : FrameReader)

/-- `next` gives a frame or an error, or goes on to a frame larger than the buffer. -/
def Proceeds : Prop :=
  (∃ body, (reader.next checksum).1 = .frame body) ∨ (reader.next checksum).1.isError = true ∨
    reader.large = none ∧ ∃ large, (reader.next checksum).2.large = some large ∧
      READ_BUFFER < HEADER_LENGTH + large.header.length

/-- `next` leaves the reader waiting for more of a header, of a frame that fits the buffer, or of a
large body begun before. -/
inductive Waits : Prop
  | header (alone : reader.large = none) (short : reader.buffer.held.length < HEADER_LENGTH)
      (still : reader.next checksum = (.nothing, reader))
  | body (header : Header) (alone : reader.large = none)
      (unpacked : unpackHeader (reader.buffer.held.take HEADER_LENGTH) = some header)
      (fits : HEADER_LENGTH + header.length ≤ READ_BUFFER)
      (short : reader.buffer.held.length < HEADER_LENGTH + header.length)
      (gives : (reader.next checksum).1 = .started ∨ (reader.next checksum).1 = .nothing)
      (still : (reader.next checksum).2.large = none)
      (same : (reader.next checksum).2.buffer.held = reader.buffer.held)
  | large (large : Large) (begun : reader.large = some large) (short : large.filled = false)
      (still : reader.next checksum = (.nothing, reader))

/-- A reader after some calls of `read_from` and `next`, in any order, and what these gave. -/
inductive Reached : FrameReader → List Next → Prop
  | start : Reached {} []
  | next {reader given} (reached : Reached reader given) :
      Reached (reader.next checksum).2 (given ++ [(reader.next checksum).1])
  | read {reader after given chunk} (reached : Reached reader given)
      (reads : reader.readFrom chunk = some after) : Reached after given

end Looks

variable {checksum : List UInt8 → UInt32} {reader : FrameReader}

theorem next_of_broken (broken : reader.broken = true) : reader.next checksum = (.nothing, reader) := by
  rw [next, broken]
  rfl

theorem next_of_take {took : Next × FrameReader} (whole : reader.broken = false)
    (takes : reader.take checksum = took) :
    reader.next checksum = (took.1, { took.2 with broken := took.1.isError }) := by
  obtain ⟨gave, after⟩ := took
  rw [next, whole, takes]
  cases gave <;> rfl

theorem Reached.broken_iff {given : List Next} (reached : Reached checksum reader given) :
    reader.broken = true ↔ ∃ error ∈ given, error.isError = true := by
  induction reached with
  | start => simp
  | @next reader given _ ih =>
    simp only [List.mem_append, or_and_right, exists_or, ← ih, List.mem_singleton, exists_eq_left]
    cases whole : reader.broken with
    | true => simp [next_of_broken whole, whole, Next.isError]
    | false => simp [next_of_take whole rfl]
  | @read reader after given chunk _ reads ih =>
    rw [← ih]
    unfold readFrom at reads
    split at reads
    all_goals
      split at reads
      · cases reads
        rfl
      · cases reads

theorem Reached.run {reading after : Reading} (reached : Reached checksum reading.reader reading.given)
    {calls : List Call} (ran : reading.run checksum calls = some after) :
    Reached checksum after.reader after.given := by
  induction calls generalizing reading with
  | nil =>
    cases ran
    exact reached
  | cons call _ ih =>
    obtain ⟨_, called, ran⟩ := Option.bind_eq_some_iff.mp ran
    refine ih ?_ ran
    cases call with
    | next =>
      cases called
      exact reached.next
    | read chunk =>
      simp only [Reading.call] at called
      split at called
      · obtain ⟨_, reads, rfl⟩ := Option.map_eq_some_iff.mp called
        exact reached.read reads
      · cases called

theorem nextStarted_large {large : Large} (begun : reader.large = some large)
    (short : large.filled = false) :
    (reader.nextStarted checksum).2.large = some large := by
  unfold nextStarted
  split
  · exact begun
  · simp [begun, short]

theorem next_still (whole : reader.broken = false) (takes : reader.take checksum = (.nothing, reader)) :
    reader.next checksum = (.nothing, reader) := by
  rw [next_of_take whole takes]
  exact congrArg _ (congrArg (fun broken => { reader with broken }) whole.symm)

theorem unpackHeader_take (bytes : List UInt8) : unpackHeader (bytes.take HEADER_LENGTH) =
    if littleEndian (bytes.take 4) = 0 ∨ littleEndian (bytes.take 4) > MAX_MESSAGE_SIZE then none
    else some ⟨littleEndian (bytes.take 4), littleEndian (((bytes.take HEADER_LENGTH).drop 4).take 4)⟩ := by
  rw [unpackHeader, List.take_take]
  rfl

/-- A body that is checked is given, or the error of a wrong checksum. -/
theorem proceeds_of_verify {header : Header} {body : List UInt8} {after : FrameReader}
    (whole : reader.broken = false) (takes : reader.take checksum =
      if verify checksum header body then (.frame body, after) else (.badChecksum, after)) :
    reader.Proceeds checksum := by
  split at takes
  · exact .inl ⟨body, by rw [next_of_take whole takes]⟩
  · exact .inr (.inl (by rw [next_of_take whole takes]; rfl))

theorem holdsNext_alone (whole : reader.broken = false) (alone : reader.large = none)
    (long : ¬reader.buffer.held.length < HEADER_LENGTH) {length : Nat}
    (told : littleEndian (reader.buffer.held.take 4) = length) :
    reader.holdsNext = true ↔ length = 0 ∨ HEADER_LENGTH + length ≤ reader.buffer.held.length ∨
      READ_BUFFER < HEADER_LENGTH + length := by
  simp only [holdsNext, whole, alone, if_neg long, told]
  simp [or_assoc]

section Alone

variable {header : Header} (whole : reader.broken = false) (alone : reader.large = none)
  (long : ¬reader.buffer.held.length < HEADER_LENGTH)
  (unpacked : unpackHeader (reader.buffer.held.take HEADER_LENGTH) = some header)

include whole alone long unpacked

theorem proceeds_of_big (big : READ_BUFFER < HEADER_LENGTH + header.length) : reader.Proceeds checksum := by
  have size := reader.buffer.length_held_le
  have fits := body_fits reader.buffer big
  have unfilled : (Large.begin header (reader.buffer.held.drop HEADER_LENGTH) fits).filled = false := by
    rw [← Bool.not_eq_true, Large.filled_iff, begin_held, List.length_drop]
    exact Nat.not_le.mpr (show _ < header.length by omega)
  have next := next_of_take whole (Eq.refl (reader.take checksum))
  simp only [take, alone, if_neg long, unpacked, dif_pos big] at next
  refine .inr (.inr ⟨alone, .begin header _ fits, ?_, big⟩)
  rw [next]
  exact nextStarted_large rfl unfilled

theorem waits_of_short (fits : HEADER_LENGTH + header.length ≤ READ_BUFFER)
    (short : reader.buffer.held.length < HEADER_LENGTH + header.length) : reader.Waits checksum := by
  have next := next_of_take whole (Eq.refl (reader.take checksum))
  simp only [take, alone, if_neg long, unpacked, dif_neg fits.not_gt, dif_pos short] at next
  have same : (if reader.buffer.start + (HEADER_LENGTH + header.length) > READ_BUFFER then
      reader.buffer.compact else reader.buffer).held = reader.buffer.held := by
    split
    · exact Window.held_compact _
    · rfl
  cases started : reader.started with
  | true =>
    simp only [nextStarted, started, if_true] at next
    exact .body header alone unpacked fits short (.inr (by rw [next])) (by rw [next]) (by rw [next, same])
  | false =>
    simp only [nextStarted, started] at next
    exact .body header alone unpacked fits short (.inl (by rw [next]; rfl)) (by rw [next]; rfl) (by rw [next]; exact same)

end Alone

theorem next_waits_or_proceeds (whole : reader.broken = false) :
    if reader.holdsNext then reader.Proceeds checksum else reader.Waits checksum := by
  cases begun : reader.large with
  | some large =>
    simp only [holdsNext, whole, begun]
    cases filled : large.filled with
    | true =>
      have takes : reader.take checksum = reader.takeLarge checksum large := by
        simp only [take, begun, filled, if_true]
      exact proceeds_of_verify whole takes
    | false => exact .large large begun filled (next_still whole (by simp [take, begun, filled]))
  | none =>
    by_cases short : reader.buffer.held.length < HEADER_LENGTH
    · simp only [holdsNext, whole, begun, if_pos short]
      exact .header begun short (next_still whole (by simp [take, begun, short]))
    · have holds := holdsNext_alone whole begun short rfl
      have size := reader.buffer.length_held_le
      have small : READ_BUFFER ≤ MAX_MESSAGE_SIZE := by decide
      have told := unpackHeader_take reader.buffer.held
      cases unpacked : unpackHeader (reader.buffer.held.take HEADER_LENGTH) with
      | none =>
        rw [unpacked, eq_comm, ite_eq_left_iff] at told
        rw [if_pos (holds.mpr (by simp at told; omega))]
        have takes : reader.take checksum = (.badHeader, reader) := by
          simp only [take, begun, if_neg short, unpacked]
        exact .inr (.inl (by rw [next_of_take whole takes]; rfl))
      | some header =>
        have length : littleEndian (reader.buffer.held.take 4) = header.length ∧ header.length ≠ 0 := by
          rw [unpacked] at told
          split at told
          · cases told
          · rename_i bounds
            cases told
            exact ⟨rfl, fun zero => bounds (.inl zero)⟩
        rw [length.1] at holds
        by_cases big : READ_BUFFER < HEADER_LENGTH + header.length
        · rw [if_pos (holds.mpr (by omega))]
          exact proceeds_of_big whole begun short unpacked big
        · by_cases here : reader.buffer.held.length < HEADER_LENGTH + header.length
          · rw [if_neg (by rw [holds]; omega)]
            exact waits_of_short whole begun short unpacked (Nat.not_lt.mp big) here
          · rw [if_pos (holds.mpr (by omega))]
            apply proceeds_of_verify whole
            simp only [take, begun, if_neg short, unpacked, dif_neg big, dif_neg here]
            rfl

theorem Waits.not_proceeds (waits : reader.Waits checksum) : ¬reader.Proceeds checksum := by
  cases waits with
  | header alone _ still =>
    simp [Proceeds, still, alone, Next.isError]
  | body _ _ _ _ _ gives still =>
    rcases gives with gives | gives <;> simp [Proceeds, gives, still, Next.isError]
  | large _ begun _ still =>
    simp [Proceeds, still, begun, Next.isError]

/-- `holds_next` tells what `next` would do: of every reader reached it is true where that goes on,
false where it waits or an error was given before. -/
theorem holdsNext_tells {given : List Next} (reached : Reached checksum reader given) :
    (reader.holdsNext = true ↔ reader.Proceeds checksum) ∧ (reader.holdsNext = false ↔
        reader.Waits checksum ∨ ∃ error ∈ given, error.isError = true) := by
  rw [← reached.broken_iff]
  cases whole : reader.broken with
  | true =>
    have holds : reader.holdsNext = false := by simp [holdsNext, whole]
    have next : reader.next checksum = (.nothing, reader) := next_of_broken whole
    rcases found : reader.large <;> simp [holds, Proceeds, next, found, Next.isError]
  | false =>
    have looks : if reader.holdsNext then reader.Proceeds checksum else reader.Waits checksum :=
      next_waits_or_proceeds whole
    cases holds : reader.holdsNext with
    | true =>
      rw [holds, if_pos rfl] at looks
      have waits : ¬reader.Waits checksum := fun waits => waits.not_proceeds looks
      simp [looks, waits]
    | false =>
      rw [holds] at looks
      have waits : reader.Waits checksum := looks
      simp [waits, waits.not_proceeds]

/-- A reader that read `chunk` and was then asked for the next `times` times. -/
def looked (chunk : List UInt8) (times : Nat) : Option Reading :=
  Reading.run (fun _ => 7) (.next :: .read chunk :: .replicate times .next) {}

theorem looked_reached {chunk : List UInt8} {times : Nat} {reading : Reading}
    (looks : looked chunk times = some reading) : Reached (fun _ => 7) reading.reader reading.given := by
  have begun : Reached (fun _ => 7) ({} : Reading).reader ({} : Reading).given := .start
  exact begun.run looks

/-- Of a reader that holds a frame, of one that began a large body, and of one that gave an error. -/
theorem holdsNext_tells_looked :
    (∃ reading, looked [1, 0, 0, 0, 7, 0, 0, 0, 9] 0 = some reading ∧ reading.reader.Proceeds fun _ => 7) ∧
      (∃ reading, looked [0, 0, 1, 0, 7, 0, 0, 0, 9] 1 = some reading ∧ reading.given = [.nothing, .started] ∧
        reading.reader.Waits fun _ => 7) ∧
      ∃ reading, looked [0, 0, 0, 0, 7, 0, 0, 0] 1 = some reading ∧ reading.given = [.nothing, .badHeader] ∧
        ¬reading.reader.Proceeds fun _ => 7 := by
  have frame : (looked [1, 0, 0, 0, 7, 0, 0, 0, 9] 0).map (·.reader.holdsNext) = some true := by decide
  have large : (looked [0, 0, 1, 0, 7, 0, 0, 0, 9] 1).map (fun reading => (reading.reader.holdsNext, reading.given)) =
      some (false, [.nothing, .started]) := by decide
  have error : (looked [0, 0, 0, 0, 7, 0, 0, 0] 1).map (fun reading => (reading.reader.holdsNext, reading.given)) =
      some (false, [.nothing, .badHeader]) := by decide
  obtain ⟨whole, looks, holds⟩ := Option.map_eq_some_iff.mp frame
  refine ⟨⟨whole, looks, (holdsNext_tells (looked_reached looks)).1.mp holds⟩, ?_, ?_⟩
  · obtain ⟨begun, looks, shows⟩ := Option.map_eq_some_iff.mp large
    obtain ⟨holds, given⟩ := Prod.mk.inj shows
    refine ⟨begun, looks, given, ((holdsNext_tells (looked_reached looks)).2.mp holds).resolve_right ?_⟩
    rw [given]
    decide
  · obtain ⟨broken, looks, shows⟩ := Option.map_eq_some_iff.mp error
    obtain ⟨holds, given⟩ := Prod.mk.inj shows
    refine ⟨broken, looks, given, fun proceeds => ?_⟩
    rw [(holdsNext_tells (looked_reached looks)).1.mpr proceeds] at holds
    cases holds

end FrameReader

end Multiplexer.Frames
