import Multiplexer.Frames.ConnectionReader
import Multiplexer.Frames.FrameReaderProperties

/-! What a connection of the server hands over is what the reference parse takes, however its
socket's reads cut the stream, so that server and client take the same frames from the same
bytes. -/

set_option autoImplicit false

namespace Multiplexer.Frames

open List

variable {checksum : List UInt8 → UInt32} {rest bytes : List UInt8}

/-! ## Headers -/

theorem unpackHeader_of_bodyLength {header : List UInt8} (good : bodyLength header ≠ 0) :
    unpackHeader header = some ⟨bodyLength header, littleEndian ((header.drop 4).take 4)⟩ := by
  unfold bodyLength at good ⊢
  unfold unpackHeader
  dsimp only at good ⊢
  split at good
  · exact absurd rfl good
  · rename_i small
    rw [if_neg small, if_neg (not_or.mpr ⟨good, small⟩)]

theorem unpackHeader_of_none {header : List UInt8} (bad : bodyLength header = 0) :
    unpackHeader header = none := by
  unfold bodyLength at bad
  unfold unpackHeader
  dsimp only at bad ⊢
  split at bad
  · rename_i big
    exact if_pos (.inr big)
  · exact if_pos (.inl bad)

theorem verify_cells (large : Large) : verify checksum large.header large.body.cells =
      ((checksum large.body.cells).toNat == large.header.checksum) := by
  rw [verify, large.body.length_cells, beq_self_eq_true, Bool.true_and]

theorem checksum_in_place (held : List UInt8) :
    ((held.take HEADER_LENGTH).drop 4).take 4 = (held.drop 4).take 4 := by
  rw [drop_take, take_take]
  rfl

namespace ConnectionReader

variable {reader after : ConnectionReader}

def Holds (reader : ConnectionReader) (rest : List UInt8) : Prop :=
  match reader.state with
  | .readingBody frame =>
    reader.buffer.held = [] ∧ ∃ header, header.length = HEADER_LENGTH ∧
      unpackHeader header = some frame.header ∧ rest = header ++ frame.body.held
  | _ => rest = reader.buffer.held

/-- The frames of the bytes read were handed over, and a step of reading is to come, or a read
for more is under way. -/
structure Reads (checksum : List UInt8 → UInt32) (reader : ConnectionReader) : Prop where
  goesOn : reader.stopped = false
  rest : ∃ rest, reader.Holds rest ∧ Leaves checksum reader.bytes reader.handed rest ∧ match reader.state with
    | .free => reader.posted = 1
    | .reading | .readingBody _ =>
      reader.posted = 0 ∧ front checksum rest = .more ∧ ∃ size, reader.asked = some size ∧ 0 < size
    | .broken => False

structure IsShut (checksum : List UInt8 → UInt32) (reader : ConnectionReader) : Prop where
  broken : reader.state = .broken
  handed : (∃ rest, Leaves checksum reader.bytes reader.handed rest ∧ reader.stopped = true) ∨
    ∃ verdict, verdict ≠ .more ∧ Ends checksum reader.bytes reader.handed verdict

structure Stands (checksum : List UInt8 → UInt32) (reader : ConnectionReader) : Prop where
  goesOn : reader.stopped = false
  free : reader.state = .free
  idle : reader.posted = 0
  leaves : Leaves checksum reader.bytes reader.handed reader.buffer.held

theorem front_of_not_held (notHeld : reader.nextFrameHeld = false) :
    front checksum reader.buffer.held = .more ∧ reader.buffer.held.length < READ_BUFFER_SIZE := by
  unfold nextFrameHeld at notHeld
  by_cases tiny : reader.buffer.held.length < HEADER_LENGTH
  · refine ⟨?_, Nat.lt_trans tiny (by decide)⟩
    rw [front, if_pos tiny]
  · have long := Nat.not_lt.mp tiny
    rw [if_neg tiny] at notHeld
    simp only [Bool.or_eq_false_iff, beq_eq_false_iff_ne, decide_eq_false_iff_not] at notHeld
    obtain ⟨⟨good, _⟩, _⟩ := notHeld
    refine ⟨?_, by omega⟩
    rw [front_of_header long (unpackHeader_of_bodyLength good), if_pos]
    rw [length_drop]
    dsimp only
    omega

theorem readMore_reads (stands : Stands checksum reader) (notHeld : reader.nextFrameHeld = false) :
    Reads checksum reader.readMore := by
  have waits : front checksum reader.buffer.held = .more ∧ _ := front_of_not_held notHeld
  obtain ⟨first, _⟩ := waits
  have held : reader.readMore.buffer.held = reader.buffer.held := by
    simp only [readMore]
    split
    · rfl
    · exact Window.held_compact _
  have front : reader.readMore.buffer.start = 0 := by
    simp only [readMore]
    split
    · assumption
    · rfl
  refine ⟨stands.goesOn, reader.buffer.held, held.symm, stands.leaves, stands.idle, first,
    reader.readMore.buffer.room, rfl, ?_⟩
  have length := reader.readMore.buffer.length_held
  have stop_le := reader.readMore.buffer.stop_le
  rw [held, front] at length
  rw [Window.room]
  omega

section

variable (ends : Bool)

include ends

theorem startRead_of_not_held (depth : Nat) (free : reader.state = .free) (notHeld : reader.nextFrameHeld = false) :
    startRead checksum ends (depth + 1) reader = reader.readMore := by
  unfold nextFrameHeld at notHeld
  rw [startRead, free]
  dsimp only
  by_cases tiny : reader.buffer.held.length < HEADER_LENGTH
  · rw [if_pos tiny]
  · rw [if_neg tiny] at notHeld ⊢
    simp only [Bool.or_eq_false_iff, beq_eq_false_iff_ne, decide_eq_false_iff_not] at notHeld
    obtain ⟨⟨good, short⟩, fits⟩ := notHeld
    rw [if_neg good, if_neg (not_or.mpr ⟨short, fits⟩)]

theorem startRead_of_broken (depth : Nat) (broken : reader.state = .broken) :
    startRead checksum ends depth reader = reader := by
  cases depth with
  | zero => rfl
  | succ => rw [startRead, broken]

theorem readOn_shut (depth : Nat) (shut : IsShut checksum reader) :
    IsShut checksum (reader.readOn (startRead checksum ends depth)) := by
  unfold readOn
  split
  · exact ⟨shut.broken, shut.handed⟩
  · rw [startRead_of_broken ends depth shut.broken]
    exact shut

theorem readOn_reads (depth : Nat) (stands : Stands checksum reader) :
    Reads checksum (reader.readOn (startRead checksum ends (depth + 1))) := by
  unfold readOn
  cases held : reader.nextFrameHeld with
  | true =>
    obtain ⟨buffer, _, _, _, _, _⟩ := reader
    obtain ⟨goesOn, free, idle, leaves⟩ := stands
    cases free
    cases idle
    exact ⟨goesOn, buffer.held, rfl, leaves, rfl⟩
  | false =>
    rw [if_neg Bool.false_ne_true, startRead_of_not_held ends depth stands.free held]
    exact readMore_reads stands held

theorem frameRead_reads (depth : Nat) {frame : RawMessage}
    (goesOn : reader.stopped = false) (free : reader.state = .free) (idle : reader.posted = 0)
    (leaves : Leaves checksum reader.bytes reader.handed rest) (first : front checksum rest =
      if verify checksum frame.header frame.body.cells then
        .frame frame.body.cells reader.buffer.held
      else .badChecksum) :
    Reads checksum (frameRead checksum ends (startRead checksum ends (depth + 1)) frame reader) ∨
      IsShut checksum (frameRead checksum ends (startRead checksum ends (depth + 1)) frame reader) := by
  rw [verify_cells] at first
  unfold frameRead
  by_cases good : (checksum frame.body.cells).toNat = frame.header.checksum
  · rw [if_neg (not_not.mpr good)]
    rw [if_pos (beq_iff_eq.mpr good)] at first
    have leaves' := leaves.frame first
    cases ends with
    | true => exact .inr (readOn_shut true _ ⟨rfl, .inl ⟨_, leaves', rfl⟩⟩)
    | false => exact .inl (readOn_reads false depth ⟨goesOn, free, idle, leaves'⟩)
  · rw [if_pos good]
    rw [if_neg (fun same => good (beq_iff_eq.mp same))] at first
    exact .inr ⟨rfl, .inr ⟨.badChecksum, nofun, leaves.badChecksum first⟩⟩

theorem takeFrame_reads (depth : Nat) (stands : Stands checksum reader)
    {length : Nat} (long : HEADER_LENGTH ≤ reader.buffer.held.length)
    (unpacked : unpackHeader (reader.buffer.held.take HEADER_LENGTH) =
      some ⟨length, littleEndian ((reader.buffer.held.drop 4).take 4)⟩) :
    Reads checksum (takeFrame checksum ends (startRead checksum ends (depth + 1)) length reader) ∨
      IsShut checksum (takeFrame checksum ends (startRead checksum ends (depth + 1)) length reader) := by
  obtain ⟨goesOn, free, idle, leaves⟩ := stands
  have first : front checksum reader.buffer.held = _ := front_of_header long unpacked
  have fits := length_take_le length (reader.buffer.held.drop HEADER_LENGTH)
  have size : (reader.buffer.held.drop HEADER_LENGTH).length =
      reader.buffer.held.length - HEADER_LENGTH := length_drop
  unfold takeFrame
  dsimp only at first ⊢
  generalize littleEndian ((reader.buffer.held.drop 4).take 4) = sum at *
  have here : (Large.begin ⟨length, sum⟩ ((reader.buffer.held.drop HEADER_LENGTH).take length)
      fits).body.held = (reader.buffer.held.drop HEADER_LENGTH).take length :=
    FrameReader.begin_held fits
  have left := Window.held_skip reader.buffer (min (HEADER_LENGTH + length) reader.buffer.held.length)
    (Nat.min_le_right _ _)
  split
  · rename_i whole
    have filled : (Large.begin ⟨length, sum⟩
        ((reader.buffer.held.drop HEADER_LENGTH).take length) fits).filled = true := by
      rw [Large.filled_iff, here, whole]
      exact Nat.le_refl length
    rw [Large.held_of_filled _ filled] at here
    rw [length_take] at whole
    rw [if_neg (by omega), drop_drop] at first
    refine frameRead_reads ends depth goesOn free idle leaves ?_
    rw [here, first]
    dsimp only
    rw [left, Nat.min_eq_left (by omega)]
    rfl
  · rename_i part
    have unfilled : (Large.begin ⟨length, sum⟩
        ((reader.buffer.held.drop HEADER_LENGTH).take length) fits).filled = false := by
      rw [← Bool.not_eq_true, Large.filled_iff, here]
      exact fun enough => part (Nat.le_antisymm fits enough)
    have all : (reader.buffer.held.drop HEADER_LENGTH).take length = reader.buffer.held.drop HEADER_LENGTH := by
      rw [length_take] at part
      exact take_of_length_le (by omega)
    rw [length_take] at part
    rw [if_pos (by omega)] at first
    have nothing := left.trans (drop_eq_nil_of_le (by omega))
    refine .inl ⟨goesOn, reader.buffer.held, ⟨?_, reader.buffer.held.take HEADER_LENGTH, ?_, unpacked,
      ?_⟩, leaves, idle, first, _, rfl, Large.room_pos _ unfilled⟩
    · exact nothing
    · rw [length_take]
      omega
    · rw [here, all, take_append_drop]

theorem startRead_reads (depth : Nat) (stands : Stands checksum reader) :
    Reads checksum (startRead checksum ends (depth + 2) reader) ∨
      IsShut checksum (startRead checksum ends (depth + 2) reader) := by
  cases notHeld : reader.nextFrameHeld with
  | false =>
    rw [startRead_of_not_held ends _ stands.free notHeld]
    exact .inl (readMore_reads stands notHeld)
  | true =>
    simp only [nextFrameHeld] at notHeld
    rw [startRead, stands.free]
    dsimp only
    by_cases tiny : reader.buffer.held.length < HEADER_LENGTH
    · cases (if_pos tiny).symm.trans notHeld
    · have long := Nat.not_lt.mp tiny
      rw [if_neg tiny] at notHeld ⊢
      by_cases bad : bodyLength (reader.buffer.held.take HEADER_LENGTH) = 0
      · rw [if_pos bad]
        have first : front checksum reader.buffer.held = .badHeader :=
          front_of_badHeader long (unpackHeader_of_none bad)
        exact .inr ⟨rfl, .inr ⟨.badHeader, nofun, stands.leaves.badHeader first⟩⟩
      · have unpacked := unpackHeader_of_bodyLength bad
        rw [checksum_in_place] at unpacked
        simp only [Bool.or_eq_true, beq_iff_eq, decide_eq_true_eq, or_assoc] at notHeld
        rw [if_neg bad, if_pos (notHeld.resolve_left bad)]
        exact takeFrame_reads ends depth stands long unpacked

end

/-! ## Steps and runs -/

variable {ends : Bool}

theorem act_start_of_broken (broken : reader.state = .broken)
    (acted : reader.act checksum (.start ends) = some after) :
    ∃ posted, after = { reader with posted } := by
  simp only [act] at acted
  split at acted
  · cases acted
  · rename_i posted _
    cases acted
    exact ⟨posted, startRead_of_broken ends CALLS broken⟩

section

variable (state : Reads checksum reader ∨ IsShut checksum reader)

include state

theorem act_start (acted : reader.act checksum (.start ends) = some after) :
    Reads checksum after ∨ IsShut checksum after := by
  obtain reads | shut := state
  · simp only [act] at acted
    split at acted
    · cases acted
    rename_i posted isPosted
    cases acted
    obtain ⟨goesOn, _, holds, leaves, next⟩ := reads
    cases state : reader.state with
    | free =>
      simp only [state] at next
      simp only [Holds, state] at holds
      subst holds
      have idle : posted = 0 := by omega
      rw [← state]
      exact startRead_reads ends 0 ⟨goesOn, state, idle, leaves⟩
    | reading | readingBody frame =>
      simp only [state] at next
      omega
    | broken =>
      simp only [state] at next
  · obtain ⟨_, rfl⟩ := act_start_of_broken shut.broken acted
    exact .inr ⟨shut.broken, shut.handed⟩

theorem act_read {chunk : List UInt8}
    (acted : reader.act checksum (.read chunk ends) = some after) :
    Reads checksum after ∨ IsShut checksum after := by
  simp only [act] at acted
  split at acted
  · rename_i isReading
    obtain reads | shut := state
    · obtain ⟨goesOn, _, holds, leaves, next⟩ := reads
      simp only [isReading] at next
      simp only [Holds, isReading] at holds
      subst holds
      split at acted
      · split at acted
        · cases acted
        · cases acted
          refine startRead_reads ends 0 ⟨goesOn, rfl, next.1, ?_⟩
          dsimp only
          rw [Window.held_fill]
          exact leaves.read chunk
      · cases acted
    · cases shut.broken.symm.trans isReading
  · cases acted

theorem act_readBody {chunk : List UInt8}
    (acted : reader.act checksum (.readBody chunk ends) = some after) :
    Reads checksum after ∨ IsShut checksum after := by
  simp only [act] at acted
  split at acted
  · rename_i frame isReading
    obtain reads | shut := state
    · obtain ⟨goesOn, rest, holds, leaves, next⟩ := reads
      simp only [isReading] at next
      simp only [Holds, isReading] at holds
      obtain ⟨nothing, header, length, unpacked, rfl⟩ := holds
      split at acted
      · rename_i fits
        split at acted
        · cases acted
        · have held := Window.held_fill frame.body chunk fits
          have leaves' := leaves.read chunk
          rw [append_assoc, ← held] at leaves'
          let grown : RawMessage := ⟨frame.header, frame.body.fill chunk fits, frame.fromFront⟩
          have first : front checksum (header ++ grown.body.held) = _ := front_large length unpacked
          split at acted
          · rename_i filled
            cases acted
            rw [if_pos filled] at first
            refine frameRead_reads ends 1 goesOn rfl next.1 leaves' ?_
            rw [first, nothing]
          · rename_i unfilled
            cases acted
            rw [if_neg unfilled] at first
            rw [Bool.not_eq_true] at unfilled
            exact .inl ⟨goesOn, _, ⟨nothing, header, length, unpacked, rfl⟩, leaves', next.1, first,
              _, rfl, Large.room_pos _ unfilled⟩
      · cases acted
    · cases shut.broken.symm.trans isReading
  · cases acted

theorem act_fails (acted : reader.act checksum .fails = some after) : IsShut checksum after := by
  cases acted
  obtain reads | shut := state
  · obtain ⟨-, rest, -, leaves, -⟩ := reads
    exact ⟨rfl, .inl ⟨rest, leaves, rfl⟩⟩
  · refine ⟨rfl, ?_⟩
    obtain ⟨rest, leaves, -⟩ | told := shut.handed
    · exact .inl ⟨rest, leaves, rfl⟩
    · exact .inr told

theorem act_keeps {event : Event} (acted : reader.act checksum event = some after) :
    Reads checksum after ∨ IsShut checksum after := by
  cases event with
  | start => exact act_start state acted
  | read => exact act_read state acted
  | readBody => exact act_readBody state acted
  | fails => exact .inr (act_fails state acted)

theorem run_keeps {events : List Event} (ran : run checksum events reader = some after) :
    Reads checksum after ∨ IsShut checksum after := by
  induction events generalizing reader with
  | nil =>
    cases ran
    exact state
  | cons _ _ ih =>
    obtain ⟨_, acted, ran⟩ := Option.bind_eq_some_iff.mp ran
    exact ih (act_keeps state acted) ran

end

theorem reads_start : Reads checksum {} where
  goesOn := rfl
  rest := ⟨[], rfl, .nil, rfl⟩

theorem act_broken {event : Event} (broken : reader.state = .broken)
    (acted : reader.act checksum event = some after) :
    after.state = .broken ∧ after.handed = reader.handed := by
  cases event with
  | start =>
    obtain ⟨_, rfl⟩ := act_start_of_broken broken acted
    exact ⟨broken, rfl⟩
  | read chunk ends | readBody chunk ends =>
    simp only [act, broken] at acted
    cases acted
  | fails =>
    cases acted
    exact ⟨rfl, rfl⟩

theorem Reads.drained (reads : Reads checksum reader) (idle : reader.posted = 0) :
    parse checksum reader.bytes = ⟨reader.handed, .more⟩ ∧ reader.state ≠ .broken := by
  obtain ⟨-, _, -, leaves, next⟩ := reads
  cases state : reader.state with
  | free =>
    simp only [state] at next
    omega
  | reading | readingBody frame =>
    simp only [state] at next
    exact ⟨leaves.parse_more next.2.1, nofun⟩
  | broken => simp only [state] at next

theorem Reads.asked_pos {size : Nat} (reads : Reads checksum reader)
    (asked : reader.asked = some size) : 0 < size := by
  obtain ⟨-, _, -, -, next⟩ := reads
  cases state : reader.state with
  | free =>
    rw [ConnectionReader.asked, state] at asked
    cases asked
  | reading | readingBody frame =>
    simp only [state] at next
    obtain ⟨-, -, _, same, positive⟩ := next
    cases same.symm.trans asked
    exact positive
  | broken => simp only [state] at next

theorem IsShut.drained (shut : IsShut checksum reader) (goesOn : reader.stopped = false) :
    (parse checksum reader.bytes).frames = reader.handed ∧ (parse checksum reader.bytes).verdict ≠ .more := by
  obtain ⟨-, -, isStopped⟩ | ⟨_, bad, ends⟩ := shut.handed
  · cases goesOn.symm.trans isStopped
  · rw [ends.parse]
    exact ⟨rfl, bad⟩

end ConnectionReader

open ConnectionReader in
/-- However the reads cut the stream, the connection hands over the frames of the reference
parse in order, all of them once nothing but its bytes ended it, and is shut down exactly when a
bad header or checksum ends them; and the client's reader makes the same frames of the bytes. -/
theorem connection_reads_reference {events : List ConnectionReader.Event} {reader : ConnectionReader}
    (ran : run checksum events {} = some reader) :
    reader.handed <+: (parse checksum reader.bytes).frames ∧ (reader.stopped = false → reader.posted = 0 →
        reader.handed = (parse checksum reader.bytes).frames ∧
          (reader.state = .broken ↔ (parse checksum reader.bytes).verdict ≠ .more)) ∧
      (∀ event after, reader.state = .broken → reader.act checksum event = some after →
        after.state = .broken ∧ after.handed = reader.handed) ∧
      (∀ size, reader.asked = some size → 0 < size) ∧
      (reader.stopped = false → reader.posted = 0 → ∀ calls reading,
        Reading.run checksum calls {} = some reading → reading.bytes = reader.bytes →
        reading.mayRead = true ∨ (∃ next ∈ reading.given, next.isError = true) →
          bodies reading.given = reader.handed) := by
  have state : Reads checksum reader ∨ IsShut checksum reader := run_keeps (.inl reads_start) ran
  have drained (goesOn : reader.stopped = false) (idle : reader.posted = 0) :
      reader.handed = (parse checksum reader.bytes).frames ∧
        (reader.state = .broken ↔ (parse checksum reader.bytes).verdict ≠ .more) := by
    obtain reads | shut := state
    · obtain ⟨parsed, isOpen⟩ := reads.drained idle
      rw [parsed]
      exact ⟨rfl, fun broken => absurd broken isOpen, fun bad => absurd rfl bad⟩
    · obtain ⟨all, bad⟩ := shut.drained goesOn
      exact ⟨all.symm, fun _ => bad, fun _ => shut.broken⟩
  refine ⟨?_, drained, fun _ _ => act_broken, ?_, ?_⟩
  · obtain ⟨-, _, -, leaves, -⟩ | ⟨-, ⟨_, leaves, -⟩ | ⟨_, -, ends⟩⟩ := state
    · rw [leaves.parse]
      exact prefix_append _ _
    · rw [leaves.parse]
      exact prefix_append _ _
    · exact ⟨[], by rw [append_nil, ends.parse]⟩
  · intro _ asked
    obtain reads | shut := state
    · exact reads.asked_pos asked
    · rw [ConnectionReader.asked, shut.broken] at asked
      cases asked
  · intro goesOn idle _ _ readingRan sameBytes ready
    have same := (Reading.all_given readingRan ready).1
    rw [same, sameBytes, (drained goesOn idle).1]

def frameThenZeros : List ConnectionReader.Event :=
  [.start false, .read [1, 0, 0] false, .read [0, 0, 0, 0, 0, 7] false,
    .read [0, 0, 0, 0, 0, 0, 0, 0] false]

theorem frameThenZeros_shows :
    (ConnectionReader.run (fun _ => 0) frameThenZeros {}).map (fun reader =>
        (reader.bytes, reader.stopped, reader.posted)) =
      some ([1, 0, 0, 0, 0, 0, 0, 0, 7, 0, 0, 0, 0, 0, 0, 0, 0], false, 0) := by
  decide

theorem connection_reads_reference_frameThenZeros :
    ∃ reader, ConnectionReader.run (fun _ => 0) frameThenZeros {} = some reader ∧
      reader.handed = [[7]] ∧ reader.state = .broken := by
  obtain ⟨reader, ran, shows⟩ := Option.map_eq_some_iff.mp frameThenZeros_shows
  simp only [Prod.mk.injEq] at shows
  obtain ⟨bytes, goesOn, idle⟩ := shows
  obtain ⟨all, shut⟩ := (connection_reads_reference ran).2.1 goesOn idle
  rw [bytes] at all shut
  exact ⟨reader, ran, all.trans (by decide), shut.mpr (by decide)⟩

end Multiplexer.Frames
