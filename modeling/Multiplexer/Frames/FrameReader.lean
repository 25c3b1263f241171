import Multiplexer.Frames.Parse
import Multiplexer.Library.Window

/-! The client's reader of frames: one buffer that reads fill and small frames are copied out
of, and a buffer of its own for a frame too large for that one. -/

set_option autoImplicit false

namespace Multiplexer.Frames

def READ_BUFFER : Nat := 64 * 1024

inductive Next where
  | frame (body : List UInt8)
  | started
  | nothing
  | badHeader
  | badChecksum
deriving DecidableEq

structure Large where
  header : Header
  body : Window UInt8 header.length
  fromFront : body.start = 0

namespace Large

/-- A buffer of the size a header tells, what is here of the body in it. -/
def begin (header : Header) (here : List UInt8) (fits : here.length ≤ header.length) : Large where
  header
  body := (Window.empty 0).fill here fits
  fromFront := rfl

def filled (large : Large) : Bool := large.body.stop == large.header.length

end Large

structure FrameReader where
  buffer : Window UInt8 READ_BUFFER := .empty 0
  large : Option Large := none
  started : Bool := false
  broken : Bool := false

namespace FrameReader

/-- The buffer as a read finds it: moved to the front when it ends at its end. -/
def readingBuffer (reader : FrameReader) : Window UInt8 READ_BUFFER :=
  if reader.buffer.stop = READ_BUFFER then reader.buffer.compact else reader.buffer

def offered (reader : FrameReader) : Nat :=
  match reader.large with
  | some large => large.body.room
  | none => reader.readingBuffer.room

/-- `read_from`: one read of `chunk` into the slice offered; none for more than that holds. -/
def readFrom (chunk : List UInt8) (reader : FrameReader) : Option FrameReader :=
  match reader.large with
  | some large =>
    if fits : chunk.length ≤ large.body.room then
      some
        { reader with
          large := some
            { header := large.header
              body := large.body.fill chunk fits
              fromFront := large.fromFront } }
    else none
  | none =>
    if fits : chunk.length ≤ reader.readingBuffer.room then
      some { reader with buffer := reader.readingBuffer.fill chunk fits }
    else none

def holdsNext (reader : FrameReader) : Bool :=
  if reader.broken then false
  else
    match reader.large with
    | some large => large.filled
    | none =>
      let held := reader.buffer.held
      if held.length < HEADER_LENGTH then false
      else
        let length := littleEndian (held.take 4)
        length == 0 || decide (HEADER_LENGTH + length ≤ held.length) ||
          decide (READ_BUFFER < HEADER_LENGTH + length)

theorem body_fits (buffer : Window UInt8 READ_BUFFER) {length : Nat}
    (big : READ_BUFFER < HEADER_LENGTH + length) :
    (buffer.held.drop HEADER_LENGTH).length ≤ length := by
  have held := buffer.length_held_le
  rw [List.length_drop]
  omega

variable (checksum : List UInt8 → UInt32)

def takeLarge (large : Large) (reader : FrameReader) : Next × FrameReader :=
  let reader := { reader with large := none, started := false }
  if verify checksum large.header large.body.cells then (.frame large.body.cells, reader)
  else (.badChecksum, reader)

/-- `Started` once per frame whose body is on its way, `Nothing` after. -/
def nextStarted (reader : FrameReader) : Next × FrameReader :=
  if reader.started then (.nothing, reader)
  else
    let reader := { reader with started := true }
    match reader.large with
    | some large => if large.filled then reader.takeLarge checksum large else (.started, reader)
    | none => (.started, reader)

def take (reader : FrameReader) : Next × FrameReader :=
  match reader.large with
  | some large => if large.filled then reader.takeLarge checksum large else (.nothing, reader)
  | none =>
    let held := reader.buffer.held
    if held.length < HEADER_LENGTH then (.nothing, reader)
    else
      match unpackHeader (held.take HEADER_LENGTH) with
      | none => (.badHeader, reader)
      | some header =>
        let whole := HEADER_LENGTH + header.length
        if big : READ_BUFFER < whole then
          -- what of the body is here goes into the frame's own buffer first
          let large := Large.begin header (held.drop HEADER_LENGTH) (body_fits reader.buffer big)
          nextStarted checksum { reader with buffer := reader.buffer.clear, large := some large }
        else if here : held.length < whole then
          let buffer :=
            if reader.buffer.start + whole > READ_BUFFER then reader.buffer.compact
            else reader.buffer
          nextStarted checksum { reader with buffer }
        else
          let body := (held.drop HEADER_LENGTH).take header.length
          let buffer := reader.buffer.skip whole (Nat.not_lt.mp here)
          let buffer := if buffer.start = buffer.stop then buffer.clear else buffer
          let reader := { reader with buffer, started := false }
          if verify checksum header body then (.frame body, reader) else (.badChecksum, reader)

def next (reader : FrameReader) : Next × FrameReader :=
  if reader.broken then (.nothing, reader)
  else
    let (next, reader) := reader.take checksum
    (next, { reader with broken := next = .badHeader ∨ next = .badChecksum })

end FrameReader

/-! ## A stream read -/

/-- What the reader's owner calls: `next`, or `read_from`, which reads `chunk`. -/
inductive Call where
  | next
  | read (chunk : List UInt8)

/-- A stream being read: the reader, all the bytes it read, what it gave, and whether the
last call was a `next` after which it may be read into. -/
structure Reading where
  reader : FrameReader := {}
  bytes : List UInt8 := []
  given : List Next := []
  mayRead : Bool := false

namespace Reading

def call (checksum : List UInt8 → UInt32) (reading : Reading) : Call → Option Reading
  | .next =>
    let (next, reader) := reading.reader.next checksum
    some
      { reading with
        reader
        given := reading.given ++ [next]
        mayRead := next = .nothing ∨ next = .started }
  | .read chunk =>
    if reading.mayRead && !chunk.isEmpty then
      (reading.reader.readFrom chunk).map fun reader =>
        { reading with reader, bytes := reading.bytes ++ chunk, mayRead := false }
    else none

def run (checksum : List UInt8 → UInt32) : List Call → Reading → Option Reading
  | [], reading => some reading
  | call :: calls, reading => (reading.call checksum call).bind (run checksum calls)

end Reading

def bodies (given : List Next) : List (List UInt8) :=
  given.filterMap fun
    | .frame body => some body
    | _ => none

def Next.isError : Next → Bool
  | .badHeader | .badChecksum => true
  | _ => false

end Multiplexer.Frames
