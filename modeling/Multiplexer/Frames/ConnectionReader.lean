import Multiplexer.Frames.FrameReader

/-! The reading half of the server's connections: a buffer the socket is read into, frames
handed over one per step of the loop, and a frame too big for the buffer read straight into
its own. -/

set_option autoImplicit false

namespace Multiplexer.Frames

def READ_BUFFER_SIZE : Nat := 64 * 1024

/-- The body's length a header tells; 0 for one over `MAX_MESSAGE_SIZE`. -/
def bodyLength (header : List UInt8) : Nat :=
  let length := littleEndian (header.take 4)
  if length > MAX_MESSAGE_SIZE then 0 else length

/-- A frame being read: its header's words, and its body as far as it is here. -/
abbrev RawMessage := Large

inductive ChannelState where
  | free
  | reading
  | readingBody (frame : RawMessage)
  | broken

structure ConnectionReader where
  buffer : Window UInt8 READ_BUFFER_SIZE := .empty 0
  state : ChannelState := .free
  -- calls of `_start_read` posted to the loop, the first one at the start
  posted : Nat := 1
  -- what the connection read, what it handed over, and whether anything but the bytes read
  -- ended it
  bytes : List UInt8 := []
  handed : List (List UInt8) := []
  stopped : Bool := false

namespace ConnectionReader

def shutdown (reader : ConnectionReader) : ConnectionReader := { reader with state := .broken }

/-- Whether the buffer holds what the next step takes without a read. -/
def nextFrameHeld (reader : ConnectionReader) : Bool :=
  let held := reader.buffer.held
  if held.length < HEADER_LENGTH then false
  else
    let length := bodyLength (held.take HEADER_LENGTH)
    length == 0 || decide (HEADER_LENGTH + length ≤ held.length) ||
      decide (READ_BUFFER_SIZE < HEADER_LENGTH + length)

/-- A read of the socket for more, what the buffer holds at its front. -/
def readMore (reader : ConnectionReader) : ConnectionReader :=
  { reader with
    buffer := if reader.buffer.start = 0 then reader.buffer else reader.buffer.compact
    state := .reading }

/-- A frame handed over, `ends` when what is done with it ends the connection. -/
def handOver (ends : Bool) (body : List UInt8) (reader : ConnectionReader) : ConnectionReader :=
  let reader := { reader with handed := reader.handed ++ [body] }
  if ends then { reader.shutdown with stopped := true } else reader

/-- The next step of reading, posted to the loop when the buffer holds the next frame. -/
def readOn (startRead : ConnectionReader → ConnectionReader) (reader : ConnectionReader) : ConnectionReader :=
  if reader.nextFrameHeld then { reader with posted := reader.posted + 1 } else startRead reader

variable (checksum : List UInt8 → UInt32)

/-- `_frame_read`: a whole frame handed over, its checksum checked, and the next step of
reading taken. -/
def frameRead (ends : Bool) (startRead : ConnectionReader → ConnectionReader)
    (frame : RawMessage) (reader : ConnectionReader) : ConnectionReader :=
  if (checksum frame.body.cells).toNat ≠ frame.header.checksum then reader.shutdown
  else readOn startRead (reader.handOver ends frame.body.cells)

/-- The frame at the front of the buffer, of a body of `length` bytes: handed over, or the
rest of it read. -/
def takeFrame (ends : Bool) (startRead : ConnectionReader → ConnectionReader) (length : Nat)
    (reader : ConnectionReader) : ConnectionReader :=
  let held := reader.buffer.held
  let here := (held.drop HEADER_LENGTH).take length
  let frame := Large.begin ⟨length, littleEndian ((held.drop 4).take 4)⟩ here
    (List.length_take_le _ _)
  let reader :=
    { reader with
      buffer := reader.buffer.skip (min (HEADER_LENGTH + length) held.length)
        (Nat.min_le_right _ _) }
  if here.length = length then frameRead checksum ends startRead frame reader
  else { reader with state := .readingBody frame }

/-- `_start_read`: the buffer's next frame handed over, or a read for more. -/
def startRead (ends : Bool) : Nat → ConnectionReader → ConnectionReader
  | 0, reader => reader
  | depth + 1, reader =>
    match reader.state with
    | .broken => reader
    | _ =>
      let held := reader.buffer.held
      if held.length < HEADER_LENGTH then reader.readMore
      else
        let length := bodyLength (held.take HEADER_LENGTH)
        let whole := HEADER_LENGTH + length
        if length = 0 then reader.shutdown
        else if whole ≤ held.length ∨ READ_BUFFER_SIZE < whole then
          takeFrame checksum ends (startRead ends depth) length reader
        else reader.readMore

/-- `_start_read` calls itself at most once, through `_frame_read`. -/
def CALLS : Nat := 2

inductive Event where
  -- a posted `_start_read` runs
  | start (ends : Bool)
  -- a read of the socket gave `chunk`
  | read (chunk : List UInt8) (ends : Bool)
  -- a read of the rest of a body gave `chunk`
  | readBody (chunk : List UInt8) (ends : Bool)
  -- a read failed, or anything else shut the connection down
  | fails

def asked (reader : ConnectionReader) : Option Nat :=
  match reader.state with
  | .reading => some reader.buffer.room
  | .readingBody frame => some frame.body.room
  | _ => none

def act (reader : ConnectionReader) : Event → Option ConnectionReader
  | .start ends =>
    match reader.posted with
    | 0 => none
    | posted + 1 => some (startRead checksum ends CALLS { reader with posted })
  | .read chunk ends =>
    match reader.state with
    | .reading =>
      if fits : chunk.length ≤ reader.buffer.room then
        if chunk.isEmpty then none
        else
          some (startRead checksum ends CALLS
            { reader with
              buffer := reader.buffer.fill chunk fits
              state := .free
              bytes := reader.bytes ++ chunk })
      else none
    | _ => none
  | .readBody chunk ends =>
    match reader.state with
    | .readingBody frame =>
      if fits : chunk.length ≤ frame.body.room then
        if chunk.isEmpty then none
        else
          let frame : RawMessage := ⟨frame.header, frame.body.fill chunk fits, frame.fromFront⟩
          let reader := { reader with bytes := reader.bytes ++ chunk }
          if frame.filled then
            some (frameRead checksum ends (startRead checksum ends CALLS) frame
              { reader with state := .free })
          else some { reader with state := .readingBody frame }
      else none
    | _ => none
  | .fails => some { reader.shutdown with stopped := true }

def run : List Event → ConnectionReader → Option ConnectionReader
  | [], reader => some reader
  | event :: events, reader => (reader.act checksum event).bind (run events)

end ConnectionReader

end Multiplexer.Frames
