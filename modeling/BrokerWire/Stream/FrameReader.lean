import BrokerWire.Message.Failure
import BrokerWire.Stream.Delivery

/-!
# Frames of a stream

Frames follow each other on a stream, each padded so that the next one begins at a multiple of the
alignment. The reader takes the header, then the body, then the padding, and never a byte beyond.
How far it has come is a stage; a reader that runs out of deliveries hands its stage back and goes
on from there. A stream that ends before the first byte of a header is closed; one that ends
anywhere else is cut short, and whatever was read of the frame is lost.
-/
namespace BrokerWire

/-- What a reader of frames admits and expects. -/
structure FrameSettings where
  /-- The greatest admitted length. -/
  maximum : UInt32 := FrameHeader.defaultMaximum
  /-- Frames begin at multiples of this number. Without it, and with zero or one, they follow each
  other directly. -/
  alignment : Option Nat := none
  deriving DecidableEq, Repr

/-- The padding behind that many bytes: as few bytes as bring them to a multiple of the alignment,
and none where every number of bytes is one. -/
def FrameSettings.padding (settings : FrameSettings) (length : Nat) : Nat :=
  match settings.alignment with
  | none => 0
  | some alignment => (alignment - length % alignment) % alignment

/-- How far the reading of a frame has come. -/
inductive Stage where
  /-- Inside the header, or before it. -/
  | header (received : Bytes)
  /-- Inside the body. -/
  | body (header : FrameHeader) (received : Bytes)
  /-- Inside the padding. -/
  | padding (frame : Frame) (received : Bytes)
  deriving DecidableEq, Repr

/-- Nothing of the frame has been read. -/
def Stage.start : Stage := .header []

/-- What came of reading: a result, nothing where the stream is closed, a failure, or a stage to
go on from. -/
inductive Progress (α : Type) where
  /-- Reading has come to a result. -/
  | done (result : Except Failure (Option α))
  /-- Reading goes on once there are more deliveries. -/
  | waiting (stage : Stage)

namespace FrameSettings

variable (settings : FrameSettings)

/-- What the end of the stream means at a stage. -/
def endOfStream {α : Type} : Stage → Except Failure (Option α)
  | .header [] => .ok none
  | .header received => .error (.incompleteRead FrameHeader.size received.length)
  | .body header received => .error (.incompleteRead header.length.toNat received.length)
  | .padding frame received =>
    .error (.incompleteRead (settings.padding frame.wireLength) received.length)

/-- Go on with the padding. -/
def readPadding (frame : Frame) (received : Bytes) (stream : Stream) : Progress Frame × Stream :=
  match stream.fill (settings.padding frame.wireLength) received with
  | (.full _, stream) => (.done (.ok (some frame)), stream)
  | (.ended received, stream) =>
    (.done (settings.endOfStream (.padding frame received)), stream)
  | (.failed reason, stream) => (.done (.error (.stream reason)), stream)
  | (.waiting received, stream) => (.waiting (.padding frame received), stream)

/-- Go on with the body. -/
def readBody (header : FrameHeader) (received : Bytes) (stream : Stream) :
    Progress Frame × Stream :=
  match stream.fill header.length.toNat received with
  | (.full body, stream) => settings.readPadding ⟨header, body⟩ [] stream
  | (.ended received, stream) => (.done (settings.endOfStream (.body header received)), stream)
  | (.failed reason, stream) => (.done (.error (.stream reason)), stream)
  | (.waiting received, stream) => (.waiting (.body header received), stream)

/-- Go on with the header. A length that is not admitted ends the reading right behind it. -/
def readHeader (received : Bytes) (stream : Stream) : Progress Frame × Stream :=
  match stream.fill FrameHeader.size received with
  | (.full bytes, stream) =>
    match FrameHeader.read bytes with
    | none => (.done (.error (.incompleteRead FrameHeader.size bytes.length)), stream)
    | some (header, _) =>
      match header.accept settings.maximum with
      | .error fault => (.done (.error (.length fault)), stream)
      | .ok () => settings.readBody header [] stream
  | (.ended received, stream) => (.done (settings.endOfStream (.header received)), stream)
  | (.failed reason, stream) => (.done (.error (.stream reason)), stream)
  | (.waiting received, stream) => (.waiting (.header received), stream)

/-- Go on from a stage. -/
def proceed : Stage → Stream → Progress Frame × Stream
  | .header received => settings.readHeader received
  | .body header received => settings.readBody header received
  | .padding frame received => settings.readPadding frame received

/-- Read the next frame of a stream that ends behind its deliveries; nothing if it is closed. -/
def nextFrame (stream : Stream) : Except Failure (Option Frame) × Stream :=
  match settings.proceed .start stream with
  | (.done result, stream) => (result, stream)
  | (.waiting stage, stream) => (settings.endOfStream stage, stream)

/-- What was read where there has to be something: a closed stream is cut short before the
header. -/
def required {α : Type} : Except Failure (Option α) → Except Failure α
  | .ok (some result) => .ok result
  | .ok none => .error (.incompleteRead FrameHeader.size 0)
  | .error failure => .error failure

/-- Read exactly one frame of a stream that ends behind its deliveries. -/
def readFrame (stream : Stream) : Except Failure Frame × Stream :=
  let (result, stream) := settings.nextFrame stream
  (required result, stream)

end FrameSettings

end BrokerWire
