import BrokerWire.Message.Basic
import BrokerWire.Stream.FrameReader

/-!
# Messages of a stream

A message is read from each frame of a stream. A frame whose message cannot be read has been taken
whole, so the next one is read from its own first byte. The headers of a frame can also be read on
their own, and the message behind them later. All messages of a stream are read by going on until it
is closed or fails.
-/
namespace BrokerWire

/-- What a reader of messages admits and expects. -/
structure MessageSettings extends FrameSettings where
  /-- What becomes of messages of unknown templates. -/
  unknown : UnknownTemplates := .reject
  deriving DecidableEq, Repr

namespace MessageSettings

variable (settings : MessageSettings)

/-- The message of a frame, if there is a frame. -/
def ofFrameResult : Except Failure (Option Frame) → Except Failure (Option Message)
  | .ok (some frame) => (Message.ofFrame settings.unknown frame).map some
  | .ok none => .ok none
  | .error failure => .error failure

/-- Go on from a stage to the message of the frame. -/
def proceedMessage (stage : Stage) (stream : Stream) : Progress Message × Stream :=
  match settings.proceed stage stream with
  | (.done result, stream) => (.done (settings.ofFrameResult result), stream)
  | (.waiting stage, stream) => (.waiting stage, stream)

/-- Go on from a stage to the message of the frame. A stream that has ended does not wait: its end
is what it comes to. -/
def proceedUntilEnd (ended : Bool) (stage : Stage) (stream : Stream) : Progress Message × Stream :=
  match settings.proceedMessage stage stream with
  | (.done result, stream) => (.done result, stream)
  | (.waiting stage, stream) =>
    if ended then (.done (settings.endOfStream stage), stream) else (.waiting stage, stream)

/-- Read the next message of a stream that ends behind its deliveries; nothing if it is closed. -/
def nextMessage (stream : Stream) : Except Failure (Option Message) × Stream :=
  let (result, stream) := settings.nextFrame stream
  (settings.ofFrameResult result, stream)

/-- Read messages of a stream that ends behind its deliveries, at most that many, until it is
closed or one cannot be read. The failure is the last item. -/
def readUpTo : Nat → Stream → List (Except Failure Message) × Stream
  | 0, stream => ([], stream)
  | count + 1, stream =>
    match settings.nextMessage stream with
    | (.ok none, stream) => ([], stream)
    | (.error failure, stream) => ([.error failure], stream)
    | (.ok (some message), stream) =>
      let (items, stream) := readUpTo count stream
      (.ok message :: items, stream)

/-- Read the messages of a stream that ends behind its deliveries until it is closed or one cannot
be read. Every frame takes bytes, so there are no more frames than bytes. -/
def readAll (stream : Stream) : List (Except Failure Message) × Stream :=
  settings.readUpTo (stream.remaining.length + 1) stream

/-- Read exactly one message of a stream that ends behind its deliveries. -/
def readMessage (stream : Stream) : Except Failure Message × Stream :=
  let (result, stream) := settings.readFrame stream
  (result.bind (Message.ofFrame settings.unknown), stream)

/-- Read one frame of a stream that ends behind its deliveries, and the headers inside it. The
bytes handed back are the message. -/
def readHeaders (stream : Stream) : Except Failure (Headers × Bytes) × Stream :=
  let (result, stream) := settings.readFrame stream
  (result.bind Message.readHeaders, stream)

/-- Read the message behind headers read before. -/
def parse (headers : Headers) (bytes : Bytes) : Except Failure Message :=
  Message.read settings.unknown headers bytes

end MessageSettings

end BrokerWire
