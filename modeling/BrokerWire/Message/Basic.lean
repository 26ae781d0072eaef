import BrokerWire.Body.Basic
import BrokerWire.MessagePack.Target
import BrokerWire.Message.Failure

/-!
# Messages

A message is the content of one frame: its headers, its body and the value of its payload. A
message of an unknown template is either refused or passed on with its body left as it is and
without a payload.
-/
namespace BrokerWire

/-- A message that has been read. -/
structure Message where
  /-- The headers of its frame. -/
  headers : Headers
  /-- Its body. -/
  body : Body
  /-- The value of its payload; absent only from a body that is not recognised. -/
  payload : Option Value

/-- What becomes of a message of an unknown template. -/
inductive UnknownTemplates where
  /-- It is refused. -/
  | reject
  /-- It is passed on with its body left as it is. -/
  | skip
  deriving DecidableEq, Repr

namespace Message

/-- Equality of payloads, as values. -/
def samePayload (left right : Message) : Bool :=
  match left.payload, right.payload with
  | none, none => true
  | some left, some right => left.same right
  | _, _ => false

/-- Equality of messages, part by part. -/
def same (left right : Message) : Bool :=
  left.headers == right.headers && left.body == right.body && left.samePayload right

/-- The template of a message, where it is known. -/
def template? (message : Message) : Option Template := message.body.template?

/-- The correlation words of a message, if it is a request or response. -/
def correlation? (message : Message) : Option Correlation :=
  message.headers.envelope.correlation?

/-- The payload read as a known type, where the message has one. -/
def payloadAs? {α : Type} (message : Message) (target : MessagePack.Target α) :
    Option (MessagePack.Outcome α) :=
  message.body.payload?.map (MessagePack.decode target)

/-- Read the message behind headers. -/
def read (unknown : UnknownTemplates) (headers : Headers) (bytes : Bytes) :
    Except Failure Message :=
  let descriptor := headers.descriptor
  match Template.ofId? descriptor.templateId with
  | none =>
    match unknown with
    | .reject => .error (.unknownTemplate descriptor.templateId headers)
    | .skip => .ok ⟨headers, .unrecognized descriptor.templateId bytes, none⟩
  | some template =>
    match Body.read template descriptor.blockLength descriptor.version bytes with
    | .error fault => .error (.body template fault headers)
    | .ok body =>
      match body.payload? with
      | none => .ok ⟨headers, body, none⟩
      | some payload =>
        match MessagePack.decodeValue payload with
        | .error fault => .error (.payload fault headers)
        | .ok value => .ok ⟨headers, body, some value⟩

/-- Read the headers of a frame. The bytes handed back are the message. -/
def readHeaders (frame : Frame) : Except Failure (Headers × Bytes) :=
  match Headers.read frame with
  | .error fault => .error (.header fault)
  | .ok found => .ok found

/-- Read the message of a frame. -/
def ofFrame (unknown : UnknownTemplates) (frame : Frame) : Except Failure Message := do
  let (headers, bytes) ← readHeaders frame
  read unknown headers bytes

end Message

end BrokerWire
