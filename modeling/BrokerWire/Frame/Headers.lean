import BrokerWire.Frame.Header

/-!
# Headers inside a frame

The body of a frame opens with the number of its protocol. A request or its response carries two
correlation words behind it, a single message does not; a message descriptor follows in either
case, and the message itself comes after the descriptor.
-/
namespace BrokerWire

/-- The protocols a frame can carry. -/
inductive Protocol where
  /-- A request or its response; correlation words follow. -/
  | requestResponse
  /-- A message of its own, without correlation words. -/
  | singleMessage
  deriving DecidableEq, Repr

/-- Why the headers inside a frame cannot be read. -/
inductive HeaderFault where
  /-- The body ends before the number of its protocol. -/
  | noProtocol (available : Nat)
  /-- No protocol has that number. -/
  | unsupportedProtocol (id : UInt16)
  /-- The body ends before or inside the correlation words. -/
  | noCorrelation (available : Nat)
  /-- The body ends before or inside the descriptor. -/
  | noDescriptor (available : Nat)
  deriving DecidableEq, Repr

namespace Protocol

/-- The size of a protocol number. -/
def size : Nat := 2

/-- The number of a protocol. -/
def id : Protocol → UInt16
  | requestResponse => 0
  | singleMessage => 1

/-- The protocol with that number. -/
def ofId? (id : UInt16) : Option Protocol :=
  if id = 0 then some requestResponse else if id = 1 then some singleMessage else none

/-- The bytes of a protocol's number. -/
def write (protocol : Protocol) : Bytes := Word.write16 protocol.id

/-- Take a protocol's number from the front. -/
def read (bytes : Bytes) : Except HeaderFault (Protocol × Bytes) :=
  match Word.read16 bytes with
  | none => .error (.noProtocol bytes.length)
  | some (id, rest) =>
    match ofId? id with
    | none => .error (.unsupportedProtocol id)
    | some protocol => .ok (protocol, rest)

end Protocol

/-- The two words by which a response finds its request. -/
structure Correlation where
  /-- The connection of the request. -/
  connectionId : UInt64
  /-- The request on that connection. -/
  requestId : UInt64
  deriving DecidableEq, Repr

namespace Correlation

/-- The size of the correlation words. -/
def size : Nat := 16

/-- The bytes of the correlation words. -/
def write (correlation : Correlation) : Bytes :=
  Word.write64 correlation.connectionId ++ Word.write64 correlation.requestId

/-- Take the correlation words from the front. -/
def read? (bytes : Bytes) : Option (Correlation × Bytes) := do
  let (connectionId, rest) ← Word.read64 bytes
  let (requestId, rest) ← Word.read64 rest
  return (⟨connectionId, requestId⟩, rest)

/-- Take the correlation words from the front, or tell how many bytes there are. -/
def read (bytes : Bytes) : Except HeaderFault (Correlation × Bytes) :=
  match read? bytes with
  | some found => .ok found
  | none => .error (.noCorrelation bytes.length)

end Correlation

/-- What the message after the headers is. -/
structure Descriptor where
  /-- The template of the message. -/
  templateId : UInt16
  /-- The length of the message's fixed block. -/
  blockLength : UInt16
  /-- The version of the template. -/
  version : UInt16
  /-- A word without meaning. -/
  reserved : UInt16
  deriving DecidableEq, Repr

namespace Descriptor

/-- The size of a descriptor. -/
def size : Nat := 8

/-- The bytes of a descriptor. -/
def write (descriptor : Descriptor) : Bytes :=
  Word.write16 descriptor.templateId ++ Word.write16 descriptor.blockLength ++
    Word.write16 descriptor.version ++ Word.write16 descriptor.reserved

/-- Take a descriptor from the front. -/
def read? (bytes : Bytes) : Option (Descriptor × Bytes) := do
  let (templateId, rest) ← Word.read16 bytes
  let (blockLength, rest) ← Word.read16 rest
  let (version, rest) ← Word.read16 rest
  let (reserved, rest) ← Word.read16 rest
  return (⟨templateId, blockLength, version, reserved⟩, rest)

/-- Take a descriptor from the front, or tell how many bytes there are. -/
def read (bytes : Bytes) : Except HeaderFault (Descriptor × Bytes) :=
  match read? bytes with
  | some found => .ok found
  | none => .error (.noDescriptor bytes.length)

end Descriptor

/-- The number of a frame's protocol with what comes between it and the descriptor. -/
inductive Envelope where
  /-- A request or its response. -/
  | requestResponse (correlation : Correlation)
  /-- A message of its own. -/
  | singleMessage
  deriving DecidableEq, Repr

namespace Envelope

/-- The protocol of an envelope. -/
def protocol : Envelope → Protocol
  | requestResponse _ => .requestResponse
  | singleMessage => .singleMessage

/-- The correlation words, of a request or response only. -/
def correlation? : Envelope → Option Correlation
  | requestResponse correlation => some correlation
  | singleMessage => none

/-- The bytes of an envelope. -/
def write : Envelope → Bytes
  | requestResponse correlation => Protocol.requestResponse.write ++ correlation.write
  | singleMessage => Protocol.singleMessage.write

/-- Take an envelope from the front. -/
def read (bytes : Bytes) : Except HeaderFault (Envelope × Bytes) := do
  let (protocol, rest) ← Protocol.read bytes
  match protocol with
  | .requestResponse =>
    let (correlation, rest) ← Correlation.read rest
    return (.requestResponse correlation, rest)
  | .singleMessage => return (.singleMessage, rest)

end Envelope

/-- Correlation words stand in front of the descriptor. -/
def Protocol.hasCorrelation (protocol : Protocol) : Bool := protocol = .requestResponse

/-- The bytes in front of the descriptor. -/
def Protocol.descriptorOffset (protocol : Protocol) : Nat :=
  if protocol.hasCorrelation then size + Correlation.size else size

/-- Every header of a frame. -/
structure Headers where
  /-- The header of the frame itself. -/
  frame : FrameHeader
  /-- The protocol and its correlation words. -/
  envelope : Envelope
  /-- What the message is. -/
  descriptor : Descriptor
  deriving DecidableEq, Repr

namespace Headers

/-- Where the descriptor begins inside the body of the frame. -/
def descriptorOffset (headers : Headers) : Nat := headers.envelope.protocol.descriptorOffset

/-- Where the message begins inside the body of the frame. -/
def bodyOffset (headers : Headers) : Nat := headers.descriptorOffset + Descriptor.size

/-- The bytes of the headers inside the frame. -/
def write (headers : Headers) : Bytes := headers.envelope.write ++ headers.descriptor.write

/-- Take the headers from the body of a frame. The bytes handed back are the message. -/
def read (frame : Frame) : Except HeaderFault (Headers × Bytes) := do
  let (envelope, rest) ← Envelope.read frame.body
  let (descriptor, rest) ← Descriptor.read rest
  return (⟨frame.header, envelope, descriptor⟩, rest)

end Headers

end BrokerWire
