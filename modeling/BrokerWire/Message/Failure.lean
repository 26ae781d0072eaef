import BrokerWire.Body.Record
import BrokerWire.Frame.Headers
import BrokerWire.MessagePack.Fault

/-!
# Failures of reading a message

A message is read in stages, and the first stage that fails is the one reported. A failure after
the headers keeps them, so that a response that cannot be read still tells which request it
answers.
-/
namespace BrokerWire

/-- Why no message came of a frame or of a stream. -/
inductive Failure where
  /-- The stream ended before a frame header, a frame body or its padding was complete. -/
  | incompleteRead (expected received : Nat)
  /-- The stream failed. -/
  | stream (reason : String)
  /-- The announced length of a frame is not admitted. -/
  | length (fault : LengthFault)
  /-- The headers inside a frame cannot be read. -/
  | header (fault : HeaderFault)
  /-- The body of a known template cannot be read. -/
  | body (template : Template) (fault : BodyFault) (headers : Headers)
  /-- The payload is no document. -/
  | payload (fault : MessagePack.Fault) (headers : Headers)
  /-- No known template has that number. -/
  | unknownTemplate (templateId : UInt16) (headers : Headers)
  deriving DecidableEq, Repr

/-- The wording of a fault inside the headers. -/
def HeaderFault.message : HeaderFault → String
  | noProtocol available =>
    s!"Frame decode error: Frame body of {available} bytes cannot hold a transport header"
  | unsupportedProtocol id => s!"Unsupported protocol id: {id}"
  | noCorrelation available =>
    s!"Correlation header decode error: need {Correlation.size} bytes, {available} available"
  | noDescriptor available =>
    s!"Message header decode error: need {Descriptor.size} bytes, {available} available"

namespace Failure

/-- The wording of a failure. -/
def message : Failure → String
  | incompleteRead expected received =>
    s!"Incomplete read: expected {expected} bytes, received {received}"
  | stream reason => s!"I/O error: {reason}"
  | length fault => s!"Frame decode error: {fault.message}"
  | header fault => fault.message
  | body template fault _ => s!"Body decode error ({template.name}): {fault.message}"
  | payload fault _ => s!"Payload decode error: {fault.message}"
  | unknownTemplate templateId _ => s!"Unknown template id: {templateId}"

/-- The headers read before the failure, when the failure came after them. -/
def headers? : Failure → Option Headers
  | body _ _ headers | payload _ headers | unknownTemplate _ headers => some headers
  | _ => none

/-- The stream ended too early. -/
def isIncompleteRead : Failure → Bool
  | incompleteRead _ _ => true
  | _ => false

end Failure

end BrokerWire
