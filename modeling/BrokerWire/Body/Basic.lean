import BrokerWire.Body.Record

/-!
# Message bodies

The body of a message is a record of its template, or, where the template is not known, the bytes
as they are. A written body has the fields of its record at their places, then any further bytes of
the block, then the data after their length.
-/
namespace BrokerWire

/-- The body of a message. -/
inductive Body where
  /-- An answer to a request about the broker itself. -/
  | controlMessageResponse (record : ControlMessageResponse)
  /-- A command to be executed. -/
  | executeCommandRequest (record : ExecuteCommandRequest)
  /-- The answer to a command. -/
  | executeCommandResponse (record : ExecuteCommandResponse)
  /-- An event on an open subscription. -/
  | subscribedEvent (record : SubscribedEvent)
  /-- A body of no known template, left as it is. -/
  | unrecognized (templateId : UInt16) (bytes : Bytes)
  deriving DecidableEq, Repr

namespace Body

/-- Read the body of a known template from the front of a message. -/
def read (template : Template) (blockLength version : UInt16) (bytes : Bytes) :
    Except BodyFault Body :=
  match template with
  | .controlMessageResponse =>
    (ControlMessageResponse.read blockLength version bytes).map .controlMessageResponse
  | .executeCommandRequest =>
    (ExecuteCommandRequest.read blockLength version bytes).map .executeCommandRequest
  | .executeCommandResponse =>
    (ExecuteCommandResponse.read blockLength version bytes).map .executeCommandResponse
  | .subscribedEvent => (SubscribedEvent.read blockLength version bytes).map .subscribedEvent

/-- The template of a body, where it is known. -/
def template? : Body → Option Template
  | controlMessageResponse _ => some .controlMessageResponse
  | executeCommandRequest _ => some .executeCommandRequest
  | executeCommandResponse _ => some .executeCommandResponse
  | subscribedEvent _ => some .subscribedEvent
  | unrecognized _ _ => none

/-- The payload of a body, where its template is known. -/
def payload? : Body → Option Bytes
  | controlMessageResponse record => some record.data
  | executeCommandRequest record => some record.command
  | executeCommandResponse record => some record.event
  | subscribedEvent record => some record.event
  | unrecognized _ _ => none

/-- The body has the fields of a version and no others. -/
def HasFieldsOf (body : Body) (version : UInt16) : Prop :=
  match body with
  | executeCommandRequest record => record.HasFieldsOf version
  | subscribedEvent record => record.HasFieldsOf version
  | controlMessageResponse _ | executeCommandResponse _ | unrecognized _ _ => True

/-- The bytes of the fields that the body has, each at its place. -/
def writeBlock : Body → Bytes
  | controlMessageResponse record => record.writeBlock
  | executeCommandRequest record => record.writeBlock
  | executeCommandResponse record => record.writeBlock
  | subscribedEvent record => record.writeBlock
  | unrecognized _ _ => []

/-- The bytes of a body, with further bytes in the block behind the fields known here. -/
def write (extension : Bytes) : Body → Bytes
  | unrecognized _ bytes => bytes
  | body => body.writeBlock ++ extension ++ writeData (body.payload?.getD [])

/-- The body has no known template. -/
def isUnrecognized : Body → Bool
  | unrecognized _ _ => true
  | _ => false

end Body

end BrokerWire
