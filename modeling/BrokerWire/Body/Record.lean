import BrokerWire.Body.Layout

/-!
# Records of the known templates

Each template names one kind of message and the layout of its body. Every record ends in one piece
of data, the payload. The fields of the first version are in every block that is read; a field of
a later version is absent from older messages.
-/
namespace BrokerWire

/-- The kinds of message known here. -/
inductive Template where
  /-- An answer to a request about the broker itself. -/
  | controlMessageResponse
  /-- A command to be executed. -/
  | executeCommandRequest
  /-- The answer to a command. -/
  | executeCommandResponse
  /-- An event on an open subscription. -/
  | subscribedEvent
  deriving DecidableEq, Repr

namespace Template

/-- The number of a template. -/
def id : Template → UInt16
  | controlMessageResponse => 11
  | executeCommandRequest => 20
  | executeCommandResponse => 21
  | subscribedEvent => 30

/-- The template with that number. -/
def ofId? (id : UInt16) : Option Template :=
  if id = 11 then some controlMessageResponse
  else if id = 20 then some executeCommandRequest
  else if id = 21 then some executeCommandResponse
  else if id = 30 then some subscribedEvent
  else none

/-- Templates and their numbers belong together one to one. -/
theorem ofId?_eq_some_iff {id : UInt16} {template : Template} :
    ofId? id = some template ↔ id = template.id := by
  constructor
  · intro found
    simp only [ofId?] at found
    split at found
    · cases found; assumption
    · split at found
      · cases found; assumption
      · split at found
        · cases found; assumption
        · split at found
          · cases found; assumption
          · contradiction
  · rintro rfl
    cases template <;> rfl

/-- The name of a template. -/
def name : Template → String
  | controlMessageResponse => "ControlMessageResponse"
  | executeCommandRequest => "ExecuteCommandRequest"
  | executeCommandResponse => "ExecuteCommandResponse"
  | subscribedEvent => "SubscribedEvent"

end Template

/-- A field that every version has. Its absence from a block is not possible after the block has
been read with the field among its fields. -/
def Block.word (block : Block) (field : BlockField) : Nat := (block.number? field).getD 0

/-- An answer to a request about the broker itself. -/
structure ControlMessageResponse where
  /-- The payload. -/
  data : Bytes
  deriving DecidableEq, Repr

namespace ControlMessageResponse

/-- The fields of the block: none. -/
def fields : List BlockField := []

/-- The bytes of the fields. -/
def writeBlock (_ : ControlMessageResponse) : Bytes := []

/-- Read the record from the front of a body. -/
def read (blockLength version : UInt16) (body : Bytes) :
    Except BodyFault ControlMessageResponse := do
  let (_, rest) ← Block.read fields blockLength version body
  let (data, _) ← readData rest
  return { data }

end ControlMessageResponse

/-- A command to be executed. -/
structure ExecuteCommandRequest where
  /-- The partition of the command. -/
  partitionId : UInt16
  /-- The key of what the command acts on. -/
  key : UInt64
  /-- The type of the command's events, since version 1. -/
  eventType : Option UInt8
  /-- The payload. -/
  command : Bytes
  deriving DecidableEq, Repr

namespace ExecuteCommandRequest

/-- The partition of the command. -/
def partitionIdField : BlockField := ⟨0, 2, 0⟩

/-- The key of what the command acts on. -/
def keyField : BlockField := ⟨2, 8, 0⟩

/-- The type of the command's events. -/
def eventTypeField : BlockField := ⟨10, 1, 1⟩

/-- The fields of the block. -/
def fields : List BlockField := [partitionIdField, keyField, eventTypeField]

/-- The record has the fields of a version and no others. -/
def HasFieldsOf (record : ExecuteCommandRequest) (version : UInt16) : Prop :=
  record.eventType.isSome = eventTypeField.presentAt version

/-- The bytes of the fields that the record has, each at its place. -/
def writeBlock (record : ExecuteCommandRequest) : Bytes :=
  Word.write16 record.partitionId ++ (Word.write64 record.key ++ record.eventType.toList)

/-- Read the record from the front of a body. -/
def read (blockLength version : UInt16) (body : Bytes) :
    Except BodyFault ExecuteCommandRequest := do
  let (block, rest) ← Block.read fields blockLength version body
  let (command, _) ← readData rest
  return {
    partitionId := UInt16.ofNat (block.word partitionIdField)
    key := UInt64.ofNat (block.word keyField)
    eventType := (block.number? eventTypeField).map UInt8.ofNat
    command }

end ExecuteCommandRequest

/-- The answer to a command. -/
structure ExecuteCommandResponse where
  /-- The partition of the command. -/
  partitionId : UInt16
  /-- The key of what the command acted on. -/
  key : UInt64
  /-- The payload. -/
  event : Bytes
  deriving DecidableEq, Repr

namespace ExecuteCommandResponse

/-- The partition of the command. -/
def partitionIdField : BlockField := ⟨0, 2, 0⟩

/-- The key of what the command acted on. -/
def keyField : BlockField := ⟨2, 8, 0⟩

/-- The fields of the block. -/
def fields : List BlockField := [partitionIdField, keyField]

/-- The bytes of the fields, each at its place. -/
def writeBlock (record : ExecuteCommandResponse) : Bytes :=
  Word.write16 record.partitionId ++ Word.write64 record.key

/-- Read the record from the front of a body. -/
def read (blockLength version : UInt16) (body : Bytes) :
    Except BodyFault ExecuteCommandResponse := do
  let (block, rest) ← Block.read fields blockLength version body
  let (event, _) ← readData rest
  return {
    partitionId := UInt16.ofNat (block.word partitionIdField)
    key := UInt64.ofNat (block.word keyField)
    event }

end ExecuteCommandResponse

/-- An event on an open subscription. -/
structure SubscribedEvent where
  /-- The partition of the event. -/
  partitionId : UInt16
  /-- The position of the event in its partition. -/
  position : UInt64
  /-- The key of what the event is about, since version 1. -/
  key : Option UInt64
  /-- The key of the subscriber, since version 1. -/
  subscriberKey : Option UInt64
  /-- The type of the subscription, since version 1. -/
  subscriptionType : Option UInt8
  /-- The type of the event, since version 1. -/
  eventType : Option UInt8
  /-- The payload. -/
  event : Bytes
  deriving DecidableEq, Repr

namespace SubscribedEvent

/-- The partition of the event. -/
def partitionIdField : BlockField := ⟨0, 2, 0⟩

/-- The position of the event in its partition. -/
def positionField : BlockField := ⟨2, 8, 0⟩

/-- The key of what the event is about. -/
def keyField : BlockField := ⟨10, 8, 1⟩

/-- The key of the subscriber. -/
def subscriberKeyField : BlockField := ⟨18, 8, 1⟩

/-- The type of the subscription. -/
def subscriptionTypeField : BlockField := ⟨26, 1, 1⟩

/-- The type of the event. -/
def eventTypeField : BlockField := ⟨27, 1, 1⟩

/-- The fields of the block. -/
def fields : List BlockField :=
  [partitionIdField, positionField, keyField, subscriberKeyField, subscriptionTypeField,
    eventTypeField]

/-- The record has the fields of a version and no others. -/
def HasFieldsOf (record : SubscribedEvent) (version : UInt16) : Prop :=
  record.key.isSome = keyField.presentAt version ∧
    record.subscriberKey.isSome = subscriberKeyField.presentAt version ∧
    record.subscriptionType.isSome = subscriptionTypeField.presentAt version ∧
    record.eventType.isSome = eventTypeField.presentAt version

/-- The bytes of the fields that the record has, each at its place. -/
def writeBlock (record : SubscribedEvent) : Bytes :=
  Word.write16 record.partitionId ++ (Word.write64 record.position ++
    (record.key.elim [] Word.write64 ++ (record.subscriberKey.elim [] Word.write64 ++
      (record.subscriptionType.toList ++ record.eventType.toList))))

/-- Read the record from the front of a body. -/
def read (blockLength version : UInt16) (body : Bytes) : Except BodyFault SubscribedEvent := do
  let (block, rest) ← Block.read fields blockLength version body
  let (event, _) ← readData rest
  return {
    partitionId := UInt16.ofNat (block.word partitionIdField)
    position := UInt64.ofNat (block.word positionField)
    key := (block.number? keyField).map UInt64.ofNat
    subscriberKey := (block.number? subscriberKeyField).map UInt64.ofNat
    subscriptionType := (block.number? subscriptionTypeField).map UInt8.ofNat
    eventType := (block.number? eventTypeField).map UInt8.ofNat
    event }

end SubscribedEvent

end BrokerWire
