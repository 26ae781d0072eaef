import BrokerWire.Body.Basic
import BrokerWire.Proofs.Body.Layout

/-!
# Bodies written and read back

A record that has the fields of a version is read back from what is written of it, whatever
further bytes stand in the block and behind the data.
-/
namespace BrokerWire

namespace ControlMessageResponse

/-- The record is read back. -/
theorem read_write (record : ControlMessageResponse) (version : UInt16)
    {extension : Bytes} (blockFits : (record.writeBlock ++ extension).length < Word.limit 2)
    (dataFits : record.data.length < Word.limit dataLengthSize) (trailing : Bytes) :
    read (UInt16.ofNat (record.writeBlock ++ extension).length) version
      (record.writeBlock ++ extension ++ (writeData record.data ++ trailing)) = .ok record := by
  have fills : FillsBlock fields version [] := ⟨trivial, rfl⟩
  have block := fills.read extension (writeData record.data ++ trailing) blockFits
  unfold read
  rw [show record.writeBlock = [].flatMap FilledField.write from rfl, block]
  simp only [bind, Except.bind, readData_writeData dataFits]
  rfl

end ControlMessageResponse

namespace ExecuteCommandRequest

/-- The fields that the record has, with their numbers. -/
def filled (record : ExecuteCommandRequest) : List FilledField :=
  [⟨partitionIdField, record.partitionId.toNat⟩, ⟨keyField, record.key.toNat⟩] ++
    FilledField.optional eventTypeField (record.eventType.map UInt8.toNat)

/-- The block is written field by field. -/
theorem writeBlock_eq (record : ExecuteCommandRequest) :
    record.writeBlock = record.filled.flatMap FilledField.write := by
  obtain ⟨partitionId, key, eventType, command⟩ := record
  cases eventType with
  | none =>
    simp [writeBlock, filled, FilledField.optional, FilledField.write, Word.write16,
      Word.write64, partitionIdField, keyField]
  | some number =>
    simp [writeBlock, filled, FilledField.optional, FilledField.write, Word.write16,
      Word.write64, partitionIdField, keyField, eventTypeField, Word.little]

/-- The record fills the fields of its version. -/
theorem fillsBlock {record : ExecuteCommandRequest} {version : UInt16}
    (complete : record.HasFieldsOf version) : FillsBlock fields version record.filled := by
  obtain ⟨partitionId, key, eventType, command⟩ := record
  have partitionIdPresent := partitionIdField.presentAt_of_first rfl version
  have keyPresent := keyField.presentAt_of_first rfl version
  unfold HasFieldsOf at complete
  have partitionIdFits := partitionId.toNat_lt
  have keyFits := key.toNat_lt
  cases eventType with
  | none =>
    refine ⟨⟨rfl, partitionIdFits, rfl, keyFits, trivial⟩, ?_⟩
    simp [filled, FilledField.optional, fields, partitionIdPresent, keyPresent, ← complete]
  | some number =>
    have numberFits := number.toNat_lt
    refine ⟨⟨rfl, partitionIdFits, rfl, keyFits, rfl, numberFits, trivial⟩, ?_⟩
    simp [filled, FilledField.optional, fields, partitionIdPresent, keyPresent, ← complete]

/-- The record is read back. -/
theorem read_write {record : ExecuteCommandRequest} {version : UInt16}
    (complete : record.HasFieldsOf version) {extension : Bytes}
    (blockFits : (record.writeBlock ++ extension).length < Word.limit 2)
    (commandFits : record.command.length < Word.limit dataLengthSize) (trailing : Bytes) :
    read (UInt16.ofNat (record.writeBlock ++ extension).length) version
      (record.writeBlock ++ extension ++ (writeData record.command ++ trailing)) = .ok record := by
  have fills := fillsBlock complete
  rw [writeBlock_eq] at blockFits ⊢
  have block := fills.read extension (writeData record.command ++ trailing) blockFits
  have partitionId :=
    fills.number? extension partitionIdField record.partitionId.toNat (by simp [filled])
  have key := fills.number? extension keyField record.key.toNat (by simp [filled])
  have eventType := fills.number?_of_optional extension eventTypeField
    (record.eventType.map UInt8.toNat) (by rw [Option.isSome_map]; exact complete)
    (fun present same => by simp [filled, same])
  unfold read
  rw [block]
  simp only [bind, Except.bind, readData_writeData commandFits, Block.word, partitionId, key,
    eventType, Option.getD_some, UInt16.ofNat_toNat, UInt64.ofNat_toNat, Option.map_map,
    Function.comp_def, UInt8.ofNat_toNat, Option.map_id_fun']
  rfl

end ExecuteCommandRequest

namespace ExecuteCommandResponse

/-- The fields of the record, with their numbers. -/
def filled (record : ExecuteCommandResponse) : List FilledField :=
  [⟨partitionIdField, record.partitionId.toNat⟩, ⟨keyField, record.key.toNat⟩]

/-- The block is written field by field. -/
theorem writeBlock_eq (record : ExecuteCommandResponse) :
    record.writeBlock = record.filled.flatMap FilledField.write := by
  simp [writeBlock, filled, FilledField.write, Word.write16, Word.write64, partitionIdField,
    keyField]

/-- The record fills the fields of every version. -/
theorem fillsBlock (record : ExecuteCommandResponse) (version : UInt16) :
    FillsBlock fields version record.filled := by
  have partitionIdPresent := partitionIdField.presentAt_of_first rfl version
  have keyPresent := keyField.presentAt_of_first rfl version
  refine ⟨⟨rfl, record.partitionId.toNat_lt, rfl, record.key.toNat_lt, trivial⟩, ?_⟩
  simp [filled, fields, partitionIdPresent, keyPresent]

/-- The record is read back. -/
theorem read_write (record : ExecuteCommandResponse) (version : UInt16) {extension : Bytes}
    (blockFits : (record.writeBlock ++ extension).length < Word.limit 2)
    (eventFits : record.event.length < Word.limit dataLengthSize) (trailing : Bytes) :
    read (UInt16.ofNat (record.writeBlock ++ extension).length) version
      (record.writeBlock ++ extension ++ (writeData record.event ++ trailing)) = .ok record := by
  have fills := fillsBlock record version
  rw [writeBlock_eq] at blockFits ⊢
  have block := fills.read extension (writeData record.event ++ trailing) blockFits
  have partitionId :=
    fills.number? extension partitionIdField record.partitionId.toNat (by simp [filled])
  have key := fills.number? extension keyField record.key.toNat (by simp [filled])
  unfold read
  rw [block]
  simp only [bind, Except.bind, readData_writeData eventFits, Block.word, partitionId, key,
    Option.getD_some, UInt16.ofNat_toNat, UInt64.ofNat_toNat]
  rfl

end ExecuteCommandResponse

namespace SubscribedEvent

/-- The fields that the record has, with their numbers. -/
def filled (record : SubscribedEvent) : List FilledField :=
  [⟨partitionIdField, record.partitionId.toNat⟩, ⟨positionField, record.position.toNat⟩] ++
    (FilledField.optional keyField (record.key.map UInt64.toNat) ++
      FilledField.optional subscriberKeyField (record.subscriberKey.map UInt64.toNat) ++
      FilledField.optional subscriptionTypeField (record.subscriptionType.map UInt8.toNat) ++
      FilledField.optional eventTypeField (record.eventType.map UInt8.toNat))

/-- A record has all of the fields that later versions introduced, or none of them. -/
theorem all_or_none {record : SubscribedEvent} {version : UInt16}
    (complete : record.HasFieldsOf version) :
    (∃ key subscriberKey subscriptionType eventType, record.key = some key ∧
        record.subscriberKey = some subscriberKey ∧
        record.subscriptionType = some subscriptionType ∧ record.eventType = some eventType) ∨
      record.key = none ∧ record.subscriberKey = none ∧ record.subscriptionType = none ∧
        record.eventType = none := by
  obtain ⟨key, subscriberKey, subscriptionType, eventType⟩ := complete
  -- All four fields came with the same version, so one comparison decides about all of them.
  change record.key.isSome = decide (1 ≤ version) at key
  change record.subscriberKey.isSome = decide (1 ≤ version) at subscriberKey
  change record.subscriptionType.isSome = decide (1 ≤ version) at subscriptionType
  change record.eventType.isSome = decide (1 ≤ version) at eventType
  by_cases later : 1 ≤ version
  · rw [decide_eq_true later] at key subscriberKey subscriptionType eventType
    obtain ⟨key, hasKey⟩ := Option.isSome_iff_exists.mp key
    obtain ⟨subscriberKey, hasSubscriberKey⟩ := Option.isSome_iff_exists.mp subscriberKey
    obtain ⟨subscriptionType, hasSubscriptionType⟩ := Option.isSome_iff_exists.mp subscriptionType
    obtain ⟨eventType, hasEventType⟩ := Option.isSome_iff_exists.mp eventType
    exact Or.inl ⟨key, subscriberKey, subscriptionType, eventType, hasKey, hasSubscriberKey,
      hasSubscriptionType, hasEventType⟩
  · rw [decide_eq_false later, Option.isSome_eq_false_iff, Option.isNone_iff_eq_none]
      at key subscriberKey subscriptionType eventType
    exact Or.inr ⟨key, subscriberKey, subscriptionType, eventType⟩

/-- The block is written field by field. -/
theorem writeBlock_eq {record : SubscribedEvent} {version : UInt16}
    (complete : record.HasFieldsOf version) :
    record.writeBlock = record.filled.flatMap FilledField.write := by
  rcases all_or_none complete with
    ⟨key, subscriberKey, subscriptionType, eventType, has, hasToo, hasThird, hasLast⟩ |
    ⟨no, noToo, noThird, noLast⟩
  · simp [writeBlock, filled, FilledField.optional, FilledField.write, has, hasToo, hasThird,
      hasLast, Word.write16, Word.write64, partitionIdField, positionField, keyField,
      subscriberKeyField, subscriptionTypeField, eventTypeField, Word.little]
  · simp [writeBlock, filled, FilledField.optional, FilledField.write, no, noToo, noThird, noLast,
      Word.write16, Word.write64, partitionIdField, positionField]

/-- The record fills the fields of its version. -/
theorem fillsBlock {record : SubscribedEvent} {version : UInt16}
    (complete : record.HasFieldsOf version) : FillsBlock fields version record.filled := by
  have partitionIdPresent := partitionIdField.presentAt_of_first rfl version
  have positionPresent := positionField.presentAt_of_first rfl version
  have partitionIdFits := record.partitionId.toNat_lt
  have positionFits := record.position.toNat_lt
  have present := complete
  obtain ⟨keyPresent, subscriberKeyPresent, subscriptionTypePresent, eventTypePresent⟩ := present
  rcases all_or_none complete with
    ⟨key, subscriberKey, subscriptionType, eventType, has, hasToo, hasThird, hasLast⟩ |
    ⟨no, noToo, noThird, noLast⟩
  · rw [has] at keyPresent
    rw [hasToo] at subscriberKeyPresent
    rw [hasThird] at subscriptionTypePresent
    rw [hasLast] at eventTypePresent
    simp only [filled, has, hasToo, hasThird, hasLast]
    refine ⟨⟨rfl, partitionIdFits, rfl, positionFits, rfl, key.toNat_lt, rfl,
      subscriberKey.toNat_lt, rfl, subscriptionType.toNat_lt, rfl, eventType.toNat_lt, trivial⟩, ?_⟩
    simp [FilledField.optional, fields, partitionIdPresent, positionPresent, ← keyPresent,
      ← subscriberKeyPresent, ← subscriptionTypePresent, ← eventTypePresent]
  · rw [no] at keyPresent
    rw [noToo] at subscriberKeyPresent
    rw [noThird] at subscriptionTypePresent
    rw [noLast] at eventTypePresent
    simp only [filled, no, noToo, noThird, noLast]
    refine ⟨⟨rfl, partitionIdFits, rfl, positionFits, trivial⟩, ?_⟩
    simp [FilledField.optional, fields, partitionIdPresent, positionPresent, ← keyPresent,
      ← subscriberKeyPresent, ← subscriptionTypePresent, ← eventTypePresent]

/-- The record is read back. -/
theorem read_write {record : SubscribedEvent} {version : UInt16}
    (complete : record.HasFieldsOf version) {extension : Bytes}
    (blockFits : (record.writeBlock ++ extension).length < Word.limit 2)
    (eventFits : record.event.length < Word.limit dataLengthSize) (trailing : Bytes) :
    read (UInt16.ofNat (record.writeBlock ++ extension).length) version
      (record.writeBlock ++ extension ++ (writeData record.event ++ trailing)) = .ok record := by
  have fills := fillsBlock complete
  rw [writeBlock_eq complete] at blockFits ⊢
  have block := fills.read extension (writeData record.event ++ trailing) blockFits
  obtain ⟨keyPresent, subscriberKeyPresent, subscriptionTypePresent, eventTypePresent⟩ := complete
  have partitionId :=
    fills.number? extension partitionIdField record.partitionId.toNat (by simp [filled])
  have position := fills.number? extension positionField record.position.toNat (by simp [filled])
  have key := fills.number?_of_optional extension keyField (record.key.map UInt64.toNat)
    (by rw [Option.isSome_map]; exact keyPresent) (fun present same => by simp [filled, same])
  have subscriberKey := fills.number?_of_optional extension subscriberKeyField
    (record.subscriberKey.map UInt64.toNat)
    (by rw [Option.isSome_map]; exact subscriberKeyPresent)
    (fun present same => by simp [filled, same])
  have subscriptionType := fills.number?_of_optional extension subscriptionTypeField
    (record.subscriptionType.map UInt8.toNat)
    (by rw [Option.isSome_map]; exact subscriptionTypePresent)
    (fun present same => by simp [filled, same])
  have eventType := fills.number?_of_optional extension eventTypeField
    (record.eventType.map UInt8.toNat)
    (by rw [Option.isSome_map]; exact eventTypePresent) (fun present same => by simp [filled, same])
  unfold read
  rw [block]
  simp only [bind, Except.bind, readData_writeData eventFits, Block.word, partitionId, position,
    key, subscriberKey, subscriptionType, eventType, Option.getD_some, UInt16.ofNat_toNat,
    UInt64.ofNat_toNat, Option.map_map, Function.comp_def, UInt8.ofNat_toNat, Option.map_id_fun']
  rfl

end SubscribedEvent

namespace Body

/-- A body with a payload is its block, further bytes of the block, and its payload. -/
theorem write_eq {body : Body} {payload : Bytes} (carried : body.payload? = some payload)
    (extension : Bytes) :
    body.write extension = body.writeBlock ++ extension ++ writeData payload := by
  cases body with
  | unrecognized templateId bytes => contradiction
  | _ =>
    obtain rfl := Option.some.inj carried
    rfl

/-- The body of a known template is read back. -/
theorem read_write {body : Body} {template : Template} {version : UInt16} {payload : Bytes}
    (known : body.template? = some template) (complete : body.HasFieldsOf version)
    (carried : body.payload? = some payload) {extension : Bytes}
    (blockFits : (body.writeBlock ++ extension).length < Word.limit 2)
    (payloadFits : payload.length < Word.limit dataLengthSize) (trailing : Bytes) :
    read template (UInt16.ofNat (body.writeBlock ++ extension).length) version
      (body.write extension ++ trailing) = .ok body := by
  rw [write_eq carried, List.append_assoc]
  cases body with
  | controlMessageResponse record =>
    obtain rfl := Option.some.inj known
    obtain rfl := Option.some.inj carried
    simp only [read, writeBlock, record.read_write version blockFits payloadFits, Except.map]
  | executeCommandRequest record =>
    obtain rfl := Option.some.inj known
    obtain rfl := Option.some.inj carried
    simp only [read, writeBlock, ExecuteCommandRequest.read_write complete blockFits payloadFits,
      Except.map]
  | executeCommandResponse record =>
    obtain rfl := Option.some.inj known
    obtain rfl := Option.some.inj carried
    simp only [read, writeBlock, record.read_write version blockFits payloadFits, Except.map]
  | subscribedEvent record =>
    obtain rfl := Option.some.inj known
    obtain rfl := Option.some.inj carried
    simp only [read, writeBlock, SubscribedEvent.read_write complete blockFits payloadFits,
      Except.map]
  | unrecognized templateId bytes => contradiction

end Body

end BrokerWire
