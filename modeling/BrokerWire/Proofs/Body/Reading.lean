import BrokerWire.Body.Basic
import BrokerWire.Proofs.Outcome

/-!
# Bodies of all templates

The records of all templates are read in one way: a block that holds the fields of the template,
then data behind it, and the record is made of the two. A body that has been read therefore tells
its template, and its payload is exactly what stands behind the block and its own length.
-/
namespace BrokerWire

/-- A block is taken exactly from in front of other bytes, if it is as long as announced and long
enough for the fields. -/
theorem Block.read_eq_ok_iff {fields : List BlockField} {length version : UInt16}
    {body rest : Bytes} {block : Block} :
    read fields length version body = .ok (block, rest) ↔
      body = block.bytes ++ rest ∧ block.bytes.length = length.toNat ∧ block.version = version ∧
        requiredLength fields version ≤ length.toNat := by
  unfold read
  cases split : Bytes.split? length.toNat body with
  | none =>
    have short := Bytes.split?_eq_none_iff.mp split
    simp only [reduceCtorEq, false_iff]
    rintro ⟨rfl, long, -⟩
    rw [List.length_append] at short
    omega
  | some parts =>
    obtain ⟨bytes, behind⟩ := parts
    obtain ⟨rfl, long⟩ := Bytes.split?_eq_some_iff.mp split
    by_cases short : length.toNat < requiredLength fields version
    · simp only [if_pos short, reduceCtorEq, false_iff]
      rintro ⟨-, -, -, enough⟩
      omega
    · simp only [if_neg short, Except.ok.injEq, Prod.mk.injEq]
      constructor
      · rintro ⟨rfl, rfl⟩
        exact ⟨rfl, long, rfl, Nat.not_lt.mp short⟩
      · rintro ⟨whole, same, rfl, -⟩
        obtain ⟨first, rest⟩ := List.append_inj whole (long.trans same.symm)
        exact ⟨by rw [first], rest⟩

/-- Data are taken exactly from behind their length. -/
theorem readData_eq_ok_iff {bytes data rest : Bytes} :
    readData bytes = .ok (data, rest) ↔
      bytes = writeData data ++ rest ∧ data.length < Word.limit dataLengthSize := by
  constructor
  · intro found
    unfold readData at found
    cases announced : Word.readLittle dataLengthSize bytes with
    | none => simp [announced] at found
    | some parts =>
      obtain ⟨length, behind⟩ := parts
      obtain ⟨rfl, fits⟩ := Word.eq_of_readLittle announced
      cases split : Bytes.split? length behind with
      | none => simp [announced, split] at found
      | some parts =>
        simp only [announced, split, Except.ok.injEq] at found
        subst found
        obtain ⟨rfl, rfl⟩ := Bytes.split?_eq_some_iff.mp split
        exact ⟨by rw [writeData, List.append_assoc], fits⟩
  · rintro ⟨rfl, fits⟩
    exact readData_writeData fits rest

/-- The record of a block and the data behind it. -/
def ControlMessageResponse.ofBlock (_ : Block) (data : Bytes) : ControlMessageResponse := { data }

/-- The record of a block and the data behind it. -/
def ExecuteCommandRequest.ofBlock (block : Block) (command : Bytes) : ExecuteCommandRequest where
  partitionId := UInt16.ofNat (block.word partitionIdField)
  key := UInt64.ofNat (block.word keyField)
  eventType := (block.number? eventTypeField).map UInt8.ofNat
  command

/-- The record of a block and the data behind it. -/
def ExecuteCommandResponse.ofBlock (block : Block) (event : Bytes) : ExecuteCommandResponse where
  partitionId := UInt16.ofNat (block.word partitionIdField)
  key := UInt64.ofNat (block.word keyField)
  event

/-- The record of a block and the data behind it. -/
def SubscribedEvent.ofBlock (block : Block) (event : Bytes) : SubscribedEvent where
  partitionId := UInt16.ofNat (block.word partitionIdField)
  position := UInt64.ofNat (block.word positionField)
  key := (block.number? keyField).map UInt64.ofNat
  subscriberKey := (block.number? subscriberKeyField).map UInt64.ofNat
  subscriptionType := (block.number? subscriptionTypeField).map UInt8.ofNat
  eventType := (block.number? eventTypeField).map UInt8.ofNat
  event

/-- The fields of a template's block. -/
def Template.fields : Template → List BlockField
  | controlMessageResponse => ControlMessageResponse.fields
  | executeCommandRequest => ExecuteCommandRequest.fields
  | executeCommandResponse => ExecuteCommandResponse.fields
  | subscribedEvent => SubscribedEvent.fields

namespace Body

/-- The body that a template makes of a block and the data behind it. -/
def ofBlock (template : Template) (block : Block) (data : Bytes) : Body :=
  match template with
  | .controlMessageResponse => .controlMessageResponse (.ofBlock block data)
  | .executeCommandRequest => .executeCommandRequest (.ofBlock block data)
  | .executeCommandResponse => .executeCommandResponse (.ofBlock block data)
  | .subscribedEvent => .subscribedEvent (.ofBlock block data)

variable {template : Template} {block : Block} {data : Bytes}

/-- A body is one of the template that makes it. -/
@[simp] theorem template?_ofBlock : (ofBlock template block data).template? = some template := by
  cases template <;> rfl

/-- The payload of a body is the data that it is made of. -/
@[simp] theorem payload?_ofBlock : (ofBlock template block data).payload? = some data := by
  cases template <;> rfl

variable {blockLength version : UInt16} {bytes : Bytes}

/-- The bodies of all templates are read in one way. -/
theorem read_eq_bind (template : Template) (blockLength version : UInt16) (bytes : Bytes) :
    read template blockLength version bytes = (do
      let (block, rest) ← Block.read template.fields blockLength version bytes
      let (data, _) ← readData rest
      return ofBlock template block data) := by
  cases template with
  | controlMessageResponse =>
    rw [read, ControlMessageResponse.read, map_bind_eq]
    exact bind_congr fun (block, rest) => map_bind_eq _ (readData rest) _
  | executeCommandRequest =>
    rw [read, ExecuteCommandRequest.read, map_bind_eq]
    exact bind_congr fun (block, rest) => map_bind_eq _ (readData rest) _
  | executeCommandResponse =>
    rw [read, ExecuteCommandResponse.read, map_bind_eq]
    exact bind_congr fun (block, rest) => map_bind_eq _ (readData rest) _
  | subscribedEvent =>
    rw [read, SubscribedEvent.read, map_bind_eq]
    exact bind_congr fun (block, rest) => map_bind_eq _ (readData rest) _

/-- A body is read exactly from a block that holds the fields of its template, data behind their
length, and any bytes behind them. -/
theorem read_eq_ok_iff {body : Body} :
    read template blockLength version bytes = .ok body ↔
      ∃ block data trailing, bytes = block ++ (writeData data ++ trailing) ∧
        block.length = blockLength.toNat ∧
        requiredLength template.fields version ≤ blockLength.toNat ∧
        data.length < Word.limit dataLengthSize ∧
        body = ofBlock template ⟨block, version⟩ data := by
  rw [read_eq_bind]
  constructor
  · intro found
    obtain ⟨⟨block, rest⟩, first, found⟩ := bind_eq_ok_iff.mp found
    obtain ⟨⟨data, trailing⟩, second, same⟩ := bind_eq_ok_iff.mp found
    obtain ⟨rfl, length, rfl, enough⟩ := Block.read_eq_ok_iff.mp first
    obtain ⟨whole, fits⟩ := readData_eq_ok_iff.mp second
    change rest = writeData data ++ trailing at whole
    rw [whole]
    exact ⟨block.bytes, data, trailing, rfl, length, enough, fits, (Except.ok.inj same).symm⟩
  · rintro ⟨block, data, trailing, rfl, length, enough, fits, rfl⟩
    have first : Block.read template.fields blockLength version
        (block ++ (writeData data ++ trailing)) =
          .ok (⟨block, version⟩, writeData data ++ trailing) :=
      Block.read_eq_ok_iff.mpr ⟨rfl, length, rfl, enough⟩
    have second := readData_writeData fits trailing
    exact bind_eq_ok_iff.mpr ⟨_, first, bind_eq_ok_iff.mpr ⟨(data, trailing), second, rfl⟩⟩

/-- A body that has been read is one of the template, and is not unrecognised. -/
theorem template?_of_read {body : Body}
    (found : read template blockLength version bytes = .ok body) :
    body.template? = some template := by
  obtain ⟨block, data, trailing, -, -, -, -, rfl⟩ := read_eq_ok_iff.mp found
  exact template?_ofBlock

/-- A body that has been read carries a payload. -/
theorem payload?_of_read {body : Body}
    (found : read template blockLength version bytes = .ok body) :
    ∃ payload, body.payload? = some payload := by
  obtain ⟨block, data, trailing, -, -, -, -, rfl⟩ := read_eq_ok_iff.mp found
  exact ⟨data, payload?_ofBlock⟩

/-- A body of a known template is recognised. -/
theorem isUnrecognized_eq_false {body : Body} (known : body.template? = some template) :
    body.isUnrecognized = false := by
  cases body <;> first | rfl | contradiction

end Body

end BrokerWire
