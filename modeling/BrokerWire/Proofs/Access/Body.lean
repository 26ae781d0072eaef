import BrokerWire.Proofs.Access.Basic
import BrokerWire.Proofs.Body.Layout
import BrokerWire.Proofs.Body.Reading

/-!
# Bodies by position

A block is cut off in front of a body, its fields are fetched from their places in it, and the data
from behind their length. Whatever length of the block is announced, no place outside is named: a
block that is cut off holds every field of its version, and the others are not looked for.
-/
namespace BrokerWire

open Access

namespace Block

variable {ε : Type} {fields : List BlockField} {block : Block} {field : BlockField}

/-- A block of the announced length, by position, with the bytes behind it. -/
def fetch (fields : List BlockField) (length version : UInt16) (bytes : Bytes) :
    Access BodyFault (Block × Bytes) :=
  let declared := length.toNat
  if bytes.length < declared then .error (.refused (.blockTruncated declared bytes.length))
  else
    let required := requiredLength fields version
    if declared < required then .error (.refused (.blockTooShort declared required version))
    else do
      let block ← bytes.slice 0 declared
      let rest ← bytes.sliceFrom declared
      return (⟨block, version⟩, rest)

/-- The byte of a field, if it is present. -/
def fetch8 (block : Block) (field : BlockField) : Access ε (Option UInt8) :=
  if field.presentAt block.version then do
    let byte ← block.bytes.fetch field.offset
    return some byte
  else return none

/-- The word of two bytes of a field, if it is present. -/
def fetch16 (block : Block) (field : BlockField) : Access ε (Option UInt16) :=
  if field.presentAt block.version then do
    let word ← Word.fetch16 block.bytes field.offset
    return some word
  else return none

/-- The word of the eight bytes between the places of a field, if it is present. -/
def fetch64 (block : Block) (field : BlockField) : Access ε (Option UInt64) :=
  if field.presentAt block.version then do
    let word ← Word.fetch64 block.bytes field.offset field.stop
    return some word
  else return none

/-- A block is fetched exactly where it is read, and no place outside is named. -/
theorem fetch_eq (fields : List BlockField) (length version : UInt16) (bytes : Bytes) :
    fetch fields length version bytes = within (read fields length version bytes) := by
  by_cases short : bytes.length < length.toNat
  · have none : Bytes.split? length.toNat bytes = none := Bytes.split?_eq_none_iff.mpr short
    simp only [fetch, if_pos short, read, none]
    rfl
  · have found : Bytes.split? length.toNat bytes =
        some (bytes.take length.toNat, bytes.drop length.toNat) :=
      Bytes.split?_eq_some_iff.mpr
        ⟨(List.take_append_drop ..).symm, List.length_take_of_le (Nat.not_lt.mp short)⟩
    have front : bytes.slice (ε := BodyFault) 0 length.toNat = .ok (bytes.take length.toNat) :=
      Bytes.slice_of_eq [] (List.take_append_drop ..).symm rfl
        (by rw [List.length_take_of_le (Nat.not_lt.mp short), Nat.zero_add])
    have behind : bytes.sliceFrom (ε := BodyFault) length.toNat =
        .ok (bytes.drop length.toNat) :=
      Bytes.sliceFrom_of_eq _ (List.take_append_drop ..).symm
        (List.length_take_of_le (Nat.not_lt.mp short)).symm
    by_cases few : length.toNat < requiredLength fields version
    · simp only [fetch, if_neg short, if_pos few, read, found]
      rfl
    · simp only [fetch, if_neg short, if_neg few, read, found, front, behind, ok_bind]
      rfl

/-- The block holds every field that its version has. -/
def Holds (block : Block) (fields : List BlockField) : Prop :=
  requiredLength fields block.version ≤ block.bytes.length

/-- A block that has been read holds the fields that it was read for. -/
theorem holds_of_read {length version : UInt16} {bytes rest : Bytes}
    (found : read fields length version bytes = .ok (block, rest)) : block.Holds fields := by
  obtain ⟨-, same, rfl, enough⟩ := read_eq_ok_iff.mp found
  rw [Holds, same]
  exact enough

/-- A block that has been fetched holds the fields that it was fetched for. -/
theorem holds_of_fetch {length version : UInt16} {bytes rest : Bytes}
    (found : fetch fields length version bytes = .ok (block, rest)) : block.Holds fields := by
  rw [fetch_eq] at found
  cases read : read fields length version bytes with
  | error fault => simp [read] at found
  | ok parts =>
    rw [read, within_ok] at found
    obtain rfl := Except.ok.inj found
    exact holds_of_read read

/-- A field of a block that holds it is absent, or its number stands at its place. -/
theorem absent_or_stands (holds : block.Holds fields) (listed : field ∈ fields) :
    field.presentAt block.version = false ∧ block.number? field = none ∨
      field.presentAt block.version = true ∧ ∃ before number after,
        block.bytes = before ++ (Word.little field.size number ++ after) ∧
          field.offset = before.length ∧ number < Word.limit field.size ∧
          block.number? field = some number := by
  cases present : field.presentAt block.version with
  | false =>
    have absent : block.number? field = none := by
      rw [number?, present]
      rfl
    exact .inl ⟨rfl, absent⟩
  | true =>
    have inside : field.stop ≤ block.bytes.length :=
      requiredLength_le_iff.mp holds field listed present
    rw [BlockField.stop] at inside
    have given : block.number? field = block.numberAt? field.offset field.size := by
      rw [number?, present]
      rfl
    cases taken : Word.readLittle field.size (block.bytes.drop field.offset) with
    | none =>
      have few := Word.readLittle_eq_none_iff.mp taken
      rw [List.length_drop] at few
      omega
    | some parts =>
      obtain ⟨number, after⟩ := parts
      obtain ⟨written, fits⟩ := Word.eq_of_readLittle taken
      refine .inr ⟨rfl, block.bytes.take field.offset, number, after, ?_, ?_, fits, ?_⟩
      · rw [← written, List.take_append_drop]
      · exact (List.length_take_of_le (by omega)).symm
      · rw [given, numberAt?, taken]
        rfl

/-- A field is fetched from a block that holds it, if its number is fetched from where it stands. -/
theorem fetch_of_mem {α : Type} (holds : block.Holds fields) (listed : field ∈ fields)
    {take : Access ε α} {make : Nat → α}
    (fetched : ∀ before number after,
      block.bytes = before ++ (Word.little field.size number ++ after) →
        field.offset = before.length → number < Word.limit field.size → take = .ok (make number)) :
    (if field.presentAt block.version then do
      let found ← take
      return some found
    else return none) = Except.ok ((block.number? field).map make) := by
  obtain ⟨absent, none⟩ | ⟨present, before, number, after, split, place, fits, some⟩ :=
    absent_or_stands holds listed
  · rw [absent, none]
    rfl
  · rw [present, if_pos rfl, fetched before number after split place fits, some]
    rfl

/-- A field of one byte is fetched from a block that holds it. -/
theorem fetch8_of_mem (holds : block.Holds fields) (listed : field ∈ fields)
    (width : field.size = 1) :
    block.fetch8 (ε := ε) field = .ok ((block.number? field).map UInt8.ofNat) := by
  refine fetch_of_mem holds listed fun before number after split place _ => ?_
  rw [width] at split
  exact Bytes.fetch_of_eq before split place

/-- A field of two bytes is fetched from a block that holds it. -/
theorem fetch16_of_mem (holds : block.Holds fields) (listed : field ∈ fields)
    (width : field.size = 2) :
    block.fetch16 (ε := ε) field = .ok ((block.number? field).map UInt16.ofNat) := by
  refine fetch_of_mem holds listed fun before number after split place fits => ?_
  rw [width] at split fits
  rw [← Word.write16_ofNat fits] at split
  exact Word.fetch16_of_eq before split place

/-- A field of eight bytes is fetched from a block that holds it. -/
theorem fetch64_of_mem (holds : block.Holds fields) (listed : field ∈ fields)
    (width : field.size = 8) :
    block.fetch64 (ε := ε) field = .ok ((block.number? field).map UInt64.ofNat) := by
  refine fetch_of_mem holds listed fun before number after split place fits => ?_
  rw [width] at split fits
  rw [← Word.write64_ofNat fits] at split
  exact Word.fetch64_of_eq before split place (by rw [BlockField.stop, width])

end Block

/-- Data behind their length, by position. -/
def fetchData (bytes : Bytes) : Access BodyFault Bytes :=
  if bytes.length < dataLengthSize then
    .error (.refused (.dataTruncated dataLengthSize bytes.length))
  else do
    let length ← Word.fetch16 bytes 0
    let declared := length.toNat
    let available := bytes.length - dataLengthSize
    if available < declared then .error (.refused (.dataTruncated declared available))
    else bytes.slice dataLengthSize (dataLengthSize + declared)

/-- Data are fetched exactly where they are read, and no place outside is named. -/
theorem fetchData_eq (bytes : Bytes) :
    fetchData bytes = within ((readData bytes).map Prod.fst) := by
  by_cases short : bytes.length < dataLengthSize
  · have none := Word.readLittle_eq_none_iff.mpr short
    simp only [fetchData, if_pos short, readData, none]
    rfl
  · obtain ⟨length, rest, rfl⟩ := Word.exists_write16 (Nat.not_lt.mp short)
    have announced : Word.readLittle dataLengthSize (Word.write16 length ++ rest) =
        some (length.toNat, rest) := Word.readLittle_little length.toNat_lt rest
    have fetched : Word.fetch16 (ε := BodyFault) (Word.write16 length ++ rest) 0 = .ok length :=
      Word.fetch16_of_eq [] rfl rfl
    have available : (Word.write16 length ++ rest).length - dataLengthSize = rest.length := by
      rw [List.length_append, Word.write16, Word.length_little, dataLengthSize]
      omega
    simp only [fetchData, if_neg short, fetched, ok_bind, available, readData, announced]
    cases split : Bytes.split? length.toNat rest with
    | none =>
      rw [if_pos (Bytes.split?_eq_none_iff.mp split)]
      rfl
    | some parts =>
      obtain ⟨data, trailing⟩ := parts
      obtain ⟨rfl, count⟩ := Bytes.split?_eq_some_iff.mp split
      have enough : ¬(data ++ trailing).length < length.toNat := by
        rw [List.length_append]
        omega
      rw [if_neg enough]
      exact Bytes.slice_of_eq (Word.write16 length) rfl rfl (by rw [count])

/-- The word of two bytes of a field that every version has is its number. -/
theorem Block.getD_map_ofNat16 (block : Block) (field : BlockField) :
    ((block.number? field).map UInt16.ofNat).getD 0 = UInt16.ofNat (block.word field) := by
  rw [Block.word]
  cases block.number? field <;> rfl

/-- The word of eight bytes of a field that every version has is its number. -/
theorem Block.getD_map_ofNat64 (block : Block) (field : BlockField) :
    ((block.number? field).map UInt64.ofNat).getD 0 = UInt64.ofNat (block.word field) := by
  rw [Block.word]
  cases block.number? field <;> rfl

/-- A record, by position: its block, the fields in it, then the data behind it. -/
def fetchRecord {ρ : Type} (fields : List BlockField)
    (fetchFields : Block → Access BodyFault (Bytes → ρ)) (blockLength version : UInt16)
    (bytes : Bytes) : Access BodyFault ρ := do
  let (block, rest) ← Block.fetch fields blockLength version bytes
  let record ← fetchFields block
  let data ← fetchData rest
  return record data

/-- A record is fetched exactly where it is read if its fields are fetched from every block that
holds them, and then no place outside is named. -/
theorem fetchRecord_eq {ρ : Type} {fields : List BlockField}
    {fetchFields : Block → Access BodyFault (Bytes → ρ)} (record : Block → Bytes → ρ)
    (fetched : ∀ block : Block, block.Holds fields → fetchFields block = .ok (record block))
    (blockLength version : UInt16) (bytes : Bytes) :
    fetchRecord fields fetchFields blockLength version bytes = within (do
      let (block, rest) ← Block.read fields blockLength version bytes
      let (data, _) ← readData rest
      return record block data) := by
  rw [fetchRecord, Block.fetch_eq]
  cases found : Block.read fields blockLength version bytes with
  | error fault => rfl
  | ok parts =>
    obtain ⟨block, rest⟩ := parts
    simp only [within_ok, ok_bind, fetched block (Block.holds_of_read found), fetchData_eq]
    cases readData rest <;> rfl

/-- The record of an answer about the broker, by position. -/
def ControlMessageResponse.fetch :
    UInt16 → UInt16 → Bytes → Access BodyFault ControlMessageResponse :=
  fetchRecord fields fun _ => return fun data => { data }

/-- The record is fetched exactly where it is read, and no place outside is named. -/
theorem ControlMessageResponse.fetch_eq (blockLength version : UInt16) (bytes : Bytes) :
    fetch blockLength version bytes = within (read blockLength version bytes) :=
  fetchRecord_eq ofBlock (fun _ _ => rfl) blockLength version bytes

/-- The record of a command, by position. -/
def ExecuteCommandRequest.fetch :
    UInt16 → UInt16 → Bytes → Access BodyFault ExecuteCommandRequest :=
  fetchRecord fields fun block => do
    let partitionId ← block.fetch16 partitionIdField
    let key ← block.fetch64 keyField
    let eventType ← block.fetch8 eventTypeField
    return fun command =>
      { partitionId := partitionId.getD 0, key := key.getD 0, eventType, command }

/-- The record is fetched exactly where it is read, and no place outside is named. -/
theorem ExecuteCommandRequest.fetch_eq (blockLength version : UInt16) (bytes : Bytes) :
    fetch blockLength version bytes = within (read blockLength version bytes) := by
  refine fetchRecord_eq ofBlock (fun block holds => ?_) blockLength version bytes
  have partitionId := block.fetch16_of_mem (ε := BodyFault) holds
    (show partitionIdField ∈ fields by decide) rfl
  have key := block.fetch64_of_mem (ε := BodyFault) holds (show keyField ∈ fields by decide) rfl
  have eventType := block.fetch8_of_mem (ε := BodyFault) holds
    (show eventTypeField ∈ fields by decide) rfl
  simp only [partitionId, key, eventType, ok_bind, Block.getD_map_ofNat16,
    Block.getD_map_ofNat64]
  rfl

/-- The record of an answer to a command, by position. -/
def ExecuteCommandResponse.fetch :
    UInt16 → UInt16 → Bytes → Access BodyFault ExecuteCommandResponse :=
  fetchRecord fields fun block => do
    let partitionId ← block.fetch16 partitionIdField
    let key ← block.fetch64 keyField
    return fun event => { partitionId := partitionId.getD 0, key := key.getD 0, event }

/-- The record is fetched exactly where it is read, and no place outside is named. -/
theorem ExecuteCommandResponse.fetch_eq (blockLength version : UInt16) (bytes : Bytes) :
    fetch blockLength version bytes = within (read blockLength version bytes) := by
  refine fetchRecord_eq ofBlock (fun block holds => ?_) blockLength version bytes
  have partitionId := block.fetch16_of_mem (ε := BodyFault) holds
    (show partitionIdField ∈ fields by decide) rfl
  have key := block.fetch64_of_mem (ε := BodyFault) holds (show keyField ∈ fields by decide) rfl
  simp only [partitionId, key, ok_bind, Block.getD_map_ofNat16, Block.getD_map_ofNat64]
  rfl

/-- The record of an event, by position. -/
def SubscribedEvent.fetch : UInt16 → UInt16 → Bytes → Access BodyFault SubscribedEvent :=
  fetchRecord fields fun block => do
    let partitionId ← block.fetch16 partitionIdField
    let position ← block.fetch64 positionField
    let key ← block.fetch64 keyField
    let subscriberKey ← block.fetch64 subscriberKeyField
    let subscriptionType ← block.fetch8 subscriptionTypeField
    let eventType ← block.fetch8 eventTypeField
    return fun event =>
      { partitionId := partitionId.getD 0, position := position.getD 0, key, subscriberKey,
        subscriptionType, eventType, event }

/-- The record is fetched exactly where it is read, and no place outside is named. -/
theorem SubscribedEvent.fetch_eq (blockLength version : UInt16) (bytes : Bytes) :
    fetch blockLength version bytes = within (read blockLength version bytes) := by
  refine fetchRecord_eq ofBlock (fun block holds => ?_) blockLength version bytes
  have word16 : ∀ field ∈ fields, field.size = 2 →
      block.fetch16 (ε := BodyFault) field = .ok ((block.number? field).map UInt16.ofNat) :=
    fun field listed width => block.fetch16_of_mem holds listed width
  have word64 : ∀ field ∈ fields, field.size = 8 →
      block.fetch64 (ε := BodyFault) field = .ok ((block.number? field).map UInt64.ofNat) :=
    fun field listed width => block.fetch64_of_mem holds listed width
  have byte : ∀ field ∈ fields, field.size = 1 →
      block.fetch8 (ε := BodyFault) field = .ok ((block.number? field).map UInt8.ofNat) :=
    fun field listed width => block.fetch8_of_mem holds listed width
  rw [word16 partitionIdField (by decide) rfl, word64 positionField (by decide) rfl,
    word64 keyField (by decide) rfl, word64 subscriberKeyField (by decide) rfl,
    byte subscriptionTypeField (by decide) rfl, byte eventTypeField (by decide) rfl]
  simp only [ok_bind, Block.getD_map_ofNat16, Block.getD_map_ofNat64]
  rfl

namespace Body

/-- The body of a known template, by position. -/
def fetch (template : Template) (blockLength version : UInt16) (bytes : Bytes) :
    Access BodyFault Body :=
  match template with
  | .controlMessageResponse =>
    (ControlMessageResponse.fetch blockLength version bytes).map .controlMessageResponse
  | .executeCommandRequest =>
    (ExecuteCommandRequest.fetch blockLength version bytes).map .executeCommandRequest
  | .executeCommandResponse =>
    (ExecuteCommandResponse.fetch blockLength version bytes).map .executeCommandResponse
  | .subscribedEvent => (SubscribedEvent.fetch blockLength version bytes).map .subscribedEvent

/-- A body is fetched exactly where it is read, and no place outside is named. -/
theorem fetch_eq (template : Template) (blockLength version : UInt16) (bytes : Bytes) :
    fetch template blockLength version bytes =
      within (read template blockLength version bytes) := by
  cases template with
  | controlMessageResponse => rw [fetch, read, ControlMessageResponse.fetch_eq, within_map]
  | executeCommandRequest => rw [fetch, read, ExecuteCommandRequest.fetch_eq, within_map]
  | executeCommandResponse => rw [fetch, read, ExecuteCommandResponse.fetch_eq, within_map]
  | subscribedEvent => rw [fetch, read, SubscribedEvent.fetch_eq, within_map]

end Body

/-- The fields of the first version take two or eight bytes. -/
theorem Template.size_of_first {template : Template} {field : BlockField}
    (listed : field ∈ template.fields) (first : field.since = 0) :
    field.size = 2 ∨ field.size = 8 := by
  have all : ∀ field ∈ template.fields, field.since = 0 → field.size = 2 ∨ field.size = 8 := by
    cases template <;> decide
  exact all field listed first

/-- In a block that has been cut off for a template, each field of the first version is fetched with
a word of its own, so that no other one has to stand in for it. -/
theorem Block.fetch_first {template : Template} {blockLength version : UInt16}
    {bytes rest : Bytes} {block : Block} {field : BlockField}
    (found : Block.fetch template.fields blockLength version bytes = .ok (block, rest))
    (listed : field ∈ template.fields) (first : field.since = 0) :
    (∃ word, field.size = 2 ∧ block.fetch16 (ε := BodyFault) field = .ok (some word)) ∨
      ∃ word, field.size = 8 ∧ block.fetch64 (ε := BodyFault) field = .ok (some word) := by
  have holds := Block.holds_of_fetch found
  obtain ⟨number, given⟩ : ∃ number, block.number? field = some number := by
    have present := BlockField.presentAt_of_first first block.version
    obtain ⟨absent, -⟩ | ⟨-, before, number, after, -, -, -, given⟩ :=
      Block.absent_or_stands holds listed
    · rw [present] at absent
      contradiction
    · exact ⟨number, given⟩
  obtain width | width := Template.size_of_first listed first
  · refine .inl ⟨UInt16.ofNat number, width, ?_⟩
    rw [Block.fetch16_of_mem holds listed width, given]
    rfl
  · refine .inr ⟨UInt64.ofNat number, width, ?_⟩
    rw [Block.fetch64_of_mem holds listed width, given]
    rfl

end BrokerWire
