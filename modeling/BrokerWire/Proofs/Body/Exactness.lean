import BrokerWire.Proofs.Access.Body

/-!
# Bodies and their bytes

A body and its layout determine each other. Every field of a record stands at its place in the
block, least digit first, or is absent at the version; the data stand behind their length. Bytes
that are laid out so are read as that body and as no other one, and any others are refused for the
first reason that applies. What stands in the block beside the fields of the version, and what
stands behind the data, is never looked at.
-/
namespace BrokerWire

/-- Words of two bytes with the same digits are the same. -/
theorem Word.write16_inj {word other : UInt16} : write16 word = write16 other ↔ word = other := by
  constructor
  · intro same
    rw [← ofLittle_write16 word, same, ofLittle_write16]
  · intro same
    rw [same]

/-- Words of eight bytes with the same digits are the same. -/
theorem Word.write64_inj {word other : UInt64} : write64 word = write64 other ↔ word = other := by
  constructor
  · intro same
    rw [← ofLittle_write64 word, same, ofLittle_write64]
  · intro same
    rw [same]

namespace Block

variable {fields : List BlockField} {length version : UInt16} {body : Bytes} {fault : BodyFault}

/-- The bytes at the place of a field, if it is present. -/
def slice? (block : Block) (field : BlockField) : Option Bytes :=
  if field.presentAt block.version then
    some ((block.bytes.drop field.offset).take field.size)
  else none

/-- The bytes at the place of a field are the digits of its number, which fits the field. -/
theorem slice?_of_holds {block : Block} {field : BlockField} (holds : block.Holds fields)
    (listed : field ∈ fields) :
    block.slice? field = (block.number? field).map (Word.little field.size) ∧
      ∀ number, block.number? field = some number → number < Word.limit field.size := by
  rcases absent_or_stands holds listed with ⟨absent, none⟩ |
    ⟨present, before, number, after, split, place, fits, found⟩
  · rw [slice?, absent, none]
    exact ⟨rfl, fun number some => by contradiction⟩
  · have taken : (block.bytes.drop field.offset).take field.size =
        Word.little field.size number := by
      rw [split, place, List.drop_left, List.take_left' (Word.length_little ..)]
    rw [slice?, present, if_pos rfl, taken, found]
    refine ⟨rfl, fun other same => ?_⟩
    obtain rfl := Option.some.inj same
    exact fits

/-- A block is refused exactly where it is announced longer than the body, or else too short for
the fields of its version. -/
theorem read_eq_error_iff :
    read fields length version body = .error fault ↔
      body.length < length.toNat ∧ fault = .blockTruncated length.toNat body.length ∨
      length.toNat ≤ body.length ∧ length.toNat < requiredLength fields version ∧
        fault = .blockTooShort length.toNat (requiredLength fields version) version := by
  unfold read
  cases split : Bytes.split? length.toNat body with
  | none =>
    have short := Bytes.split?_eq_none_iff.mp split
    simp [short, Nat.not_le.mpr short, eq_comm]
  | some parts =>
    have within : length.toNat ≤ body.length := by
      apply Nat.not_lt.mp
      rw [← Bytes.split?_eq_none_iff, split]
      exact Option.some_ne_none parts
    by_cases few : length.toNat < requiredLength fields version
    · simp [few, within, Nat.not_lt.mpr within, eq_comm]
    · simp [few, Nat.not_lt.mpr within]

end Block

/-- Data are refused exactly where there is no room for their length, or else for themselves. -/
theorem readData_eq_error_iff {bytes : Bytes} {fault : BodyFault} :
    readData bytes = .error fault ↔
      bytes.length < 2 ∧ fault = .dataTruncated 2 bytes.length ∨
      2 ≤ bytes.length ∧ bytes.length - 2 < Word.ofLittle (bytes.take 2) ∧
        fault = .dataTruncated (Word.ofLittle (bytes.take 2)) (bytes.length - 2) := by
  unfold readData
  cases announced : Word.readLittle dataLengthSize bytes with
  | none =>
    have short : bytes.length < 2 := Word.readLittle_eq_none_iff.mp announced
    simp [short, Nat.not_le.mpr short, dataLengthSize, eq_comm]
  | some parts =>
    obtain ⟨length, rest⟩ := parts
    obtain ⟨split, fits⟩ := Word.eq_of_readLittle announced
    have count : bytes.length = 2 + rest.length := by
      rw [split, List.length_append, Word.length_little, dataLengthSize]
    have digits : Word.ofLittle (bytes.take 2) = length := by
      have taken : bytes.take 2 = Word.little dataLengthSize length := by
        rw [split]
        exact List.take_left' (Word.length_little dataLengthSize length)
      rw [taken, Word.ofLittle_little fits]
    have left : bytes.length - 2 = rest.length := by omega
    have enough : 2 ≤ bytes.length := by omega
    rw [digits, left]
    cases found : Bytes.split? length rest with
    | none =>
      have short := Bytes.split?_eq_none_iff.mp found
      simp [found, short, enough, Nat.not_lt.mpr enough, eq_comm]
    | some parts =>
      have long : ¬rest.length < length := by
        rw [← Bytes.split?_eq_none_iff, found]
        exact Option.some_ne_none parts
      simp [found, long, Nat.not_lt.mpr enough]

namespace Body

/-- The fields of a body with their bytes, least digit first, or without any where the body does
not have them. -/
def written : Body → List (BlockField × Option Bytes)
  | executeCommandRequest record =>
    [(ExecuteCommandRequest.partitionIdField, some (Word.write16 record.partitionId)),
      (ExecuteCommandRequest.keyField, some (Word.write64 record.key)),
      (ExecuteCommandRequest.eventTypeField, record.eventType.map fun byte => [byte])]
  | executeCommandResponse record =>
    [(ExecuteCommandResponse.partitionIdField, some (Word.write16 record.partitionId)),
      (ExecuteCommandResponse.keyField, some (Word.write64 record.key))]
  | subscribedEvent record =>
    [(SubscribedEvent.partitionIdField, some (Word.write16 record.partitionId)),
      (SubscribedEvent.positionField, some (Word.write64 record.position)),
      (SubscribedEvent.keyField, record.key.map Word.write64),
      (SubscribedEvent.subscriberKeyField, record.subscriberKey.map Word.write64),
      (SubscribedEvent.subscriptionTypeField, record.subscriptionType.map fun byte => [byte]),
      (SubscribedEvent.eventTypeField, record.eventType.map fun byte => [byte])]
  | controlMessageResponse _ | unrecognized _ _ => []

section Fields

variable {fields : List BlockField} {block : Block} (field : BlockField)

/-- A field of one byte has the byte at its place. -/
theorem written_byte (holds : block.Holds fields) (listed : field ∈ fields)
    (width : field.size = 1) :
    (((block.number? field).map UInt8.ofNat).map fun byte => [byte]) = block.slice? field := by
  obtain ⟨slice, -⟩ := Block.slice?_of_holds holds listed
  rw [slice, width, Option.map_map]
  rfl

/-- A field of eight bytes has the word at its place. -/
theorem written_word64 (holds : block.Holds fields) (listed : field ∈ fields)
    (width : field.size = 8) :
    ((block.number? field).map UInt64.ofNat).map Word.write64 = block.slice? field := by
  obtain ⟨slice, fits⟩ := Block.slice?_of_holds holds listed
  rw [width] at slice fits
  rw [slice, Option.map_map]
  cases found : block.number? field with
  | none => rfl
  | some number => exact congrArg some (Word.write64_ofNat (fits number found))

/-- A field that every version has is not absent. -/
theorem number?_of_first (holds : block.Holds fields) (listed : field ∈ fields)
    (first : field.since = 0) : block.number? field = some (block.word field) := by
  have present := field.presentAt_of_first first block.version
  rcases Block.absent_or_stands holds listed with ⟨absent, -⟩ | ⟨-, _, number, _, _, _, _, found⟩
  · rw [present] at absent
    contradiction
  · rw [Block.word, found]
    rfl

/-- A field of two bytes that every version has, has the word at its place. -/
theorem written_first16 (holds : block.Holds fields) (listed : field ∈ fields)
    (first : field.since = 0) (width : field.size = 2) :
    some (Word.write16 (UInt16.ofNat (block.word field))) = block.slice? field := by
  obtain ⟨slice, fits⟩ := Block.slice?_of_holds holds listed
  have found := number?_of_first field holds listed first
  have small := fits _ found
  rw [width] at slice small
  rw [slice, found, Word.write16_ofNat small]
  rfl

/-- A field of eight bytes that every version has, has the word at its place. -/
theorem written_first64 (holds : block.Holds fields) (listed : field ∈ fields)
    (first : field.since = 0) (width : field.size = 8) :
    some (Word.write64 (UInt64.ofNat (block.word field))) = block.slice? field := by
  have found := number?_of_first field holds listed first
  have word := written_word64 field holds listed width
  rw [found] at word
  exact word

end Fields

/-- The body of a block that holds its fields has exactly the bytes at their places. -/
theorem written_ofBlock {template : Template} {block : Block} (holds : block.Holds template.fields)
    (data : Bytes) :
    (ofBlock template block data).written =
      template.fields.map fun field => (field, block.slice? field) := by
  cases template with
  | controlMessageResponse => rfl
  | executeCommandRequest =>
    have partitionId := written_first16 ExecuteCommandRequest.partitionIdField holds
      (by decide) rfl rfl
    have key := written_first64 ExecuteCommandRequest.keyField holds (by decide) rfl rfl
    have eventType := written_byte ExecuteCommandRequest.eventTypeField holds
      (by decide) rfl
    simp only [Template.fields, ExecuteCommandRequest.fields, List.map_cons, List.map_nil,
      ← partitionId, ← key, ← eventType]
    rfl
  | executeCommandResponse =>
    have partitionId := written_first16 ExecuteCommandResponse.partitionIdField holds
      (by decide) rfl rfl
    have key := written_first64 ExecuteCommandResponse.keyField holds
      (by decide) rfl rfl
    simp only [Template.fields, ExecuteCommandResponse.fields, List.map_cons, List.map_nil,
      ← partitionId, ← key]
    rfl
  | subscribedEvent =>
    have partitionId := written_first16 SubscribedEvent.partitionIdField holds
      (by decide) rfl rfl
    have position := written_first64 SubscribedEvent.positionField holds
      (by decide) rfl rfl
    have key := written_word64 SubscribedEvent.keyField holds (by decide) rfl
    have subscriberKey := written_word64 SubscribedEvent.subscriberKeyField holds
      (by decide) rfl
    have subscriptionType := written_byte SubscribedEvent.subscriptionTypeField holds
      (by decide) rfl
    have eventType := written_byte SubscribedEvent.eventTypeField holds (by decide) rfl
    simp only [Template.fields, SubscribedEvent.fields, List.map_cons, List.map_nil,
      ← partitionId, ← position, ← key, ← subscriberKey, ← subscriptionType, ← eventType]
    rfl

/-- A body of a known template is determined by the bytes of its fields and its payload. -/
theorem eq_of_written {left right : Body} {template : Template}
    (known : left.template? = some template) (same : right.template? = some template)
    (fields : left.written = right.written) (payload : left.payload? = right.payload?) :
    left = right := by
  have byte : ∀ one other : Option UInt8,
      (one.map fun byte => [byte]) = (other.map fun byte => [byte]) ↔ one = other :=
    fun _ _ => Option.map_inj_right fun _ _ same => List.singleton_inj.mp same
  have word : ∀ one other : Option UInt64,
      one.map Word.write64 = other.map Word.write64 ↔ one = other :=
    fun _ _ => Option.map_inj_right fun _ _ same => Word.write64_inj.mp same
  rw [← same] at known
  cases left with
  | unrecognized templateId bytes =>
    rw [same] at known
    simp [template?] at known
  | controlMessageResponse record =>
    cases right with
    | controlMessageResponse other =>
      obtain ⟨data⟩ := record
      obtain rfl := Option.some.inj payload
      rfl
    | _ => simp [template?] at known
  | executeCommandRequest record =>
    cases right with
    | executeCommandRequest other =>
      obtain ⟨partitionId, key, eventType, command⟩ := record
      simp only [written, List.cons.injEq, Prod.mk.injEq, Option.some.injEq, true_and, and_true,
        Word.write16_inj, Word.write64_inj, byte] at fields
      obtain ⟨rfl, rfl, rfl⟩ := fields
      obtain rfl := Option.some.inj payload
      rfl
    | _ => simp [template?] at known
  | executeCommandResponse record =>
    cases right with
    | executeCommandResponse other =>
      obtain ⟨partitionId, key, event⟩ := record
      simp only [written, List.cons.injEq, Prod.mk.injEq, Option.some.injEq, true_and, and_true,
        Word.write16_inj, Word.write64_inj] at fields
      obtain ⟨rfl, rfl⟩ := fields
      obtain rfl := Option.some.inj payload
      rfl
    | _ => simp [template?] at known
  | subscribedEvent record =>
    cases right with
    | subscribedEvent other =>
      obtain ⟨partitionId, position, key, subscriberKey, subscriptionType, eventType, event⟩ :=
        record
      simp only [written, List.cons.injEq, Prod.mk.injEq, Option.some.injEq, true_and, and_true,
        Word.write16_inj, Word.write64_inj, byte, word] at fields
      obtain ⟨rfl, rfl, rfl, rfl, rfl, rfl⟩ := fields
      obtain rfl := Option.some.inj payload
      rfl
    | _ => simp [template?] at known

/-- Bytes that are laid out as a body: the block of the announced length, the length of the data,
the data, and any bytes behind them. -/
structure LaidOut (template : Template) (blockLength version : UInt16) (bytes : Bytes)
    (body : Body) (block data trailing : Bytes) : Prop where
  /-- The parts stand one behind the other. -/
  split : bytes = block ++ (Word.little 2 data.length ++ (data ++ trailing))
  /-- The block is as long as announced. -/
  announced : block.length = blockLength.toNat
  /-- No field of the version ends behind it. -/
  holds : ∀ field ∈ template.fields, field.presentAt version = true →
    field.stop ≤ blockLength.toNat
  /-- The length of the data is a word of two bytes. -/
  counted : data.length < 0x10000
  /-- The body is one of the template. -/
  known : body.template? = some template
  /-- Each field of the version stands at its place in the block, and the body has no newer one. -/
  fields : body.written =
    template.fields.map fun field => (field, (⟨block, version⟩ : Block).slice? field)
  /-- The data are the payload. -/
  payload : body.payload? = some data

/-- Why bytes are refused as a body of a template, and with which numbers. -/
inductive Refusal (template : Template) (blockLength version : UInt16) (bytes : Bytes) :
    BodyFault → Prop where
  /-- The block is announced longer than the bytes. -/
  | blockTruncated (short : bytes.length < blockLength.toNat) :
      Refusal template blockLength version bytes
        (.blockTruncated blockLength.toNat bytes.length)
  /-- Otherwise the block is announced too short for the fields of the version. -/
  | blockTooShort (inside : blockLength.toNat ≤ bytes.length)
      (short : blockLength.toNat < requiredLength template.fields version) :
      Refusal template blockLength version bytes
        (.blockTooShort blockLength.toNat (requiredLength template.fields version) version)
  /-- Otherwise there is no room for the length of the data behind the block. -/
  | noDataLength (inside : blockLength.toNat ≤ bytes.length)
      (enough : requiredLength template.fields version ≤ blockLength.toNat) {rest : Bytes}
      (behind : rest = bytes.drop blockLength.toNat) (short : rest.length < 2) :
      Refusal template blockLength version bytes (.dataTruncated 2 rest.length)
  /-- Otherwise there is no room for the data behind their length. -/
  | dataTruncated (inside : blockLength.toNat ≤ bytes.length)
      (enough : requiredLength template.fields version ≤ blockLength.toNat) {rest : Bytes}
      (behind : rest = bytes.drop blockLength.toNat) (announced : 2 ≤ rest.length)
      (short : rest.length - 2 < Word.ofLittle (rest.take 2)) :
      Refusal template blockLength version bytes
        (.dataTruncated (Word.ofLittle (rest.take 2)) (rest.length - 2))

variable {template : Template} {blockLength version : UInt16} {bytes : Bytes}

/-- Bytes are read as a body exactly where they are laid out as that body. -/
theorem read_eq_ok_iff_laidOut {body : Body} :
    read template blockLength version bytes = .ok body ↔
      ∃ block data trailing,
        LaidOut template blockLength version bytes body block data trailing := by
  rw [read_eq_ok_iff]
  constructor
  · rintro ⟨block, data, trailing, rfl, length, enough, fits, rfl⟩
    have holds : (⟨block, version⟩ : Block).Holds template.fields := by
      unfold Block.Holds
      rw [length]
      exact enough
    exact ⟨block, data, trailing, {
      split := by rw [writeData, List.append_assoc, dataLengthSize]
      announced := length
      holds := requiredLength_le_iff.mp enough
      counted := fits
      known := template?_ofBlock
      fields := written_ofBlock holds data
      payload := payload?_ofBlock }⟩
  · rintro ⟨block, data, trailing, laid⟩
    have enough := requiredLength_le_iff.mpr laid.holds
    have holds : (⟨block, version⟩ : Block).Holds template.fields := by
      unfold Block.Holds
      rw [laid.announced]
      exact enough
    refine ⟨block, data, trailing, ?_, laid.announced, enough, laid.counted, ?_⟩
    · rw [laid.split, writeData, List.append_assoc, dataLengthSize]
    · apply eq_of_written laid.known template?_ofBlock
      · rw [laid.fields, written_ofBlock holds]
      · rw [laid.payload, payload?_ofBlock]

/-- Bytes are refused as a body exactly for the first reason that applies. -/
theorem read_eq_error_iff_refusal {fault : BodyFault} :
    read template blockLength version bytes = .error fault ↔
      Refusal template blockLength version bytes fault := by
  rw [read_eq_bind, bind_eq_error_iff]
  constructor
  · rintro (refused | ⟨⟨block, rest⟩, found, refused⟩)
    · rcases Block.read_eq_error_iff.mp refused with ⟨short, rfl⟩ | ⟨inside, short, rfl⟩
      · exact .blockTruncated short
      · exact .blockTooShort inside short
    · obtain ⟨split, length, -, enough⟩ := Block.read_eq_ok_iff.mp found
      have behind : rest = bytes.drop blockLength.toNat := by
        rw [split, ← length, List.drop_left]
      have inside : blockLength.toNat ≤ bytes.length := by
        rw [split, List.length_append]
        omega
      rcases bind_eq_error_iff.mp refused with refused | ⟨parts, -, none⟩
      · rcases readData_eq_error_iff.mp refused with ⟨short, rfl⟩ | ⟨announced, short, rfl⟩
        · exact .noDataLength inside enough behind short
        · exact .dataTruncated inside enough behind announced short
      · contradiction
  · intro refusal
    have found : blockLength.toNat ≤ bytes.length →
        requiredLength template.fields version ≤ blockLength.toNat →
          Block.read template.fields blockLength version bytes =
            .ok (⟨bytes.take blockLength.toNat, version⟩, bytes.drop blockLength.toNat) := by
      intro inside enough
      apply Block.read_eq_ok_iff.mpr
      exact ⟨(List.take_append_drop ..).symm, List.length_take_of_le inside, rfl, enough⟩
    cases refusal with
    | blockTruncated short => exact .inl (Block.read_eq_error_iff.mpr (.inl ⟨short, rfl⟩))
    | blockTooShort inside short =>
      exact .inl (Block.read_eq_error_iff.mpr (.inr ⟨inside, short, rfl⟩))
    | noDataLength inside enough behind short =>
      subst behind
      have refused := readData_eq_error_iff.mpr (.inl ⟨short, rfl⟩)
      exact .inr ⟨_, found inside enough, bind_eq_error_iff.mpr (.inl refused)⟩
    | dataTruncated inside enough behind announced short =>
      subst behind
      have refused := readData_eq_error_iff.mpr (.inr ⟨announced, short, rfl⟩)
      exact .inr ⟨_, found inside enough, bind_eq_error_iff.mpr (.inl refused)⟩

/-- How a body of a template is read from bytes. -/
structure ReadsExactly (template : Template) (blockLength version : UInt16) (bytes : Bytes) :
    Prop where
  /-- The bytes are read as a body exactly where they are laid out as that body. -/
  read : ∀ body, Body.read template blockLength version bytes = .ok body ↔
    ∃ block data trailing, LaidOut template blockLength version bytes body block data trailing
  /-- Otherwise they are refused, each reason applying where no earlier one does. -/
  refused : ∀ fault, Body.read template blockLength version bytes = .error fault ↔
    Refusal template blockLength version bytes fault
  /-- The required length is the least one within which every field of the version ends. -/
  required : ∀ length, requiredLength template.fields version ≤ length ↔
    ∀ field ∈ template.fields, field.presentAt version = true → field.stop ≤ length
  /-- Other bytes behind the data, and another block that has the fields of the version, of
  whatever length, are read as the same body. -/
  unaffected : ∀ body block data trailing,
    LaidOut template blockLength version bytes body block data trailing →
      ∀ (otherLength : UInt16) (other others : Bytes), other.length = otherLength.toNat →
        requiredLength template.fields version ≤ otherLength.toNat →
        (∀ field ∈ template.fields, (⟨other, version⟩ : Block).slice? field =
          (⟨block, version⟩ : Block).slice? field) →
        Body.read template otherLength version
          (other ++ (Word.little 2 data.length ++ (data ++ others))) = .ok body

/-- Reading a body is exactly the inverse of its layout. -/
theorem read_exactly (template : Template) (blockLength version : UInt16) (bytes : Bytes) :
    ReadsExactly template blockLength version bytes where
  read _ := read_eq_ok_iff_laidOut
  refused _ := read_eq_error_iff_refusal
  required _ := requiredLength_le_iff
  unaffected body block data trailing laid otherLength other others length enough same := by
    apply read_eq_ok_iff_laidOut.mpr
    exact ⟨other, data, others, {
      split := rfl
      announced := length
      holds := requiredLength_le_iff.mp enough
      counted := laid.counted
      known := laid.known
      fields := by
        rw [laid.fields]
        exact List.map_congr_left fun field listed => by rw [same field listed]
      payload := laid.payload }⟩

/-- Of a block that is longer than the fields of its version, the rest is left alone, and so is what
stands behind the data; but a length of the data that is cut off is not made good by it. -/
example :
    read .executeCommandRequest 12 0
        [1, 0, 2, 0, 0, 0, 0, 0, 0, 0, 0xEE, 0xEE, 1, 0, 0xC0, 0xEE] =
        .ok (.executeCommandRequest ⟨1, 2, none, [0xC0]⟩) ∧
      read .executeCommandRequest 12 0 [1, 0, 2, 0, 0, 0, 0, 0, 0, 0, 0xEE, 0xEE, 1] =
        .error (.dataTruncated 2 1) := by
  constructor <;> rfl

end Body

end BrokerWire
