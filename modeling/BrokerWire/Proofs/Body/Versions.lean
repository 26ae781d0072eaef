import BrokerWire.Proofs.Body.Exactness

/-!
# Bodies across versions

A field belongs to every version from the one on that introduced it, so a later version asks no
less of a block than an earlier one. What is read at a later version is therefore read from the same
bytes at an earlier one, as the same body without the newer fields. Bytes that only the later
version refuses have a block too short for its fields: nothing else about a body, and in particular
not the place of its data, depends on the version.
-/
namespace BrokerWire

section Fields

variable {fields : List BlockField} {earlier later : UInt16}

/-- A field of an earlier version is one of every later version. -/
theorem BlockField.presentAt_of_le (order : earlier ≤ later) {field : BlockField}
    (present : field.presentAt earlier = true) : field.presentAt later = true := by
  unfold BlockField.presentAt at present ⊢
  exact decide_eq_true (UInt16.le_trans (of_decide_eq_true present) order)

/-- A later version asks no less of a block. -/
theorem requiredLength_le_of_le (order : earlier ≤ later) (fields : List BlockField) :
    requiredLength fields earlier ≤ requiredLength fields later := by
  rw [requiredLength_le_iff]
  intro field listed present
  have within := requiredLength_le_iff.mp (Nat.le_refl (requiredLength fields later))
  exact within field listed (BlockField.presentAt_of_le order present)

/-- What stands in a field, as a version has it: nothing where the field is newer. -/
def BlockField.keptAt {α : Type} (field : BlockField) (version : UInt16) (found : Option α) :
    Option α :=
  if field.presentAt version then found else none

/-- What is made of a field that is kept is kept. -/
theorem BlockField.map_keptAt {α β : Type} (field : BlockField) (version : UInt16)
    (make : α → β) (found : Option α) :
    (field.keptAt version found).map make = field.keptAt version (found.map make) := by
  unfold BlockField.keptAt
  split <;> rfl

/-- A field of the first version is kept at every version. -/
theorem BlockField.keptAt_of_first {α : Type} {field : BlockField} (first : field.since = 0)
    (version : UInt16) (found : Option α) : field.keptAt version found = found := by
  unfold BlockField.keptAt
  rw [if_pos (field.presentAt_of_first first version)]

namespace Block

/-- At an earlier version a block has the number of a field where that version has the field. -/
theorem number?_of_le (order : earlier ≤ later) (bytes : Bytes) (field : BlockField) :
    (⟨bytes, earlier⟩ : Block).number? field =
      field.keptAt earlier ((⟨bytes, later⟩ : Block).number? field) := by
  unfold number? BlockField.keptAt
  by_cases present : field.presentAt earlier = true
  · rw [if_pos present, if_pos present, if_pos (BlockField.presentAt_of_le order present)]
    rfl
  · rw [if_neg present, if_neg present]

/-- A field of the first version has the same number at every version. -/
theorem word_of_le (order : earlier ≤ later) (bytes : Bytes) (field : BlockField)
    (first : field.since = 0) :
    (⟨bytes, earlier⟩ : Block).word field = (⟨bytes, later⟩ : Block).word field := by
  rw [word, number?_of_le order, BlockField.keptAt_of_first first]
  rfl

/-- Where the block is long enough for the later version, the two versions differ in nothing but
the version that the block is read at. -/
theorem read_of_le (order : earlier ≤ later) {length : UInt16}
    (enough : requiredLength fields later ≤ length.toNat) (body : Bytes) :
    read fields length earlier body =
      (read fields length later body).map fun (block, rest) =>
        (⟨block.bytes, earlier⟩, rest) := by
  have least := Nat.le_trans (requiredLength_le_of_le order fields) enough
  unfold read
  cases Bytes.split? length.toNat body with
  | none => rfl
  | some parts =>
    obtain ⟨bytes, rest⟩ := parts
    simp only [if_neg (Nat.not_lt.mpr least), if_neg (Nat.not_lt.mpr enough)]
    rfl

end Block

end Fields

/-- The record as a version has it. -/
def ExecuteCommandRequest.atVersion (record : ExecuteCommandRequest) (version : UInt16) :
    ExecuteCommandRequest :=
  { record with eventType := eventTypeField.keptAt version record.eventType }

/-- The record as a version has it. -/
def SubscribedEvent.atVersion (record : SubscribedEvent) (version : UInt16) : SubscribedEvent :=
  { record with
    key := keyField.keptAt version record.key
    subscriberKey := subscriberKeyField.keptAt version record.subscriberKey
    subscriptionType := subscriptionTypeField.keptAt version record.subscriptionType
    eventType := eventTypeField.keptAt version record.eventType }

namespace Body

/-- The body as a version has it: without the fields that are newer. -/
def atVersion (version : UInt16) : Body → Body
  | controlMessageResponse record => controlMessageResponse record
  | executeCommandRequest record => executeCommandRequest (record.atVersion version)
  | executeCommandResponse record => executeCommandResponse record
  | subscribedEvent record => subscribedEvent (record.atVersion version)
  | unrecognized templateId bytes => unrecognized templateId bytes

/-- The version of a body does not tell on its template. -/
@[simp] theorem template?_atVersion (version : UInt16) (body : Body) :
    (body.atVersion version).template? = body.template? := by
  cases body <;> rfl

/-- The version of a body does not tell on its payload. -/
@[simp] theorem payload?_atVersion (version : UInt16) (body : Body) :
    (body.atVersion version).payload? = body.payload? := by
  cases body <;> rfl

/-- A body as a version has it has the fields of the version as they were, and no others. -/
theorem written_atVersion (version : UInt16) (body : Body) :
    (body.atVersion version).written =
      body.written.map fun place => (place.1, place.1.keptAt version place.2) := by
  have first {field : BlockField} (since : field.since = 0) (bytes : Bytes) :
      field.keptAt version (some bytes) = some bytes :=
    BlockField.keptAt_of_first since version (some bytes)
  cases body with
  | controlMessageResponse record | unrecognized templateId bytes => rfl
  | executeCommandRequest record =>
    simp only [atVersion, ExecuteCommandRequest.atVersion, written, List.map_cons, List.map_nil,
      BlockField.map_keptAt]
    rw [first rfl, first rfl]
  | executeCommandResponse record =>
    simp only [atVersion, written, List.map_cons, List.map_nil]
    rw [first rfl, first rfl]
  | subscribedEvent record =>
    simp only [atVersion, SubscribedEvent.atVersion, written, List.map_cons, List.map_nil,
      BlockField.map_keptAt]
    rw [first rfl, first rfl]

variable {template : Template} {blockLength earlier later : UInt16} {bytes : Bytes}

/-- The body of a block at an earlier version is the one at a later version without the newer
fields. -/
theorem ofBlock_of_le (order : earlier ≤ later) (template : Template) (bytes data : Bytes) :
    ofBlock template ⟨bytes, earlier⟩ data =
      (ofBlock template ⟨bytes, later⟩ data).atVersion earlier := by
  cases template with
  | controlMessageResponse => rfl
  | executeCommandRequest =>
    simp only [ofBlock, atVersion, ExecuteCommandRequest.ofBlock, ExecuteCommandRequest.atVersion,
      Block.number?_of_le order, BlockField.map_keptAt]
    rw [Block.word_of_le order bytes ExecuteCommandRequest.partitionIdField rfl,
      Block.word_of_le order bytes ExecuteCommandRequest.keyField rfl]
  | executeCommandResponse =>
    simp only [ofBlock, atVersion, ExecuteCommandResponse.ofBlock]
    rw [Block.word_of_le order bytes ExecuteCommandResponse.partitionIdField rfl,
      Block.word_of_le order bytes ExecuteCommandResponse.keyField rfl]
  | subscribedEvent =>
    simp only [ofBlock, atVersion, SubscribedEvent.ofBlock, SubscribedEvent.atVersion,
      Block.number?_of_le order, BlockField.map_keptAt]
    rw [Block.word_of_le order bytes SubscribedEvent.partitionIdField rfl,
      Block.word_of_le order bytes SubscribedEvent.positionField rfl]

/-- Where the block is long enough for the later version, reading at the earlier one comes to the
same body without the newer fields, or to the same fault. -/
theorem read_of_le (order : earlier ≤ later)
    (enough : requiredLength template.fields later ≤ blockLength.toNat) (bytes : Bytes) :
    read template blockLength earlier bytes =
      (read template blockLength later bytes).map (atVersion earlier) := by
  rw [read_eq_bind, read_eq_bind, Block.read_of_le order enough, map_bind_eq]
  cases found : Block.read template.fields blockLength later bytes with
  | error fault => rfl
  | ok parts =>
    obtain ⟨block, rest⟩ := parts
    obtain ⟨-, -, rfl, -⟩ := Block.read_eq_ok_iff.mp found
    cases contents : readData rest with
    | error fault => simp only [Except.map, bind, Except.bind, contents]
    | ok both =>
      simp only [Except.map, bind, Except.bind, contents]
      exact congrArg Except.ok (ofBlock_of_le order template block.bytes both.1)

/-- A body that is read at a version has a block long enough for it. -/
theorem requiredLength_le_of_read {version : UInt16} {body : Body}
    (found : read template blockLength version bytes = .ok body) :
    requiredLength template.fields version ≤ blockLength.toNat := by
  obtain ⟨block, data, trailing, -, -, enough, -, -⟩ := read_eq_ok_iff.mp found
  exact enough

/-- Where the block is announced longer than the bytes, that is the fault at every version. -/
theorem read_of_truncated (short : bytes.length < blockLength.toNat) (version : UInt16) :
    read template blockLength version bytes =
      .error (.blockTruncated blockLength.toNat bytes.length) :=
  read_eq_error_iff_refusal.mpr (.blockTruncated short)

/-- Where the block fits into the bytes but is too short for a version, that is the fault. -/
theorem read_of_tooShort {version : UInt16} (inside : blockLength.toNat ≤ bytes.length)
    (short : blockLength.toNat < requiredLength template.fields version) :
    read template blockLength version bytes =
      .error (.blockTooShort blockLength.toNat (requiredLength template.fields version) version) :=
  read_eq_error_iff_refusal.mpr (.blockTooShort inside short)

/-- How reading a body at an earlier version stands to reading it at a later one. -/
structure ReadEarlier (template : Template) (blockLength earlier later : UInt16) (bytes : Bytes) :
    Prop where
  /-- What is read at the later version is read at the earlier one, without the newer fields. -/
  read : ∀ body, Body.read template blockLength later bytes = .ok body →
    Body.read template blockLength earlier bytes = .ok (body.atVersion earlier)
  /-- A body without the newer fields has the same template and the same payload. Every field that
  is not newer is as it was, and every newer one is absent. -/
  erased : ∀ body : Body, (body.atVersion earlier).template? = body.template? ∧
    (body.atVersion earlier).payload? = body.payload? ∧
    (body.atVersion earlier).written = body.written.map fun place =>
      (place.1, if place.1.since ≤ earlier then place.2 else none)
  /-- Where something is read at the earlier version only, the block is too short for the fields of
  the later one, and that is the fault. -/
  refused : ∀ body fault, Body.read template blockLength earlier bytes = .ok body →
    Body.read template blockLength later bytes = .error fault →
      blockLength.toNat < requiredLength template.fields later ∧
        fault = .blockTooShort blockLength.toNat (requiredLength template.fields later) later
  /-- Bytes with a fault at the earlier version have the same fault at the later one, unless the
  block is too short for the fields of the later one. -/
  faulty : ∀ fault, Body.read template blockLength earlier bytes = .error fault →
    Body.read template blockLength later bytes = .error fault ∨
      Body.read template blockLength later bytes =
        .error (.blockTooShort blockLength.toNat (requiredLength template.fields later) later)
  /-- Of no list of fields does the later version ask less. -/
  required : ∀ fields, requiredLength fields earlier ≤ requiredLength fields later

/-- Reading bodies is monotone in the version. -/
theorem read_earlier (template : Template) (blockLength : UInt16) {earlier later : UInt16}
    (order : earlier ≤ later) (bytes : Bytes) :
    ReadEarlier template blockLength earlier later bytes where
  read body found := by
    rw [read_of_le order (requiredLength_le_of_read found), found]
    rfl
  erased body := by
    refine ⟨template?_atVersion earlier body, payload?_atVersion earlier body, ?_⟩
    rw [written_atVersion]
    simp only [BlockField.keptAt, BlockField.presentAt, decide_eq_true_eq]
  refused body fault found unread := by
    obtain ⟨block, data, trailing, rfl, length, -⟩ := read_eq_ok_iff.mp found
    have inside : blockLength.toNat ≤ (block ++ (writeData data ++ trailing)).length := by
      rw [List.length_append]
      omega
    have short : blockLength.toNat < requiredLength template.fields later := by
      apply Nat.not_le.mp
      intro enough
      rw [read_of_le order enough, unread] at found
      contradiction
    rw [read_of_tooShort inside short] at unread
    exact ⟨short, (Except.error.inj unread).symm⟩
  faulty fault unread := by
    by_cases enough : requiredLength template.fields later ≤ blockLength.toNat
    · left
      rw [read_of_le order enough] at unread
      cases found : Body.read template blockLength later bytes with
      | ok body =>
        rw [found] at unread
        contradiction
      | error other =>
        rw [found] at unread
        exact unread
    · by_cases inside : blockLength.toNat ≤ bytes.length
      · exact .inr (read_of_tooShort inside (Nat.not_le.mp enough))
      · have truncated := Nat.not_le.mp inside
        rw [read_of_truncated truncated] at unread
        exact .inl ((read_of_truncated truncated later).trans unread)
  required := requiredLength_le_of_le order

/-- An event with all fields of version 1 is read at version 0 without them; with a block of version
0 it is read at version 0 only. -/
theorem read_earlier_subscribedEvent :
    let block : Bytes := [2, 0, 100, 0, 0, 0, 0, 0, 0, 0]
    let newer : Bytes := [7, 0, 0, 0, 0, 0, 0, 0, 8, 0, 0, 0, 0, 0, 0, 0, 1, 2]
    let data : Bytes := [1, 0, 0xC0]
    (0 : UInt16) ≤ 1 ∧
      read .subscribedEvent 28 1 (block ++ newer ++ data) =
        .ok (.subscribedEvent ⟨2, 100, some 7, some 8, some 1, some 2, [0xC0]⟩) ∧
      read .subscribedEvent 28 0 (block ++ newer ++ data) =
        .ok (.subscribedEvent ⟨2, 100, none, none, none, none, [0xC0]⟩) ∧
      read .subscribedEvent 10 1 (block ++ data) = .error (.blockTooShort 10 28 1) ∧
      ReadEarlier .subscribedEvent 28 0 1 (block ++ newer ++ data) ∧
      ReadEarlier .subscribedEvent 10 0 1 (block ++ data) :=
  ⟨by decide, rfl, rfl, rfl, read_earlier .subscribedEvent 28 (by decide) _,
    read_earlier .subscribedEvent 10 (by decide) _⟩

end Body

end BrokerWire
