import BrokerWire.Proofs.Body.Exactness

/-!
# Blocks of any fields

For any list of fields, in whatever order and whether they overlap or not, a body is split exactly
where its block is announced no longer than the body itself and every field of the version ends
within the block. The length required of a block is the least one that will do. Every field of the
list is then told from its own place: nothing else in the block has a part in it, and no byte
outside the block is asked for.
-/
namespace BrokerWire

/-- Every field of a version ends within a length. -/
def FieldsEndWithin (fields : List BlockField) (version : UInt16) (length : Nat) : Prop :=
  ∀ field ∈ fields, field.since ≤ version → field.offset + field.size ≤ length

/-- A length is enough exactly when every field of the version ends within it. -/
theorem requiredLength_le_iff_fieldsEndWithin {fields : List BlockField} {version : UInt16}
    {length : Nat} :
    requiredLength fields version ≤ length ↔ FieldsEndWithin fields version length := by
  have present (field : BlockField) : field.presentAt version = true ↔ field.since ≤ version :=
    decide_eq_true_iff
  simp only [requiredLength_le_iff, FieldsEndWithin, present, BlockField.stop]

/-- Every field of a version ends within the length that is required for the version. -/
theorem fieldsEndWithin_requiredLength (fields : List BlockField) (version : UInt16) :
    FieldsEndWithin fields version (requiredLength fields version) :=
  requiredLength_le_iff_fieldsEndWithin.mp (Nat.le_refl _)

namespace Block

variable {fields : List BlockField} {block : Block} {field : BlockField}

/-- A body is split into a block of the announced length and the bytes behind it. -/
def Splits (fields : List BlockField) (version : UInt16) (bytes : Bytes) (length : UInt16) : Prop :=
  ∃ block rest, read fields length version bytes = .ok (block, rest)

/-- A body is split exactly if it is as long as the block is announced, and every field of the
version ends within the block. -/
theorem splits_iff {version length : UInt16} {bytes : Bytes} :
    Splits fields version bytes length ↔
      length.toNat ≤ bytes.length ∧ FieldsEndWithin fields version length.toNat := by
  rw [← requiredLength_le_iff_fieldsEndWithin]
  constructor
  · rintro ⟨block, rest, found⟩
    obtain ⟨rfl, long, -, enough⟩ := read_eq_ok_iff.mp found
    rw [List.length_append, long]
    exact ⟨Nat.le_add_right _ _, enough⟩
  · rintro ⟨inside, enough⟩
    exact ⟨⟨bytes.take length.toNat, version⟩, bytes.drop length.toNat, read_eq_ok_iff.mpr
      ⟨(List.take_append_drop ..).symm, List.length_take_of_le inside, rfl, enough⟩⟩

/-- The block is the front of the body, as long as announced, and the rest is what follows. -/
theorem eq_take_of_read {version length : UInt16} {bytes rest : Bytes}
    (found : read fields length version bytes = .ok (block, rest)) :
    block = ⟨bytes.take length.toNat, version⟩ ∧ rest = bytes.drop length.toNat := by
  obtain ⟨rfl, long, rfl, -⟩ := read_eq_ok_iff.mp found
  rw [← long, List.take_left, List.drop_left]
  exact ⟨rfl, rfl⟩

/-- The number whose digits stand at the place of a field, least first, if it is present. -/
def stored? (block : Block) (field : BlockField) : Option Nat :=
  (block.slice? field).map Word.ofLittle

/-- In a block that holds a field, its number is the one stored at its place. -/
theorem number?_eq_stored? (holds : block.Holds fields) (listed : field ∈ fields) :
    block.number? field = block.stored? field := by
  obtain ⟨digits, fits⟩ := slice?_of_holds holds listed
  rw [stored?, digits, Option.map_map]
  cases found : block.number? field with
  | none => rfl
  | some number => exact congrArg some (Word.ofLittle_little (fits number found)).symm

/-- Words that are made of the number of a field are the number stored at its place, if they keep
every number of the field's width. -/
theorem map_toNat_eq_stored? {α : Type} {make : Nat → α} {toNat : α → Nat} {width : Nat}
    (holds : block.Holds fields) (listed : field ∈ fields) (wide : field.size = width)
    (kept : ∀ number < Word.limit width, toNat (make number) = number) :
    ((block.number? field).map make).map toNat = block.stored? field := by
  obtain ⟨-, fits⟩ := slice?_of_holds holds listed
  rw [← number?_eq_stored? holds listed, Option.map_map]
  cases found : block.number? field with
  | none => rfl
  | some number => exact congrArg some (kept number (wide ▸ fits number found))

/-- A field is told from its own place in a block. -/
structure Tells (block : Block) (field : BlockField) : Prop where
  /-- If the field is present, it stands in the block as a whole. -/
  inside : field.since ≤ block.version → field.offset + field.size ≤ block.bytes.length
  /-- It is told exactly at the versions that have it. -/
  isSome_iff : (block.stored? field).isSome = true ↔ field.since ≤ block.version
  /-- Its number is the one stored at its place, whatever its size. -/
  number? : block.number? field = block.stored? field
  /-- A field of one byte is fetched with that number, and no place outside is named. -/
  byte : field.size = 1 → ∃ found, block.fetch8 (ε := BodyFault) field = .ok found ∧
    found.map UInt8.toNat = block.stored? field
  /-- So is a field of two bytes. -/
  word16 : field.size = 2 → ∃ found, block.fetch16 (ε := BodyFault) field = .ok found ∧
    found.map UInt16.toNat = block.stored? field
  /-- So is a field of eight bytes. -/
  word64 : field.size = 8 → ∃ found, block.fetch64 (ε := BodyFault) field = .ok found ∧
    found.map UInt64.toNat = block.stored? field

/-- A block that holds fields tells each of them. -/
theorem tells_of_holds (holds : block.Holds fields) (listed : field ∈ fields) :
    block.Tells field where
  inside := requiredLength_le_iff_fieldsEndWithin.mp holds field listed
  isSome_iff := by
    rw [stored?, Option.isSome_map, slice?, BlockField.presentAt]
    by_cases present : field.since ≤ block.version <;> simp [present]
  number? := number?_eq_stored? holds listed
  byte wide := by
    have kept : ∀ number < Word.limit 1, (UInt8.ofNat number).toNat = number :=
      fun _ => UInt8.toNat_ofNat_of_lt'
    exact ⟨_, fetch8_of_mem holds listed wide, map_toNat_eq_stored? holds listed wide kept⟩
  word16 wide := by
    have kept : ∀ number < Word.limit 2, (UInt16.ofNat number).toNat = number :=
      fun _ => UInt16.toNat_ofNat_of_lt'
    exact ⟨_, fetch16_of_mem holds listed wide, map_toNat_eq_stored? holds listed wide kept⟩
  word64 wide := by
    have kept : ∀ number < Word.limit 8, (UInt64.ofNat number).toNat = number :=
      fun _ => UInt64.toNat_ofNat_of_lt'
    exact ⟨_, fetch64_of_mem holds listed wide, map_toNat_eq_stored? holds listed wide kept⟩

/-- A body is split exactly as its fields and the announced length of its block have it. -/
structure SplitsExactly (fields : List BlockField) (version : UInt16) (bytes : Bytes) : Prop where
  /-- It is split exactly if it is as long as the block is announced, and every field of the version
  ends within the block. -/
  splits_iff : ∀ length, Splits fields version bytes length ↔
    length.toNat ≤ bytes.length ∧ FieldsEndWithin fields version length.toNat
  /-- The block is the front of the body, as long as announced, and the rest is what follows. -/
  parts : ∀ length block rest, read fields length version bytes = .ok (block, rest) →
    block = ⟨bytes.take length.toNat, version⟩ ∧ rest = bytes.drop length.toNat
  /-- By position it is split, or refused, in the same way, and no place outside is named. -/
  fetch_eq : ∀ length, fetch fields length version bytes =
    Access.within (read fields length version bytes)
  /-- Every field of the list is then told from its own place in the block. -/
  tells : ∀ length block rest, read fields length version bytes = .ok (block, rest) →
    ∀ field ∈ fields, block.Tells field
  /-- Every field of the version ends within the required length. -/
  enough : FieldsEndWithin fields version (requiredLength fields version)
  /-- No shorter length will do. -/
  least : ∀ length, FieldsEndWithin fields version length → requiredLength fields version ≤ length
  /-- So a block of the required length is split off, if the body is long enough for it, and no
  shorter one. -/
  shortest : ∀ length : UInt16, length.toNat = requiredLength fields version →
    length.toNat ≤ bytes.length → Splits fields version bytes length ∧
      ∀ other, Splits fields version bytes other → length ≤ other

/-- A body is split exactly as its fields and the announced length of its block have it, whatever
the fields are. -/
theorem splitsExactly (fields : List BlockField) (version : UInt16) (bytes : Bytes) :
    SplitsExactly fields version bytes where
  splits_iff _ := splits_iff
  parts _ _ _ := eq_take_of_read
  fetch_eq length := Block.fetch_eq fields length version bytes
  tells _ _ _ found _ := tells_of_holds (holds_of_read found)
  enough := fieldsEndWithin_requiredLength fields version
  least _ := requiredLength_le_iff_fieldsEndWithin.mpr
  shortest length required inside := by
    constructor
    · rw [splits_iff, required]
      exact ⟨required ▸ inside, fieldsEndWithin_requiredLength fields version⟩
    · intro other splits
      rw [UInt16.le_iff_toNat_le, required]
      exact requiredLength_le_iff_fieldsEndWithin.mpr (splits_iff.mp splits).2

/-- Fields may overlap, and stand in any order; one that a later version brought asks for no room
before. -/
example : read [⟨4, 8, 1⟩, ⟨1, 1, 0⟩, ⟨0, 2, 0⟩] 2 0 [7, 8, 9] = .ok (⟨[7, 8], 0⟩, [9]) := rfl

end Block

end BrokerWire
