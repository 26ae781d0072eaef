import BrokerWire.Body.Layout

/-!
# Blocks written field by field

A block that holds exactly the fields of its version, each directly behind the one before, is read
whatever stands behind them: it is long enough, every field in it has the number written there, and
no other field is present.
-/
namespace BrokerWire

/-- A field of the first version is present at every version. -/
theorem BlockField.presentAt_of_first {field : BlockField} (first : field.since = 0)
    (version : UInt16) : field.presentAt version = true := by
  unfold BlockField.presentAt
  rw [first]
  exact decide_eq_true (UInt16.zero_le)

/-- A length suffices for a version exactly when every field of the version ends within it. -/
theorem requiredLength_le_iff {fields : List BlockField} {version : UInt16} {length : Nat} :
    requiredLength fields version ≤ length ↔
      ∀ field ∈ fields, field.presentAt version = true → field.stop ≤ length := by
  unfold requiredLength
  induction fields with
  | nil => simp
  | cons field fields ih =>
    by_cases present : field.presentAt version = true
    · simp only [List.filter_cons, present, ↓reduceIte, List.map_cons, List.foldr_cons,
        Nat.max_le, ih, List.forall_mem_cons, forall_const]
    · simp only [List.filter_cons, present, Bool.false_eq_true, ↓reduceIte, ih,
        List.forall_mem_cons, false_implies, true_and]

/-- A field with the number that stands in it. -/
structure FilledField where
  /-- The field. -/
  field : BlockField
  /-- The number in it. -/
  number : Nat

namespace FilledField

/-- The bytes of a field. -/
def write (filled : FilledField) : Bytes := Word.little filled.field.size filled.number

/-- A field that may be absent. -/
def optional (field : BlockField) (number : Option Nat) : List FilledField :=
  number.toList.map fun present => ⟨field, present⟩

/-- A field that is there has its number. -/
@[simp] theorem mem_optional {field : BlockField} {number : Option Nat} {one : FilledField} :
    one ∈ optional field number ↔ number = some one.number ∧ one.field = field := by
  obtain ⟨other, present⟩ := one
  cases number with
  | none => simp [optional]
  | some present => simp [optional, and_comm, eq_comm]

/-- Fields stand one directly behind the other from a place on, and their numbers fit. -/
def Adjacent : Nat → List FilledField → Prop
  | _, [] => True
  | start, filled :: others =>
    filled.field.offset = start ∧ filled.number < Word.limit filled.field.size ∧
      Adjacent filled.field.stop others

/-- The number of a field is read from the field's place. -/
theorem numberAt?_of_adjacent (before after : Bytes) {version : UInt16}
    {fields : List FilledField} (adjacent : Adjacent before.length fields) :
    ∀ filled ∈ fields,
      (⟨before ++ (fields.flatMap write ++ after), version⟩ : Block).numberAt?
        filled.field.offset filled.field.size = some filled.number := by
  induction fields generalizing before with
  | nil => simp
  | cons first others ih =>
    obtain ⟨place, fits, behind⟩ := adjacent
    rw [List.forall_mem_cons]
    constructor
    · rw [List.flatMap_cons, List.append_assoc, place]
      exact Block.numberAt?_append fits
    · intro filled member
      have length : (before ++ first.write).length = first.field.stop := by
        simp [write, BlockField.stop, place]
      have inside := ih (before ++ first.write) (length.symm ▸ behind) filled member
      rw [List.append_assoc] at inside
      rw [List.flatMap_cons, List.append_assoc]
      exact inside

/-- Every field ends within the bytes of all of them. -/
theorem stop_le_of_adjacent {start : Nat} {fields : List FilledField}
    (adjacent : Adjacent start fields) :
    ∀ filled ∈ fields, filled.field.stop ≤ start + (fields.flatMap write).length := by
  induction fields generalizing start with
  | nil => simp
  | cons first others ih =>
    obtain ⟨place, -, behind⟩ := adjacent
    have inside := ih behind
    rw [List.forall_mem_cons]
    simp only [List.flatMap_cons, List.length_append, write, Word.length_little] at inside ⊢
    unfold BlockField.stop at inside ⊢
    constructor
    · omega
    · intro filled member
      have within := inside filled member
      omega

end FilledField

/-- Fields are filled exactly as a version has them, one directly behind the other. -/
structure FillsBlock (fields : List BlockField) (version : UInt16) (filled : List FilledField) :
    Prop where
  /-- The first field stands at the front, and each other one behind the one before. -/
  adjacent : FilledField.Adjacent 0 filled
  /-- The fields of the version are filled, in order. -/
  present : filled.map FilledField.field = fields.filter (·.presentAt version)

namespace FillsBlock

variable {fields : List BlockField} {version : UInt16} {filled : List FilledField}

/-- The fields of the version end within what is written. -/
theorem requiredLength_le (fills : FillsBlock fields version filled) :
    requiredLength fields version ≤ (filled.flatMap FilledField.write).length := by
  rw [requiredLength_le_iff]
  intro field member present
  have among : field ∈ filled.map FilledField.field := by
    rw [fills.present]
    exact List.mem_filter.mpr ⟨member, present⟩
  obtain ⟨one, inside, rfl⟩ := List.mem_map.mp among
  have within := FilledField.stop_le_of_adjacent fills.adjacent one inside
  omega

/-- The block is taken from in front of any bytes. -/
theorem read (fills : FillsBlock fields version filled) (extension rest : Bytes)
    (fits : (filled.flatMap FilledField.write ++ extension).length < Word.limit 2) :
    Block.read fields
        (UInt16.ofNat (filled.flatMap FilledField.write ++ extension).length) version
        (filled.flatMap FilledField.write ++ extension ++ rest) =
      .ok (⟨filled.flatMap FilledField.write ++ extension, version⟩, rest) := by
  apply Block.read_append fits
  have required := fills.requiredLength_le
  rw [List.length_append]
  omega

/-- A field that is filled has its number. -/
theorem number? (fills : FillsBlock fields version filled) (extension : Bytes) (field : BlockField)
    (number : Nat) (member : ⟨field, number⟩ ∈ filled) :
    (⟨filled.flatMap FilledField.write ++ extension, version⟩ : Block).number? field =
      some number := by
  have among : field ∈ filled.map FilledField.field := List.mem_map_of_mem member
  rw [fills.present] at among
  have present := (List.mem_filter.mp among).2
  unfold Block.number?
  rw [if_pos present]
  exact FilledField.numberAt?_of_adjacent [] extension fills.adjacent ⟨field, number⟩ member

/-- A field that only some versions have is filled in those, and absent in the others. -/
theorem number?_of_optional (fills : FillsBlock fields version filled) (extension : Bytes)
    (field : BlockField) (number : Option Nat)
    (complete : number.isSome = field.presentAt version)
    (member : ∀ present, number = some present → ⟨field, present⟩ ∈ filled) :
    (⟨filled.flatMap FilledField.write ++ extension, version⟩ : Block).number? field = number := by
  cases number with
  | none =>
    have absent : field.presentAt version = false := complete.symm
    unfold Block.number?
    rw [if_neg (by rw [absent]; exact Bool.false_ne_true)]
  | some present => exact fills.number? extension field present (member present rfl)

end FillsBlock

end BrokerWire
