import BrokerWire.Word

/-!
# Layout of message bodies

A body is a fixed block followed by data of variable length. The block's length is announced, and
every field stands at a place of its own in it. Fields were added over time: a field is present
from the version on that introduced it, and a block may be longer than the fields known here,
whatever stands in the excess. Bytes after the data are left alone.
-/
namespace BrokerWire

/-- The place of a field in a block. -/
structure BlockField where
  /-- Where the field begins. -/
  offset : Nat
  /-- How many bytes it takes. -/
  size : Nat
  /-- The version that introduced it. -/
  since : UInt16
  deriving DecidableEq, Repr

namespace BlockField

/-- Where the bytes after the field begin. -/
def stop (field : BlockField) : Nat := field.offset + field.size

/-- The field is present at a version. -/
def presentAt (field : BlockField) (version : UInt16) : Bool := field.since ≤ version

end BlockField

/-- The least length of a block that holds every field present at a version. -/
def requiredLength (fields : List BlockField) (version : UInt16) : Nat :=
  ((fields.filter (·.presentAt version)).map BlockField.stop).foldr max 0

/-- Why a body cannot be read. -/
inductive BodyFault where
  /-- The block is announced longer than the body. -/
  | blockTruncated (declared available : Nat)
  /-- The block is announced too short for the fields of its version. -/
  | blockTooShort (declared required : Nat) (version : UInt16)
  /-- The data or their length are announced longer than what follows. -/
  | dataTruncated (declared available : Nat)
  deriving DecidableEq, Repr

/-- The wording of a fault. -/
def BodyFault.message : BodyFault → String
  | blockTruncated declared available =>
    s!"block length {declared} exceeds {available} available bytes"
  | blockTooShort declared required version =>
    s!"block length {declared} is smaller than {required} bytes required by version {version}"
  | dataTruncated declared available =>
    s!"variable data needs {declared} bytes, {available} available"

/-- A block of a version. -/
structure Block where
  /-- The bytes of the block. -/
  bytes : Bytes
  /-- The version that decides which fields are present. -/
  version : UInt16
  deriving DecidableEq, Repr

namespace Block

/-- Take a block of the announced length, which must hold every field of its version. -/
def read (fields : List BlockField) (length version : UInt16) (body : Bytes) :
    Except BodyFault (Block × Bytes) :=
  match Bytes.split? length.toNat body with
  | none => .error (.blockTruncated length.toNat body.length)
  | some (bytes, rest) =>
    if length.toNat < requiredLength fields version then
      .error (.blockTooShort length.toNat (requiredLength fields version) version)
    else .ok (⟨bytes, version⟩, rest)

/-- The number at a place in the block, unless the place runs past its end. -/
def numberAt? (block : Block) (offset size : Nat) : Option Nat :=
  (Word.readLittle size (block.bytes.drop offset)).map Prod.fst

/-- The number of a field, if it is present. -/
def number? (block : Block) (field : BlockField) : Option Nat :=
  if field.presentAt block.version then block.numberAt? field.offset field.size else none

/-- A block long enough for its fields is taken from in front of any bytes. -/
theorem read_append {fields : List BlockField} {bytes : Bytes} {version : UInt16}
    (fits : bytes.length < Word.limit 2) (holds : requiredLength fields version ≤ bytes.length)
    (rest : Bytes) :
    read fields (UInt16.ofNat bytes.length) version (bytes ++ rest) =
      .ok (⟨bytes, version⟩, rest) := by
  have length : (UInt16.ofNat bytes.length).toNat = bytes.length :=
    UInt16.toNat_ofNat_of_lt' fits
  simp only [read, length, Bytes.split?_append]
  rw [if_neg (Nat.not_lt.mpr holds)]

/-- The number written at a place of the block is read from there. -/
theorem numberAt?_append {before after : Bytes} {size number : Nat} {version : UInt16}
    (fits : number < Word.limit size) :
    (⟨before ++ (Word.little size number ++ after), version⟩ : Block).numberAt? before.length size =
      some number := by
  simp [numberAt?, Word.readLittle_little fits]

end Block

/-- The size of the length in front of data. -/
def dataLengthSize : Nat := 2

/-- Take data after their length. -/
def readData (bytes : Bytes) : Except BodyFault (Bytes × Bytes) :=
  match Word.readLittle dataLengthSize bytes with
  | none => .error (.dataTruncated dataLengthSize bytes.length)
  | some (length, rest) =>
    match Bytes.split? length rest with
    | none => .error (.dataTruncated length rest.length)
    | some parts => .ok parts

/-- Data after their length. -/
def writeData (data : Bytes) : Bytes := Word.little dataLengthSize data.length ++ data

/-- Data whose length fits in front of them are read back from in front of any bytes. -/
theorem readData_writeData {data : Bytes} (fits : data.length < Word.limit dataLengthSize)
    (rest : Bytes) : readData (writeData data ++ rest) = .ok (data, rest) := by
  simp [readData, writeData, Word.readLittle_little fits, Bytes.split?_append]

end BrokerWire
