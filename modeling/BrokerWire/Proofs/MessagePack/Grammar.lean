import BrokerWire.MessagePack.Writer
import BrokerWire.Proofs.Value.Entries

/-!
# The grammar of documents

A document is written in one of the formats that can hold it, not necessarily the shortest. The
grammar tells, without any reader, which bytes are a document, which value they denote, and how
many arrays and maps stand one inside the other. Extensions and the reserved marker are in no
document, and a name is text under a text format or a binary one.
-/
namespace BrokerWire

/-- An integer as a value, under the constructor of its sign. -/
def Value.ofInteger (number : Int) : Value :=
  if 0 ≤ number then .uint (UInt64.ofNat number.toNat) else .int (Int64.ofInt number)

namespace MessagePack

/-- The formats of integers. -/
inductive IntegerFormat where
  /-- One byte, for the first 128 integers that are not negative. -/
  | positive
  /-- One byte, for the first 32 negative integers. -/
  | negative
  /-- A marker and a word. -/
  | unsigned (width : IntegerWidth)
  /-- A marker and a word in two's complement. -/
  | signed (width : IntegerWidth)
  deriving DecidableEq, Repr

/-- The integers that a format can hold. -/
def IntegerFormat.Holds : IntegerFormat → Int → Prop
  | positive, number => 0 ≤ number ∧ number < 128
  | negative, number => -32 ≤ number ∧ number < 0
  | unsigned width, number => 0 ≤ number ∧ number < Word.limit width.bytes
  | signed width, number =>
    -(Word.limit width.bytes : Int) ≤ 2 * number ∧ 2 * number < Word.limit width.bytes

/-- An integer in a format. -/
def IntegerFormat.write : IntegerFormat → Int → Bytes
  | positive, number => [UInt8.ofNat number.toNat]
  | negative, number => [UInt8.ofNat (0xE0 + (number + 32).toNat)]
  | unsigned width, number => writeNumber (.unsigned width) width.bytes number.toNat
  | signed width, number =>
    writeNumber (.signed width) width.bytes (number % Word.limit width.bytes).toNat

/-- The formats of text. -/
inductive TextFormat where
  /-- The length is part of the marker. -/
  | short
  /-- The length stands behind the marker. -/
  | sized (width : LengthWidth)
  deriving DecidableEq, Repr

/-- The lengths that a text format can hold. -/
def TextFormat.Holds : TextFormat → Nat → Prop
  | short, length => length < 32
  | sized width, length => length < Word.limit width.bytes

/-- The head of a text of a given length. -/
def TextFormat.head : TextFormat → Nat → Bytes
  | short, length => [UInt8.ofNat (0xA0 + length)]
  | sized width, length => writeNumber (.text width) width.bytes length

/-- The head of bytes of a given length. -/
def binaryHead (width : LengthWidth) (length : Nat) : Bytes :=
  writeNumber (.binary width) width.bytes length

/-- The formats of arrays and maps. -/
inductive CountFormat where
  /-- The count is part of the marker. -/
  | few
  /-- The count stands behind the marker. -/
  | sized (width : CountWidth)
  deriving DecidableEq, Repr

/-- The counts that a format can hold. -/
def CountFormat.Holds : CountFormat → Nat → Prop
  | few, count => count < 16
  | sized width, count => count < Word.limit width.bytes

/-- The head of an array of a given count of items. -/
def CountFormat.arrayHead : CountFormat → Nat → Bytes
  | few, count => [UInt8.ofNat (0x90 + count)]
  | sized width, count => writeNumber (.array width) width.bytes count

/-- The head of a map of a given count of entries. -/
def CountFormat.mapHead : CountFormat → Nat → Bytes
  | few, count => [UInt8.ofNat (0x80 + count)]
  | sized width, count => writeNumber (.map width) width.bytes count

/-- Documents without contents, and the values that they denote. -/
inductive DenotesScalar : Bytes → Value → Prop where
  /-- Absence. -/
  | nil : DenotesScalar [Marker.nil.toByte] .nil
  /-- A truth value. -/
  | bool (flag : Bool) : DenotesScalar [(Marker.bool flag).toByte] (.bool flag)
  /-- An integer, in any format that can hold it. -/
  | integer (format : IntegerFormat) (number : Int) (holds : format.Holds number) :
      DenotesScalar (format.write number) (.ofInteger number)
  /-- A floating number of 32 bits, widened. -/
  | float32 (bits : UInt32) :
      DenotesScalar (writeNumber .float32 4 bits.toNat) (.float (.ofBinary32 bits))
  /-- A floating number of 64 bits. -/
  | float64 (bits : UInt64) : DenotesScalar (writeNumber .float64 8 bits.toNat) (.float ⟨bits⟩)

/-- Documents that are names: text under a text format or a binary one. -/
inductive DenotesName : Bytes → String → Prop where
  /-- A name under a text format. -/
  | text (format : TextFormat) (name : String)
      (holds : format.Holds (Utf8.encode name).length) :
      DenotesName (format.head (Utf8.encode name).length ++ Utf8.encode name) name
  /-- A name under a binary format. -/
  | binary (width : LengthWidth) (name : String)
      (holds : (Utf8.encode name).length < Word.limit width.bytes) :
      DenotesName (binaryHead width (Utf8.encode name).length ++ Utf8.encode name) name

/-- A document inside another one. -/
structure Part where
  /-- Its bytes. -/
  bytes : Bytes
  /-- The value that it denotes. -/
  value : Value
  /-- How many arrays and maps stand one inside the other in it. -/
  depth : Nat

/-- An entry of a map. -/
structure NamedPart extends Part where
  /-- The bytes of its name. -/
  naming : Bytes
  /-- Its name. -/
  name : String

/-- The greatest depth of a part. -/
def deepest : List Part → Nat
  | [] => 0
  | part :: parts => max part.depth (deepest parts)

/-- The bytes are one document, it denotes the value, and that many arrays and maps stand one
inside the other in it. -/
inductive Denotes : Bytes → Value → Nat → Prop where
  /-- A document without contents. -/
  | scalar {bytes : Bytes} {value : Value} (denotes : DenotesScalar bytes value) :
      Denotes bytes value 0
  /-- A text. -/
  | text (format : TextFormat) (written : String)
      (holds : format.Holds (Utf8.encode written).length) :
      Denotes (format.head (Utf8.encode written).length ++ Utf8.encode written) (.text written) 0
  /-- Contents of a text format that no text is written in are kept as bytes. -/
  | notText (format : TextFormat) (contents : Bytes) (holds : format.Holds contents.length)
      (unwritten : ∀ written, contents ≠ Utf8.encode written) :
      Denotes (format.head contents.length ++ contents) (.binary contents) 0
  /-- Bytes. -/
  | binary (width : LengthWidth) (contents : Bytes)
      (holds : contents.length < Word.limit width.bytes) :
      Denotes (binaryHead width contents.length ++ contents) (.binary contents) 0
  /-- An array of documents. -/
  | array (format : CountFormat) (items : List Part) (holds : format.Holds items.length)
      (each : ∀ item ∈ items, Denotes item.bytes item.value item.depth) :
      Denotes (format.arrayHead items.length ++ items.flatMap Part.bytes)
        (.array (items.map Part.value)) (deepest items + 1)
  /-- A map of documents under names. The last value of a name stands at the name's first
  occurrence. -/
  | map (format : CountFormat) (entries : List NamedPart) (holds : format.Holds entries.length)
      (named : ∀ entry ∈ entries, DenotesName entry.naming entry.name)
      (each : ∀ entry ∈ entries, Denotes entry.bytes entry.value entry.depth) :
      Denotes (format.mapHead entries.length ++
          entries.flatMap fun entry => entry.naming ++ entry.bytes)
        (.map (Entries.merge (entries.map fun entry => (entry.name, entry.value))))
        (deepest (entries.map NamedPart.toPart) + 1)

/-- Parts nest within a depth exactly when each of them does. -/
theorem deepest_le_iff {parts : List Part} {levels : Nat} :
    deepest parts ≤ levels ↔ ∀ part ∈ parts, part.depth ≤ levels := by
  induction parts with
  | nil => simp [deepest]
  | cons part parts ih => rw [deepest, Nat.max_le, ih, List.forall_mem_cons]

end MessagePack

end BrokerWire
