import BrokerWire.MessagePack.Fault
import BrokerWire.Word

/-!
# Heads of MessagePack objects

The head of an object is its marker together with the number or the length behind it. A scalar is
its head; text and bytes have contents after it; arrays, maps and extensions hold further objects
and count towards the nesting limit.
-/
namespace BrokerWire.MessagePack

/-- An object without contents. -/
inductive Scalar where
  /-- Absence. -/
  | nil
  /-- A truth value. -/
  | bool (flag : Bool)
  /-- An integer of an unsigned format. -/
  | unsigned (number : UInt64)
  /-- An integer of a signed format. -/
  | signed (number : Int64)
  /-- A floating number. -/
  | float (number : Binary64)
  deriving DecidableEq, Repr

/-- What a scalar is called where something else was expected. -/
def Scalar.found : Scalar → Found
  | nil => .unit
  | bool flag => .bool flag
  | unsigned number => .integer number.toNat
  | signed number => .integer number.toInt
  | float number => .float number

/-- The objects that hold further objects. -/
inductive Container where
  /-- Items in order. -/
  | array
  /-- Pairs of a name and an item. -/
  | map
  /-- A type number and data. -/
  | extension
  deriving DecidableEq, Repr

/-- What a container is called where something else was expected. -/
def Container.found : Container → Found
  | array => .sequence
  | map => .map
  | extension => .wrapped

/-- A marker with the number or length behind it. -/
inductive Head where
  /-- An object without contents. -/
  | scalar (scalar : Scalar)
  /-- Text of that many bytes. -/
  | text (length : Nat)
  /-- That many bytes. -/
  | binary (length : Nat)
  /-- An array of that many items, a map of that many pairs, or extension data of that many
  bytes. -/
  | container (kind : Container) (count : Nat)
  deriving DecidableEq, Repr

/-- Take a marker. -/
def readMarker : Bytes → Outcome (Marker × Bytes)
  | [] => .error .markerMissing
  | byte :: rest => .ok (Marker.ofByte byte, rest)

/-- Take a number of a given width. -/
def readNumber (width : Nat) (bytes : Bytes) : Outcome (Nat × Bytes) :=
  match Word.readBig width bytes with
  | some read => .ok read
  | none => .error .numberMissing

/-- Take the contents of a text or of bytes. -/
def readContents (length : Nat) (bytes : Bytes) : Outcome (Bytes × Bytes) :=
  match Bytes.split? length bytes with
  | some parts => .ok parts
  | none => .error .contentsMissing

/-- The integer that a word of that many bytes stands for, its greatest bit counting
negatively. -/
def signedOf (width number : Nat) : Int :=
  if 2 * number < Word.limit width then number else (number : Int) - Word.limit width

namespace Marker

/-- Take the scalar that a marker announces. Any other marker is refused before anything behind it
is read. -/
def readScalar (marker : Marker) (rest : Bytes) : Outcome (Scalar × Bytes) :=
  match marker with
  | positive number => .ok (.unsigned (UInt64.ofNat number), rest)
  | negative above => .ok (.signed (Int64.ofInt ((above.val : Int) - 32)), rest)
  | nil => .ok (.nil, rest)
  | bool flag => .ok (.bool flag, rest)
  | unsigned width => do
    let (number, rest) ← readNumber width.bytes rest
    return (.unsigned (UInt64.ofNat number), rest)
  | signed width => do
    let (number, rest) ← readNumber width.bytes rest
    return (.signed (Int64.ofInt (signedOf width.bytes number)), rest)
  | float32 => do
    let (bits, rest) ← readNumber 4 rest
    return (.float (Binary64.ofBinary32 (UInt32.ofNat bits)), rest)
  | float64 => do
    let (bits, rest) ← readNumber 8 rest
    return (.float ⟨UInt64.ofNat bits⟩, rest)
  | other => .error (.unexpectedMarker other)

/-- Take what a marker announces behind itself. -/
def readHead (marker : Marker) (rest : Bytes) : Outcome (Head × Bytes) :=
  match marker with
  | fixMap count => .ok (.container .map count, rest)
  | fixArray count => .ok (.container .array count, rest)
  | fixText length => .ok (.text length, rest)
  | fixExtension length => .ok (.container .extension length.bytes, rest)
  | text width => do
    let (length, rest) ← readNumber width.bytes rest
    return (.text length, rest)
  | binary width => do
    let (length, rest) ← readNumber width.bytes rest
    return (.binary length, rest)
  | array width => do
    let (count, rest) ← readNumber width.bytes rest
    return (.container .array count, rest)
  | map width => do
    let (count, rest) ← readNumber width.bytes rest
    return (.container .map count, rest)
  | extension width => do
    let (length, rest) ← readNumber width.bytes rest
    return (.container .extension length, rest)
  | other => do
    let (scalar, rest) ← other.readScalar rest
    return (.scalar scalar, rest)

end Marker

/-- Take the head of an object. -/
def readHead (bytes : Bytes) : Outcome (Head × Bytes) := do
  let (marker, rest) ← readMarker bytes
  marker.readHead rest

end BrokerWire.MessagePack
