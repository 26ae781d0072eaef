import BrokerWire.MessagePack.Document

/-!
# Documents read as known types

A caller that knows the shape of a document reads it without going through a value. A target says
how a type is read: from a scalar that stands on its own, and from the front of a document, where
it may enter a number of further levels. Wherever a sequence is asked for, bytes stand for the
sequence of their numbers.
-/
namespace BrokerWire.MessagePack

/-- How a type is read. -/
structure Target (α : Type) where
  /-- The result for a scalar. -/
  ofScalar : Scalar → Except Mismatch α
  /-- Take the result from the front, entering at most that many levels. -/
  read : Nat → Bytes → Outcome (α × Bytes)

/-- A mismatch inside a document is a fault of the document. -/
def Outcome.ofMismatch {α : Type} : Except Mismatch α → Outcome α
  | .ok result => .ok result
  | .error reason => .error (.mismatch reason)

/-- Refuse an object of another kind. Text is refused as text only if it is text, and a container
only where it may be entered. -/
def refuse {α : Type} (levels : Nat) (expected : String) (head : Head) (rest : Bytes) :
    Outcome α :=
  match head with
  | .scalar scalar => .error (.wrongKind scalar.found expected)
  | .text length => do
    let (contents, _) ← readContents length rest
    match Utf8.decode contents with
    | .ok written => .error (.wrongKind (.text written) expected)
    | .error fault => .error (.notText fault)
  | .binary length => do
    let _ ← readContents length rest
    .error (.wrongKind .bytes expected)
  | .container kind _ =>
    if levels = 0 then .error .tooDeep else .error (.wrongKind kind.found expected)

namespace Target

/-- A type read from scalars only. -/
def scalar {α : Type} (ofScalar : Scalar → Except Mismatch α) : Target α where
  ofScalar := ofScalar
  read _ bytes := do
    let (marker, rest) ← readMarker bytes
    let (scalar, rest) ← marker.readScalar rest
    let result ← Outcome.ofMismatch (ofScalar scalar)
    return (result, rest)

/-- A truth value. -/
def bool : Target Bool :=
  scalar fun
    | .bool flag => .ok flag
    | other => .error (.wrongKind other.found "a boolean")

/-- An integer of a range, in any integer format. -/
def integer (expected : String) (least greatest : Int) : Target Int :=
  scalar fun
    | .unsigned number => inRange number.toNat
    | .signed number => inRange number.toInt
    | other => .error (.wrongKind other.found expected)
where
  /-- Admit an integer of the range. -/
  inRange (number : Int) : Except Mismatch Int :=
    if least ≤ number ∧ number ≤ greatest then .ok number
    else .error (.wrongValue (.integer number) expected)

/-- An unsigned integer of that many bits. -/
def unsigned (bits : Nat) : Target Int :=
  let count : Nat := 1 <<< bits
  integer s!"u{bits}" 0 (count - 1)

/-- A signed integer of that many bits. -/
def signed (bits : Nat) : Target Int :=
  let half : Nat := 1 <<< (bits - 1)
  integer s!"i{bits}" (-half) (half - 1)

/-- A floating number; an integer stands for the nearest one. -/
def float : Target Binary64 :=
  scalar fun
    | .float number => .ok number
    | .unsigned number => .ok (Binary64.ofInt number.toNat)
    | .signed number => .ok (Binary64.ofInt number.toInt)
    | other => .error (.wrongKind other.found "f64")

/-- A text. -/
def text : Target String where
  ofScalar scalar := .error (.wrongKind scalar.found Entries.expectedName)
  read := readText

/-- A value of any shape. -/
def value : Target Value where
  ofScalar scalar := .ok scalar.value
  read := readValue

/-- A result that may be absent. -/
def optional {α : Type} (target : Target α) : Target (Option α) where
  ofScalar
    | .nil => .ok none
    | other => (target.ofScalar other).map some
  read levels bytes := do
    let (marker, rest) ← readMarker bytes
    if marker = .nil then return (none, rest)
    else
      let (result, rest) ← target.read levels bytes
      return (some result, rest)

/-- What a sequence is called in a message. -/
def expectedSequence : String := "a sequence"

/-- Results in order. -/
def list {α : Type} (target : Target α) : Target (List α) where
  ofScalar scalar := .error (.wrongKind scalar.found expectedSequence)
  read levels bytes := do
    let (head, rest) ← readHead bytes
    match head, levels with
    | .container .array count, inner + 1 => readMany (target.read inner) count rest
    | .binary length, _ =>
      let (contents, rest) ← readContents length rest
      let results ← contents.mapM fun byte =>
        Outcome.ofMismatch (target.ofScalar (.unsigned byte.toUInt64))
      return (results, rest)
    | _, _ => refuse levels expectedSequence head rest

/-- What a map is called in a message. -/
def expectedMap : String := "a map"

/-- Results under names; the last one under a name counts. -/
def entries {α : Type} (target : Target α) : Target (List (String × α)) where
  ofScalar scalar := .error (.wrongKind scalar.found expectedMap)
  read levels bytes := do
    let (head, rest) ← readHead bytes
    match head, levels with
    | .container .map count, inner + 1 =>
      let (pairs, rest) ← readMany (readEntry inner (target.read inner)) count rest
      return (Entries.collect pairs, rest)
    | _, _ => refuse levels expectedMap head rest

end Target

/-- The result for a whole document. -/
def decode {α : Type} (target : Target α) (bytes : Bytes) : Outcome α :=
  readWhole (target.read nestingLimit) bytes

/-- The value of a document is what the target of values reads from it. -/
theorem decode_value : decode Target.value = decodeValue := rfl

end BrokerWire.MessagePack
