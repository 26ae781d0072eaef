import BrokerWire.MessagePack.Head
import BrokerWire.Value.Event

/-!
# MessagePack documents as values

A document is one object with nothing after it. Arrays, maps and extensions may stand one inside
the other up to a limit; the reader carries how many more levels it may enter, so it ends on every
input, and it stops at the first fault. A text that is not text is kept as bytes; extensions have
no value.
-/
namespace BrokerWire.MessagePack

/-- How many arrays, maps and extensions may stand one inside the other. -/
def nestingLimit : Nat := 1023

/-- Take that many things one after the other. -/
def readMany {α : Type} (readOne : Bytes → Outcome (α × Bytes)) :
    Nat → Bytes → Outcome (List α × Bytes)
  | 0, bytes => .ok ([], bytes)
  | count + 1, bytes => do
    let (first, rest) ← readOne bytes
    let (others, rest) ← readMany readOne count rest
    return (first :: others, rest)

/-- Take a text: contents that are text, under a text format or a binary one. The levels are those
that an object in its place might enter. -/
def readText (levels : Nat) (bytes : Bytes) : Outcome (String × Bytes) := do
  let (head, rest) ← readHead bytes
  match head with
  | .scalar scalar => .error (.wrongKind scalar.found Entries.expectedName)
  | .text length =>
    let (contents, rest) ← readContents length rest
    match Utf8.decode contents with
    | .ok written => .ok (written, rest)
    | .error fault => .error (.notText fault)
  | .binary length =>
    let (contents, rest) ← readContents length rest
    match Utf8.decode contents with
    | .ok written => .ok (written, rest)
    | .error _ => .error (.mismatch (.wrongValue .bytes Entries.expectedName))
  | .container kind _ =>
    if levels = 0 then .error .tooDeep
    else .error (.wrongKind kind.found Entries.expectedName)

/-- Take a name and what stands under it. -/
def readEntry {α : Type} (levels : Nat) (readItem : Bytes → Outcome (α × Bytes)) (bytes : Bytes) :
    Outcome ((String × α) × Bytes) := do
  let (name, rest) ← readText levels bytes
  let (item, rest) ← readItem rest
  return ((name, item), rest)

/-- The value of a scalar. Integers go by their sign alone, whatever their format. -/
def Scalar.value : Scalar → Value
  | nil => .nil
  | bool flag => .bool flag
  | unsigned number => .uint number
  | signed number => .ofInt64 number
  | float number => .float number

/-- The value of a text's contents: bytes where they are not text. -/
def textValue (contents : Bytes) : Value :=
  match Utf8.decode contents with
  | .ok written => .text written
  | .error _ => .binary contents

/-- Take a value, entering at most that many levels. -/
def readValue : Nat → Bytes → Outcome (Value × Bytes)
  | levels, bytes =>
    match readHead bytes with
    | .error fault => .error fault
    | .ok (.scalar scalar, rest) => .ok (scalar.value, rest)
    | .ok (.text length, rest) => do
      let (contents, rest) ← readContents length rest
      return (textValue contents, rest)
    | .ok (.binary length, rest) => do
      let (contents, rest) ← readContents length rest
      return (.binary contents, rest)
    | .ok (.container kind count, rest) =>
      match levels with
      | 0 => .error .tooDeep
      | levels + 1 =>
        match kind with
        | .array => do
          let (items, rest) ← readMany (readValue levels) count rest
          return (.array items, rest)
        | .map => do
          let (pairs, rest) ← readMany (readEntry levels (readValue levels)) count rest
          return (.map (Entries.collect pairs), rest)
        | .extension => .error (.wrongKind .wrapped Value.expected)

/-- Read one object that the bytes hold from first to last. -/
def readWhole {α : Type} (read : Bytes → Outcome (α × Bytes)) (bytes : Bytes) : Outcome α := do
  let (result, rest) ← read bytes
  if rest.isEmpty then return result else throw (.trailing rest.length)

/-- The value of a document. -/
def decodeValue (bytes : Bytes) : Outcome Value :=
  readWhole (readValue nestingLimit) bytes

end BrokerWire.MessagePack
