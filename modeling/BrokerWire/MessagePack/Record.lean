import BrokerWire.MessagePack.Target

/-!
# Documents read as records

A record is read from a map, its fields under their names or positions in any order, or from an
array of its fields in order. Objects under other names and positions are passed over whole, with
whatever stands inside them. Fields met so far are kept in a draft, from which the record is made
when all of them have been met.
-/
namespace BrokerWire.MessagePack

/-- Pass over one object, entering at most that many levels. -/
def skip : Nat → Bytes → Outcome (Unit × Bytes)
  | levels, bytes =>
    match readHead bytes with
    | .error fault => .error fault
    | .ok (.scalar _, rest) => .ok ((), rest)
    | .ok (.text length, rest) => do
      let (_, rest) ← readContents length rest
      return ((), rest)
    | .ok (.binary length, rest) => do
      let (_, rest) ← readContents length rest
      return ((), rest)
    | .ok (.container kind count, rest) =>
      match levels with
      | 0 => .error .tooDeep
      | levels + 1 =>
        match kind with
        | .array => do
          let (_, rest) ← readMany (skip levels) count rest
          return ((), rest)
        | .map => do
          let (_, rest) ← readMany (skip levels) (2 * count) rest
          return ((), rest)
        | .extension => do
          let (_, rest) ← readNumber 1 rest
          let (_, rest) ← readContents count rest
          return ((), rest)

/-- One field of a record, read into a draft. -/
structure Field (δ : Type) where
  /-- The field's name. -/
  name : String
  /-- The draft holds the field. -/
  isMet : δ → Bool
  /-- Put a scalar into the draft. -/
  putScalar : Scalar → δ → Except Mismatch δ
  /-- Take the field from the front and put it into the draft. -/
  put : Nat → Bytes → δ → Outcome (δ × Bytes)

/-- A field of a type that a target reads, kept where the draft says. -/
def Field.of {α δ : Type} (name : String) (target : Target α) (get : δ → Option α)
    (set : δ → α → δ) : Field δ where
  name := name
  isMet draft := (get draft).isSome
  putScalar scalar draft := (target.ofScalar scalar).map (set draft)
  put levels bytes draft := do
    let (result, rest) ← target.read levels bytes
    return (set draft result, rest)

/-- How a record is read. -/
structure RecordShape (δ ρ : Type) where
  /-- What the record is called in a message. -/
  name : String
  /-- Its fields in the order of their positions. -/
  fields : List (Field δ)
  /-- The draft before any field is met. -/
  draft : δ
  /-- The record, once every field is met. -/
  finish : δ → Option ρ

namespace RecordShape

variable {δ ρ : Type}

/-- What a field's name is called in a message. -/
def expectedField : String := "field identifier"

/-- What the fields in order are called in a message. -/
def expectedFields (shape : RecordShape δ ρ) : String :=
  s!"{shape.name} with {shape.fields.length} elements"

/-- Take what stands for a field: its name, under a text or a binary format, or its position, under
an unsigned one. A name or position of no field yields nothing. -/
def readKey (shape : RecordShape δ ρ) (levels : Nat) (bytes : Bytes) :
    Outcome (Option (Field δ) × Bytes) := do
  let (head, rest) ← readHead bytes
  match head with
  | .scalar (.unsigned position) => return (shape.fields[position.toNat]?, rest)
  | .text length | .binary length =>
    let (contents, rest) ← readContents length rest
    return (shape.fields.find? fun field => Utf8.encode field.name == contents, rest)
  | _ => refuse levels expectedField head rest

/-- Take one pair of a map into the draft. -/
def readPair (shape : RecordShape δ ρ) (levels : Nat) (draft : δ) (bytes : Bytes) :
    Outcome (δ × Bytes) := do
  let (key, rest) ← shape.readKey levels bytes
  match key with
  | none =>
    let (_, rest) ← skip levels rest
    return (draft, rest)
  | some field =>
    if field.isMet draft then throw (.mismatch (.duplicateField field.name))
    else field.put levels rest draft

/-- Take that many pairs of a map into the draft. -/
def readPairs (shape : RecordShape δ ρ) (levels : Nat) : Nat → δ → Bytes → Outcome (δ × Bytes)
  | 0, draft, bytes => .ok (draft, bytes)
  | count + 1, draft, bytes => do
    let (draft, rest) ← shape.readPair levels draft bytes
    shape.readPairs levels count draft rest

/-- The record of a draft, or the first field never met. -/
def complete (shape : RecordShape δ ρ) (draft : δ) : Except Mismatch ρ :=
  match shape.finish draft with
  | some result => .ok result
  | none =>
    let missing := shape.fields.find? fun field => !field.isMet draft
    .error (.missingField (missing.elim "" Field.name))

/-- Take the fields in order from an array of that many items. -/
def readItems (shape : RecordShape δ ρ) (levels : Nat) :
    List (Field δ) → Nat → δ → Bytes → Outcome (δ × Bytes)
  | [], 0, draft, bytes => .ok (draft, bytes)
  | [], _ + 1, _, _ => .error (.itemsLeft shape.fields.length)
  | missing@(_ :: _), 0, _, _ =>
    .error (.mismatch (.wrongLength (shape.fields.length - missing.length) shape.expectedFields))
  | field :: fields, count + 1, draft, bytes => do
    let (draft, rest) ← field.put levels bytes draft
    shape.readItems levels fields count draft rest

/-- Put the numbers of bytes into the fields in order. -/
def putBytes (shape : RecordShape δ ρ) : List (Field δ) → Bytes → δ → Except Mismatch δ
  | [], _, draft => .ok draft
  | missing@(_ :: _), [], _ =>
    .error (.wrongLength (shape.fields.length - missing.length) shape.expectedFields)
  | field :: fields, byte :: bytes, draft => do
    let draft ← field.putScalar (.unsigned byte.toUInt64) draft
    shape.putBytes fields bytes draft

/-- A record. -/
def target (shape : RecordShape δ ρ) : Target ρ where
  ofScalar scalar := .error (.wrongKind scalar.found shape.name)
  read levels bytes := do
    let (head, rest) ← readHead bytes
    match head, levels with
    | .container .map count, inner + 1 =>
      let (draft, rest) ← shape.readPairs inner count shape.draft rest
      let result ← Outcome.ofMismatch (shape.complete draft)
      return (result, rest)
    | .container .array count, inner + 1 =>
      let (draft, rest) ← shape.readItems inner shape.fields count shape.draft rest
      let result ← Outcome.ofMismatch (shape.complete draft)
      return (result, rest)
    | .binary length, _ =>
      let (contents, rest) ← readContents length rest
      let draft ← Outcome.ofMismatch (shape.putBytes shape.fields contents shape.draft)
      let result ← Outcome.ofMismatch (shape.complete draft)
      return (result, rest)
    | _, _ => refuse levels shape.name head rest

end RecordShape

end BrokerWire.MessagePack
