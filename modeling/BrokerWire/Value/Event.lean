import BrokerWire.Text.Utf8
import BrokerWire.Value.Basic
import BrokerWire.Value.Entries
import BrokerWire.Value.Mismatch

/-!
# Values from events

A source of documents other than the payload format offers its content as events. Each event that
has a place among the values becomes one; the names of a map must be text, or bytes that spell
text.
-/
namespace BrokerWire

/-- What a source of documents offers. -/
inductive Event where
  /-- Absence. -/
  | unit
  /-- An optional value that is absent. -/
  | none
  /-- An optional value that is present. -/
  | some (content : Event)
  /-- A value inside a wrapper. -/
  | wrapped (content : Event)
  /-- A truth value. -/
  | bool (flag : Bool)
  /-- A signed integer of at most 64 bits. -/
  | signed (number : Int64)
  /-- An unsigned integer of at most 64 bits. -/
  | unsigned (number : UInt64)
  /-- A signed integer of 128 bits. -/
  | wide (number : Int)
  /-- A floating number. -/
  | float (number : Binary64)
  /-- Text. -/
  | text (written : String)
  /-- Bytes. -/
  | bytes (content : Bytes)
  /-- Events in order. -/
  | sequence (items : List Event)
  /-- Pairs of a name and a value. -/
  | map (entries : List (Event × Event))
  /-- The source gives up, for a reason of its own. -/
  | failure (reason : String)
  deriving Inhabited

/-- What the shape of a value is called in a message. -/
def Value.expected : String := "any MessagePack value"

/-- What the name of an entry is called in a message. -/
def Entries.expectedName : String := "a string"

/-- The name of an entry: text, or bytes that spell text. -/
def Event.name : Event → Except Mismatch String
  | text written => .ok written
  | bytes content =>
    match Utf8.decode content with
    | .ok written => .ok written
    | .error _ => .error (.wrongValue .bytes Entries.expectedName)
  | unit => .error (.wrongKind .unit Entries.expectedName)
  | none | some _ => .error (.wrongKind .option Entries.expectedName)
  | wrapped _ => .error (.wrongKind .wrapped Entries.expectedName)
  | bool flag => .error (.wrongKind (.bool flag) Entries.expectedName)
  | signed number => .error (.wrongKind (.integer number.toInt) Entries.expectedName)
  | unsigned number => .error (.wrongKind (.integer number.toNat) Entries.expectedName)
  | wide number => .error (.wrongKind (.wideInteger number) Entries.expectedName)
  | float number => .error (.wrongKind (.float number) Entries.expectedName)
  | sequence _ => .error (.wrongKind .sequence Entries.expectedName)
  | map _ => .error (.wrongKind .map Entries.expectedName)
  | failure reason => .error (.refused reason)

mutual

/-- The value of an event, or the first mismatch inside it. -/
def Value.ofEvent : Event → Except Mismatch Value
  | .unit | .none => .ok .nil
  | .some content => ofEvent content
  | .wrapped _ => .error (.wrongKind .wrapped Value.expected)
  | .bool flag => .ok (.bool flag)
  | .signed number => .ok (.ofInt64 number)
  | .unsigned number => .ok (.uint number)
  | .wide number => .error (.wrongKind (.wideInteger number) Value.expected)
  | .float number => .ok (.float number)
  | .text written => .ok (.text written)
  | .bytes content => .ok (.binary content)
  | .sequence items => (ofItems items).map .array
  | .map entries => (ofEntries entries).map fun pairs => .map (Entries.collect pairs)
  | .failure reason => .error (.refused reason)

/-- The values of events in order. -/
def Value.ofItems : List Event → Except Mismatch (List Value)
  | [] => .ok []
  | item :: items => do
    let value ← Value.ofEvent item
    let values ← Value.ofItems items
    return value :: values

/-- The pairs of a map in order, each name before its value. -/
def Value.ofEntries : List (Event × Event) → Except Mismatch (List (String × Value))
  | [] => .ok []
  | (name, item) :: entries => do
    let name ← name.name
    let value ← Value.ofEvent item
    let pairs ← Value.ofEntries entries
    return (name, value) :: pairs

end

end BrokerWire
