import BrokerWire.Bytes
import BrokerWire.Number.Binary64

/-!
# Payload values

A payload carries a document that describes itself, so its value is a tree of nine kinds of node.
Maps keep their entries in order. Integers have two constructors, one for each sign: a value read
from a document or made by `Value.ofInt64` never holds a non-negative number under `Value.int`.
-/
namespace BrokerWire

/-- A value of any shape a document can have. -/
inductive Value where
  /-- Absence. -/
  | nil
  /-- Truth or falsehood. -/
  | bool (flag : Bool)
  /-- An integer of the signed range, negative in every value read from a document. -/
  | int (number : Int64)
  /-- A non-negative integer. -/
  | uint (number : UInt64)
  /-- A floating number. -/
  | float (number : Binary64)
  /-- Text. -/
  | text (written : String)
  /-- Bytes that are not text. -/
  | binary (bytes : Bytes)
  /-- Values in order. -/
  | array (items : List Value)
  /-- Values under names, in order. -/
  | map (entries : List (String × Value))
  deriving Inhabited

namespace Value

/-- A signed integer, kept under the constructor of its sign. -/
def ofInt64 (number : Int64) : Value :=
  if 0 ≤ number then .uint number.toUInt64 else .int number

/-- The value is absence. -/
def isNil : Value → Bool
  | nil => true
  | _ => false

/-- The truth value, of a truth value only. -/
def bool? : Value → Option Bool
  | bool flag => some flag
  | _ => none

/-- The integer, where the signed range holds it. -/
def int64? : Value → Option Int64
  | int number => some number
  | uint number => if number.toNat < 0x8000000000000000 then some number.toInt64 else none
  | _ => none

/-- The integer, where it is not negative. -/
def uint64? : Value → Option UInt64
  | uint number => some number
  | int number => if 0 ≤ number then some number.toUInt64 else none
  | _ => none

/-- The floating number, of a floating number only. -/
def float? : Value → Option Binary64
  | float number => some number
  | _ => none

/-- The text, of a text only. -/
def text? : Value → Option String
  | text written => some written
  | _ => none

/-- The items, of an array only. -/
def items? : Value → Option (List Value)
  | array items => some items
  | _ => none

/-- The entries, of a map only. -/
def entries? : Value → Option (List (String × Value))
  | map entries => some entries
  | _ => none

/-- The value under the first entry of that name. -/
def get? (value : Value) (name : String) : Option Value :=
  value.entries?.bind (·.lookup name)

mutual

/-- Equality of values: constructors and order count, and floating numbers are compared as
numbers, so a tree that holds one without a number does not equal itself. -/
def same : Value → Value → Bool
  | nil, nil => true
  | bool x, bool y => x == y
  | int x, int y => x == y
  | uint x, uint y => x == y
  | float x, float y => x.same y
  | text x, text y => x == y
  | binary x, binary y => x == y
  | array x, array y => sameItems x y
  | map x, map y => sameEntries x y
  | _, _ => false

/-- Equality of arrays, item by item. -/
def sameItems : List Value → List Value → Bool
  | [], [] => true
  | x :: xs, y :: ys => x.same y && sameItems xs ys
  | _, _ => false

/-- Equality of maps, entry by entry. -/
def sameEntries : List (String × Value) → List (String × Value) → Bool
  | [], [] => true
  | (left, x) :: xs, (right, y) :: ys => left == right && x.same y && sameEntries xs ys
  | _, _ => false

end

mutual

/-- How many arrays and maps stand one inside the other. -/
def depth : Value → Nat
  | array items => depthItems items + 1
  | map entries => depthEntries entries + 1
  | _ => 0

/-- The greatest depth of an item. -/
def depthItems : List Value → Nat
  | [] => 0
  | item :: items => max item.depth (depthItems items)

/-- The greatest depth of an entry. -/
def depthEntries : List (String × Value) → Nat
  | [] => 0
  | (_, item) :: entries => max item.depth (depthEntries entries)

end

end Value

end BrokerWire
