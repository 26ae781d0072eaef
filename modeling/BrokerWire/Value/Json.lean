import BrokerWire.Number.Form
import BrokerWire.Text.Quoted
import BrokerWire.Value.Basic

/-!
# Values as JSON

The text of a value is compact JSON: no blanks, entries in order, bytes as the array of their
numbers, and `null` for absence and for a floating number that is not finite.
-/
namespace BrokerWire.Json

/-- A floating number from a hundred-thousandth up to below ten to the sixteenth is written out in
positions; of two equally near decimals the even one is taken. -/
def floatForm : NumberForm := ⟨fun power => -5 ≤ power && power < 16, .toEven⟩

/-- An integer in decimal. -/
def integer (number : Int) : List Char :=
  if number < 0 then '-' :: Nat.toDigits 10 number.natAbs else Nat.toDigits 10 number.natAbs

/-- A floating number, if it is finite. -/
def float (number : Binary64) : List Char :=
  if number.isFinite then floatForm.write number else "null".toList

/-- Items with a comma in front of all but the first. -/
def separated : List (List Char) → List Char
  | [] => []
  | [item] => item
  | item :: items => item ++ ',' :: separated items

mutual

/-- The text of a value. -/
def render : Value → List Char
  | .nil => "null".toList
  | .bool flag => if flag then "true".toList else "false".toList
  | .int number => integer number.toInt
  | .uint number => integer number.toNat
  | .float number => float number
  | .text written => Quoted.json written
  | .binary bytes => '[' :: separated (bytes.map fun byte => integer byte.toNat) ++ [']']
  | .array items => '[' :: separated (renderItems items) ++ [']']
  | .map entries => '\x7b' :: separated (renderEntries entries) ++ ['\x7d']

/-- The texts of items in order. -/
def renderItems : List Value → List (List Char)
  | [] => []
  | item :: items => render item :: renderItems items

/-- The texts of entries in order. -/
def renderEntries : List (String × Value) → List (List Char)
  | [] => []
  | (name, item) :: entries => (Quoted.json name ++ ':' :: render item) :: renderEntries entries

end

end BrokerWire.Json

namespace BrokerWire

/-- The text shown for a value. -/
def Value.display (value : Value) : String := String.ofList (Json.render value)

end BrokerWire
