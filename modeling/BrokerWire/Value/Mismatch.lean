import BrokerWire.Number.Form
import BrokerWire.Text.Quoted

/-!
# Mismatches between a document and the shape asked of it

A document can be well formed and still not have the shape that is asked for. A mismatch names
what was found and what was expected, in the words of its message.
-/
namespace BrokerWire

/-- What stood where something else was expected. -/
inductive Found where
  /-- Absence. -/
  | unit
  /-- A present or absent optional value. -/
  | option
  /-- A truth value. -/
  | bool (flag : Bool)
  /-- An integer. -/
  | integer (number : Int)
  /-- An integer of 128 bits. -/
  | wideInteger (number : Int)
  /-- A floating number. -/
  | float (number : Binary64)
  /-- Text. -/
  | text (written : String)
  /-- Bytes. -/
  | bytes
  /-- Values in order. -/
  | sequence
  /-- Values under names. -/
  | map
  /-- A value inside a wrapper, as extension data are. -/
  | wrapped
  deriving DecidableEq, Repr

/-- Floating numbers in a message are written out in positions whatever their size, and of two
equally near decimals the greater one is taken. -/
def Found.floatForm : NumberForm := ⟨fun _ => true, .up⟩

/-- The text of a floating number in a message. -/
def Found.floatText (number : Binary64) : String :=
  if number.isNaN then "NaN"
  else if number.isInfinite then if number.isNegative then "-inf" else "inf"
  else String.ofList (Found.floatForm.write number)

/-- What was found, in words. -/
def Found.describe : Found → String
  | unit => "unit value"
  | option => "Option value"
  | bool flag => s!"boolean `{flag}`"
  | integer number => s!"integer `{number}`"
  | wideInteger number => s!"integer `{number}` as i128"
  | float number => "floating point `" ++ floatText number ++ "`"
  | text written => "string " ++ String.ofList (Quoted.message written)
  | bytes => "byte array"
  | sequence => "sequence"
  | map => "map"
  | wrapped => "newtype struct"

/-- Why a document does not have the shape asked of it. -/
inductive Mismatch where
  /-- A value of another kind. -/
  | wrongKind (found : Found) (expected : String)
  /-- A value of the right kind that is not admitted. -/
  | wrongValue (found : Found) (expected : String)
  /-- A sequence with too few items. -/
  | wrongLength (count : Nat) (expected : String)
  /-- A field met a second time. -/
  | duplicateField (name : String)
  /-- A field never met. -/
  | missingField (name : String)
  /-- A refusal by the source of the document, in its own words. -/
  | refused (reason : String)
  deriving DecidableEq, Repr

/-- The wording of a mismatch. -/
def Mismatch.message : Mismatch → String
  | wrongKind found expected => s!"invalid type: {found.describe}, expected {expected}"
  | wrongValue found expected => s!"invalid value: {found.describe}, expected {expected}"
  | wrongLength count expected => s!"invalid length {count}, expected {expected}"
  | duplicateField name => s!"duplicate field `{name}`"
  | missingField name => s!"missing field `{name}`"
  | refused reason => reason

end BrokerWire
