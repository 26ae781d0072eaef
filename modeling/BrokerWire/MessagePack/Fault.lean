import BrokerWire.MessagePack.Marker
import BrokerWire.Text.Utf8
import BrokerWire.Value.Mismatch

/-!
# Faults of MessagePack documents

Why bytes are not a document of the shape asked for, and the wording of each reason.
-/
namespace BrokerWire.MessagePack

/-- Why a document cannot be read. -/
inductive Fault where
  /-- The bytes end where a marker is due. -/
  | markerMissing
  /-- The bytes end inside a number or a length. -/
  | numberMissing
  /-- The bytes end inside text, bytes or extension data. -/
  | contentsMissing
  /-- The marker stands for nothing that is admitted here. -/
  | unexpectedMarker (marker : Marker)
  /-- Arrays, maps and extensions stand one inside the other beyond the limit. -/
  | tooDeep
  /-- The contents of a text are not text. -/
  | notText (fault : Utf8.Fault)
  /-- An array has more items than are taken from it. -/
  | itemsLeft (taken : Nat)
  /-- The document has another shape. -/
  | mismatch (mismatch : Mismatch)
  /-- Bytes follow the document. -/
  | trailing (count : Nat)
  deriving DecidableEq, Repr

/-- The wording of a fault. -/
def Fault.message : Fault → String
  | markerMissing => "IO error while reading marker: failed to fill whole buffer"
  | numberMissing => "IO error while reading data: failed to fill whole buffer"
  | contentsMissing => "IO error while reading data: unexpected end of file"
  | unexpectedMarker marker => "wrong msgpack marker " ++ marker.name
  | tooDeep => "depth limit exceeded"
  | notText fault => "string found to be invalid utf8: " ++ fault.message
  | itemsLeft taken => s!"array had incorrect length, expected {taken}"
  | mismatch reason => reason.message
  | trailing count => s!"{count} trailing bytes after payload"

/-- What stood in a document where something else was expected. -/
def Fault.wrongKind (found : Found) (expected : String) : Fault :=
  .mismatch (.wrongKind found expected)

/-- What is computed from a document, unless it is at fault. -/
abbrev Outcome := Except Fault

end BrokerWire.MessagePack
