import BrokerWire.MessagePack.Marker
import BrokerWire.Text.Utf8
import BrokerWire.Value.Basic
import BrokerWire.Word

/-!
# Values as MessagePack documents

Each value is written in the smallest format that holds it: integers by their number whichever
constructor they stand under, text, bytes, arrays and maps by their length. Floating numbers keep
all of their 64 bits. Entries are written in order, a name as often as it occurs.
-/
namespace BrokerWire.MessagePack

/-- A marker and a number of a given width behind it. -/
def writeNumber (marker : Marker) (width number : Nat) : Bytes :=
  marker.toByte :: Word.big width number

/-- An integer that is not negative. -/
def writeUnsigned (number : Nat) : Bytes :=
  if small : number < 128 then [(Marker.positive ⟨number, small⟩).toByte]
  else if number < Word.limit 1 then writeNumber (.unsigned .one) 1 number
  else if number < Word.limit 2 then writeNumber (.unsigned .two) 2 number
  else if number < Word.limit 4 then writeNumber (.unsigned .four) 4 number
  else writeNumber (.unsigned .eight) 8 number

/-- A negative integer, by how far below minus one it is. -/
def writeNegative (below : Nat) : Bytes :=
  if small : below < 32 then [(Marker.negative (Fin.rev ⟨below, small⟩)).toByte]
  else if 2 * below < Word.limit 1 then
    writeNumber (.signed .one) 1 (Word.limit 1 - 1 - below)
  else if 2 * below < Word.limit 2 then
    writeNumber (.signed .two) 2 (Word.limit 2 - 1 - below)
  else if 2 * below < Word.limit 4 then
    writeNumber (.signed .four) 4 (Word.limit 4 - 1 - below)
  else writeNumber (.signed .eight) 8 (Word.limit 8 - 1 - below)

/-- An integer. -/
def writeInteger : Int → Bytes
  | .ofNat number => writeUnsigned number
  | .negSucc below => writeNegative below

/-- The head of a text. -/
def writeTextHead (length : Nat) : Bytes :=
  if short : length < 32 then [(Marker.fixText ⟨length, short⟩).toByte]
  else if length < Word.limit 1 then writeNumber (.text .one) 1 length
  else if length < Word.limit 2 then writeNumber (.text .two) 2 length
  else writeNumber (.text .four) 4 length

/-- The head of bytes. -/
def writeBinaryHead (length : Nat) : Bytes :=
  if length < Word.limit 1 then writeNumber (.binary .one) 1 length
  else if length < Word.limit 2 then writeNumber (.binary .two) 2 length
  else writeNumber (.binary .four) 4 length

/-- The head of an array. -/
def writeArrayHead (count : Nat) : Bytes :=
  if few : count < 16 then [(Marker.fixArray ⟨count, few⟩).toByte]
  else if count < Word.limit 2 then writeNumber (.array .two) 2 count
  else writeNumber (.array .four) 4 count

/-- The head of a map. -/
def writeMapHead (count : Nat) : Bytes :=
  if few : count < 16 then [(Marker.fixMap ⟨count, few⟩).toByte]
  else if count < Word.limit 2 then writeNumber (.map .two) 2 count
  else writeNumber (.map .four) 4 count

/-- A text. -/
def writeText (text : String) : Bytes :=
  let contents := Utf8.encode text
  writeTextHead contents.length ++ contents

mutual

/-- The document of a value. -/
def write : Value → Bytes
  | .nil => [Marker.nil.toByte]
  | .bool flag => [(Marker.bool flag).toByte]
  | .int number => writeInteger number.toInt
  | .uint number => writeUnsigned number.toNat
  | .float number => writeNumber .float64 8 number.bits.toNat
  | .text written => writeText written
  | .binary bytes => writeBinaryHead bytes.length ++ bytes
  | .array items => writeArrayHead items.length ++ writeItems items
  | .map entries => writeMapHead entries.length ++ writeEntries entries

/-- The documents of items in order. -/
def writeItems : List Value → Bytes
  | [] => []
  | item :: items => write item ++ writeItems items

/-- The names and documents of entries in order. -/
def writeEntries : List (String × Value) → Bytes
  | [] => []
  | (name, item) :: entries => writeText name ++ write item ++ writeEntries entries

end

end BrokerWire.MessagePack
