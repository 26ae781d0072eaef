import BrokerWire.Bytes

/-!
# Markers

The first byte of every MessagePack object names its format. There are as many markers as bytes:
`ofByte` and `toByte` are inverse to each other.
-/
namespace BrokerWire.MessagePack

/-- Widths of a length field. -/
inductive LengthWidth where
  | one
  | two
  | four
  deriving DecidableEq, Repr

/-- Widths of a count of items or entries. -/
inductive CountWidth where
  | two
  | four
  deriving DecidableEq, Repr

/-- Widths of an integer. -/
inductive IntegerWidth where
  | one
  | two
  | four
  | eight
  deriving DecidableEq, Repr

/-- Lengths of extension data that need no length field. -/
inductive FixedLength where
  | one
  | two
  | four
  | eight
  | sixteen
  deriving DecidableEq, Repr

/-- The width in bytes. -/
def LengthWidth.bytes : LengthWidth → Nat
  | one => 1
  | two => 2
  | four => 4

/-- The width in bytes. -/
def CountWidth.bytes : CountWidth → Nat
  | two => 2
  | four => 4

/-- The width in bytes. -/
def IntegerWidth.bytes : IntegerWidth → Nat
  | one => 1
  | two => 2
  | four => 4
  | eight => 8

/-- The length in bytes. -/
def FixedLength.bytes : FixedLength → Nat
  | one => 1
  | two => 2
  | four => 4
  | eight => 8
  | sixteen => 16

/-- The format of one object. -/
inductive Marker where
  /-- A small integer that is not negative. -/
  | positive (number : Fin 128)
  /-- A map with few entries. -/
  | fixMap (count : Fin 16)
  /-- An array with few items. -/
  | fixArray (count : Fin 16)
  /-- A short text. -/
  | fixText (length : Fin 32)
  /-- Absence. -/
  | nil
  /-- The byte that no format uses. -/
  | reserved
  /-- A truth value. -/
  | bool (flag : Bool)
  /-- Bytes, after their length. -/
  | binary (width : LengthWidth)
  /-- Extension data, after their length and type. -/
  | extension (width : LengthWidth)
  /-- A floating number of 32 bits. -/
  | float32
  /-- A floating number of 64 bits. -/
  | float64
  /-- An unsigned integer. -/
  | unsigned (width : IntegerWidth)
  /-- A signed integer. -/
  | signed (width : IntegerWidth)
  /-- Extension data of a fixed length, after their type. -/
  | fixExtension (length : FixedLength)
  /-- Text, after its length. -/
  | text (width : LengthWidth)
  /-- An array, after the count of its items. -/
  | array (width : CountWidth)
  /-- A map, after the count of its entries. -/
  | map (width : CountWidth)
  /-- A small negative integer, counted from minus thirty-two. -/
  | negative (above : Fin 32)
  deriving DecidableEq, Repr

namespace Marker

/-- The markers from 0xC0 to 0xDF, in order. -/
def middle : Nat → Marker
  | 0 => nil
  | 1 => reserved
  | 2 => bool false
  | 3 => bool true
  | 4 => binary .one
  | 5 => binary .two
  | 6 => binary .four
  | 7 => extension .one
  | 8 => extension .two
  | 9 => extension .four
  | 10 => float32
  | 11 => float64
  | 12 => unsigned .one
  | 13 => unsigned .two
  | 14 => unsigned .four
  | 15 => unsigned .eight
  | 16 => signed .one
  | 17 => signed .two
  | 18 => signed .four
  | 19 => signed .eight
  | 20 => fixExtension .one
  | 21 => fixExtension .two
  | 22 => fixExtension .four
  | 23 => fixExtension .eight
  | 24 => fixExtension .sixteen
  | 25 => text .one
  | 26 => text .two
  | 27 => text .four
  | 28 => array .two
  | 29 => array .four
  | 30 => map .two
  | _ => map .four

/-- The marker that a byte is. -/
def ofByte (byte : UInt8) : Marker :=
  let n := byte.toNat
  if n < 0x80 then positive (Fin.ofNat 128 n)
  else if n < 0x90 then fixMap (Fin.ofNat 16 (n - 0x80))
  else if n < 0xA0 then fixArray (Fin.ofNat 16 (n - 0x90))
  else if n < 0xC0 then fixText (Fin.ofNat 32 (n - 0xA0))
  else if n < 0xE0 then middle (n - 0xC0)
  else negative (Fin.ofNat 32 (n - 0xE0))

/-- The byte of a marker. -/
def toByte : Marker → UInt8
  | positive number => UInt8.ofNat number
  | fixMap count => UInt8.ofNat (0x80 + count)
  | fixArray count => UInt8.ofNat (0x90 + count)
  | fixText length => UInt8.ofNat (0xA0 + length)
  | nil => 0xC0
  | reserved => 0xC1
  | bool false => 0xC2
  | bool true => 0xC3
  | binary .one => 0xC4
  | binary .two => 0xC5
  | binary .four => 0xC6
  | extension .one => 0xC7
  | extension .two => 0xC8
  | extension .four => 0xC9
  | float32 => 0xCA
  | float64 => 0xCB
  | unsigned .one => 0xCC
  | unsigned .two => 0xCD
  | unsigned .four => 0xCE
  | unsigned .eight => 0xCF
  | signed .one => 0xD0
  | signed .two => 0xD1
  | signed .four => 0xD2
  | signed .eight => 0xD3
  | fixExtension .one => 0xD4
  | fixExtension .two => 0xD5
  | fixExtension .four => 0xD6
  | fixExtension .eight => 0xD7
  | fixExtension .sixteen => 0xD8
  | text .one => 0xD9
  | text .two => 0xDA
  | text .four => 0xDB
  | array .two => 0xDC
  | array .four => 0xDD
  | map .two => 0xDE
  | map .four => 0xDF
  | negative above => UInt8.ofNat (0xE0 + above)

/-- Every byte is the byte of its marker. -/
theorem toByte_ofByte (byte : UInt8) : (ofByte byte).toByte = byte := by
  have all : ∀ n : Fin 256, (ofByte (UInt8.ofNat n)).toByte = UInt8.ofNat n := by decide +kernel
  have here := all ⟨byte.toNat, byte.toNat_lt⟩
  simpa using here

/-- Every marker is the marker of its byte. -/
theorem ofByte_toByte (marker : Marker) : ofByte marker.toByte = marker := by
  cases marker with
  | positive number => revert number; decide +kernel
  | fixMap count => revert count; decide +kernel
  | fixArray count => revert count; decide +kernel
  | fixText length => revert length; decide +kernel
  | negative above => revert above; decide +kernel
  | bool flag => cases flag <;> decide +kernel
  | binary width | extension width | text width => cases width <;> decide +kernel
  | array width | map width => cases width <;> decide +kernel
  | unsigned width | signed width => cases width <;> decide +kernel
  | fixExtension length => cases length <;> decide +kernel
  | nil | reserved | float32 | float64 => decide +kernel

/-- The marker's name in a message. -/
def name : Marker → String
  | positive number => s!"FixPos({number.val})"
  | fixMap count => s!"FixMap({count.val})"
  | fixArray count => s!"FixArray({count.val})"
  | fixText length => s!"FixStr({length.val})"
  | nil => "Null"
  | reserved => "Reserved"
  | bool false => "False"
  | bool true => "True"
  | binary width => s!"Bin{8 * width.bytes}"
  | extension width => s!"Ext{8 * width.bytes}"
  | float32 => "F32"
  | float64 => "F64"
  | unsigned width => s!"U{8 * width.bytes}"
  | signed width => s!"I{8 * width.bytes}"
  | fixExtension length => s!"FixExt{length.bytes}"
  | text width => s!"Str{8 * width.bytes}"
  | array width => s!"Array{8 * width.bytes}"
  | map width => s!"Map{8 * width.bytes}"
  | negative above => s!"FixNeg({(above.val : Int) - 32})"

end Marker

end BrokerWire.MessagePack
