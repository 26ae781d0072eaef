import BrokerWire.Bytes

/-!
# Text as bytes

UTF-8 in both directions. The reader walks the bytes once with the open sequence, if any, as its
state: the first byte of a sequence fixes how many bytes follow and narrows the range of the next
one, so surrogates, overlong forms and numbers above the last character are refused at the first
byte that decides it. A refusal tells how many bytes before the bad sequence are text, and how
long the bad sequence is.
-/
namespace BrokerWire.Utf8

/-- Why bytes are not text. -/
structure Fault where
  /-- Bytes before the bad sequence, all of them text. -/
  validUpTo : Nat
  /-- Bytes of the bad sequence that could have begun a character, at least one; nothing when the
  bytes end inside a sequence that could still be completed. -/
  badLength : Option Nat
  deriving DecidableEq, Repr

/-- The wording of a refusal. -/
def Fault.message (fault : Fault) : String :=
  match fault.badLength with
  | some length => s!"invalid utf-8 sequence of {length} bytes from index {fault.validUpTo}"
  | none => s!"incomplete utf-8 byte sequence from index {fault.validUpTo}"

/-- A character of which some bytes have been read. -/
structure Sequence where
  /-- Bytes already read. -/
  taken : Nat
  /-- Bytes still to come, at least one. -/
  missing : Nat
  /-- Least admitted next byte. -/
  low : Nat
  /-- Greatest admitted next byte. -/
  high : Nat
  /-- The number spelled so far. -/
  code : Nat
  deriving DecidableEq, Repr

/-- What a byte means where a character begins. -/
inductive Lead where
  /-- The byte is a character of its own. -/
  | single
  /-- The byte opens a sequence. -/
  | opens (sequence : Sequence)
  /-- No character begins with the byte. -/
  | invalid
  deriving DecidableEq, Repr

/-- The first bytes of characters and the ranges they impose on the second. -/
def Lead.ofByte (byte : UInt8) : Lead :=
  let n := byte.toNat
  if n < 0x80 then .single
  else if n < 0xC2 then .invalid
  else if n < 0xE0 then .opens ⟨1, 1, 0x80, 0xBF, n - 0xC0⟩
  else if n = 0xE0 then .opens ⟨1, 2, 0xA0, 0xBF, 0⟩
  else if n = 0xED then .opens ⟨1, 2, 0x80, 0x9F, 0xD⟩
  else if n < 0xF0 then .opens ⟨1, 2, 0x80, 0xBF, n - 0xE0⟩
  else if n = 0xF0 then .opens ⟨1, 3, 0x90, 0xBF, 0⟩
  else if n < 0xF4 then .opens ⟨1, 3, 0x80, 0xBF, n - 0xF0⟩
  else if n = 0xF4 then .opens ⟨1, 3, 0x80, 0x8F, 4⟩
  else .invalid

/-- Read characters from the position where the open sequence, or else the next character,
begins. -/
def scan (index : Nat) : Option Sequence → Bytes → Except Fault (List Char)
  | none, [] => .ok []
  | some _, [] => .error ⟨index, none⟩
  | none, byte :: rest =>
    match Lead.ofByte byte with
    | .single => (scan (index + 1) none rest).map (Char.ofNat byte.toNat :: ·)
    | .opens sequence => scan index (some sequence) rest
    | .invalid => .error ⟨index, some 1⟩
  | some sequence, byte :: rest =>
    if sequence.low ≤ byte.toNat ∧ byte.toNat ≤ sequence.high then
      let code := 64 * sequence.code + byte.toNat % 64
      if sequence.missing = 1 then
        (scan (index + sequence.taken + 1) none rest).map (Char.ofNat code :: ·)
      else
        scan index (some ⟨sequence.taken + 1, sequence.missing - 1, 0x80, 0xBF, code⟩) rest
    else .error ⟨index, some sequence.taken⟩

/-- The text that the bytes spell, or the first place where they spell none. -/
def decode (bytes : Bytes) : Except Fault String :=
  (scan 0 none bytes).map String.ofList

/-- The bytes of one character. -/
def encodeChar (char : Char) : Bytes :=
  let n := char.toNat
  if n < 0x80 then [UInt8.ofNat n]
  else if n < 0x800 then [UInt8.ofNat (0xC0 + n / 64), UInt8.ofNat (0x80 + n % 64)]
  else if n < 0x10000 then
    [UInt8.ofNat (0xE0 + n / 4096), UInt8.ofNat (0x80 + n / 64 % 64), UInt8.ofNat (0x80 + n % 64)]
  else
    [UInt8.ofNat (0xF0 + n / 262144), UInt8.ofNat (0x80 + n / 4096 % 64),
      UInt8.ofNat (0x80 + n / 64 % 64), UInt8.ofNat (0x80 + n % 64)]

/-- The bytes of a text. -/
def encode (text : String) : Bytes := text.toList.flatMap encodeChar

end BrokerWire.Utf8
