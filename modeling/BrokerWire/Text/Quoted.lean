import BrokerWire.Text.Shown

/-!
# Quoted text

Two ways to put a text between quotes. A JSON string escapes the quote, the backslash and the
characters below the space, and leaves everything else as it is. A text quoted in an error
message escapes, besides, whatever would not show.
-/
namespace BrokerWire.Quoted

/-- A digit of base sixteen. -/
def hexDigit (n : Nat) : Char := Nat.digitChar (n % 16)

/-- A character as it stands in a JSON string. -/
def escapeJson (char : Char) : List Char :=
  if char = '"' then ['\\', '"']
  else if char = '\\' then ['\\', '\\']
  else if char = '\x08' then ['\\', 'b']
  else if char = '\t' then ['\\', 't']
  else if char = '\n' then ['\\', 'n']
  else if char = '\x0c' then ['\\', 'f']
  else if char = '\r' then ['\\', 'r']
  else if char.toNat < 0x20 then
    ['\\', 'u', '0', '0', hexDigit (char.toNat / 16), hexDigit char.toNat]
  else [char]

/-- A text as a JSON string. -/
def json (text : String) : List Char :=
  '"' :: (text.toList.flatMap escapeJson ++ ['"'])

/-- A character as it stands in a text quoted in a message: one that would not show is written by
its number. -/
def escapeMessage (char : Char) : List Char :=
  if char = '"' then ['\\', '"']
  else if char = '\\' then ['\\', '\\']
  else if char = '\t' then ['\\', 't']
  else if char = '\n' then ['\\', 'n']
  else if char = '\r' then ['\\', 'r']
  else if char = '\x00' then ['\\', '0']
  else if Text.shows char then [char]
  else '\\' :: 'u' :: '\x7b' :: Nat.toDigits 16 char.toNat ++ ['\x7d']

/-- A text as it is quoted in a message. -/
def message (text : String) : List Char :=
  '"' :: (text.toList.flatMap escapeMessage ++ ['"'])

end BrokerWire.Quoted
