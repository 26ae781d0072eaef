/-!
# The grammar of JSON texts

A JSON text without blanks denotes a tree. The grammar tells, without any printer or reader, which
texts there are: numbers with a fraction and an exponent, strings with every kind of escape, arrays,
and objects whose entries keep their order and may repeat a name.
-/
namespace BrokerWire.Json

/-- What a JSON text denotes. -/
inductive Tree where
  /-- Absence. -/
  | null
  /-- Truth or falsehood. -/
  | bool (flag : Bool)
  /-- A number: the significand times that power of ten. -/
  | number (significand power : Int)
  /-- Text. -/
  | text (written : String)
  /-- Trees in order. -/
  | array (items : List Tree)
  /-- Trees under names, in order and with repetitions. -/
  | object (entries : List (String × Tree))

/-! ## Numbers -/

/-- Digits of base ten, if any. -/
def AreDigits (digits : List Char) : Prop := ∀ digit ∈ digits, digit.isDigit = true

/-- The digits of a whole number: there are some, and a zero in front stands alone. -/
structure AreWhole (digits : List Char) : Prop where
  /-- There are only digits. -/
  areDigits : AreDigits digits
  /-- There are some. -/
  present : digits ≠ []
  /-- A zero in front stands alone. -/
  least : digits.head? = some '0' → digits = ['0']

/-- The number of some digits. -/
def decimal (digits : List Char) : Nat := Nat.ofDigitChars 10 digits 0

/-- A number with its sign. -/
def signed (negative : Bool) (number : Nat) : Int := if negative then -number else number

/-- The power of ten behind a number. -/
structure Exponent where
  /-- The mark in front of it is a capital letter. -/
  capital : Bool
  /-- The sign behind the mark, if there is one. -/
  sign : Option Bool
  /-- The digits behind that. -/
  digits : List Char
  /-- There are only digits. -/
  areDigits : AreDigits digits
  /-- There are some. -/
  present : digits ≠ []

namespace Exponent

/-- The mark of an exponent. -/
def mark (exponent : Exponent) : Char := if exponent.capital then 'E' else 'e'

/-- The sign of an exponent as it is written. -/
def signs (exponent : Exponent) : List Char :=
  match exponent.sign with
  | none => []
  | some false => ['+']
  | some true => ['-']

/-- An exponent as it is written. -/
def write (exponent : Exponent) : List Char :=
  exponent.mark :: (exponent.signs ++ exponent.digits)

/-- The power that an exponent denotes. -/
def power (exponent : Exponent) : Int :=
  signed (exponent.sign = some true) (decimal exponent.digits)

end Exponent

/-- A number as it can be written. -/
structure Numeral where
  /-- There is a minus in front. -/
  negative : Bool
  /-- The digits in front of the point. -/
  whole : List Char
  /-- The digits behind the point; without any there is no point. -/
  fraction : List Char
  /-- The power of ten, if there is one. -/
  exponent : Option Exponent
  /-- There is a whole number in front of the point. -/
  areWhole : AreWhole whole
  /-- Behind it there are digits. -/
  areDigits : AreDigits fraction

namespace Numeral

/-- The sign of a number as it is written. -/
def signs (numeral : Numeral) : List Char := if numeral.negative then ['-'] else []

/-- The fraction of a number as it is written. -/
def point (numeral : Numeral) : List Char :=
  if numeral.fraction = [] then [] else '.' :: numeral.fraction

/-- The exponent of a number as it is written. -/
def scale (numeral : Numeral) : List Char := numeral.exponent.elim [] Exponent.write

/-- A number as it is written. -/
def write (numeral : Numeral) : List Char :=
  numeral.signs ++ (numeral.whole ++ (numeral.point ++ numeral.scale))

/-- The number that is denoted. -/
def denoted (numeral : Numeral) : Tree :=
  .number (signed numeral.negative (decimal (numeral.whole ++ numeral.fraction)))
    (numeral.exponent.elim 0 Exponent.power - numeral.fraction.length)

end Numeral

/-! ## Strings -/

/-- The characters that have an escape of two characters, behind the second one. -/
def shortEscapes : List (Char × Char) :=
  [('"', '"'), ('\\', '\\'), ('/', '/'), ('b', '\x08'), ('f', '\x0c'), ('n', '\n'), ('r', '\r'),
    ('t', '\t')]

/-- The number of a digit of base sixteen. -/
def hexValue? (digit : Char) : Option Nat :=
  if digit.isDigit then some (digit.toNat - '0'.toNat)
  else if 'a' ≤ digit ∧ digit ≤ 'f' then some (digit.toNat - 'a'.toNat + 10)
  else if 'A' ≤ digit ∧ digit ≤ 'F' then some (digit.toNat - 'A'.toNat + 10)
  else none

/-- Four digits of base sixteen denote a number. -/
inductive WritesUnit : List Char → Nat → Prop where
  /-- The first digit counts most. -/
  | digits {a b c d : Char} {i j k l : Nat} (first : hexValue? a = some i)
      (second : hexValue? b = some j) (third : hexValue? c = some k)
      (fourth : hexValue? d = some l) :
      WritesUnit [a, b, c, d] (((i * 16 + j) * 16 + k) * 16 + l)

/-- The first half of a character beyond the first 65536. -/
def IsHigh (unit : Nat) : Prop := 0xD800 ≤ unit ∧ unit < 0xDC00

/-- The second half of a character beyond the first 65536. -/
def IsLow (unit : Nat) : Prop := 0xDC00 ≤ unit ∧ unit < 0xE000

instance (unit : Nat) : Decidable (IsHigh unit) := inferInstanceAs (Decidable (_ ∧ _))

instance (unit : Nat) : Decidable (IsLow unit) := inferInstanceAs (Decidable (_ ∧ _))

/-- The number of the character that two halves make. -/
def join (high low : Nat) : Nat := 0x10000 + (high - 0xD800) * 0x400 + (low - 0xDC00)

/-- The characters that denote one character of a string. -/
inductive WritesChar : List Char → Char → Prop where
  /-- A character that is not a control character stands for itself. -/
  | plain {char : Char} (shows : 0x20 ≤ char.toNat) (unquoted : char ≠ '"')
      (unescaped : char ≠ '\\') : WritesChar [char] char
  /-- A character that has a short escape. -/
  | short {mark char : Char} (listed : (mark, char) ∈ shortEscapes) :
      WritesChar ['\\', mark] char
  /-- A character by its number. -/
  | unit {digits : List Char} {char : Char} (writes : WritesUnit digits char.toNat) :
      WritesChar ('\\' :: 'u' :: digits) char
  /-- A character by its two halves. -/
  | halves {front back : List Char} {high low : Nat} {char : Char} (first : WritesUnit front high)
      (isHigh : IsHigh high) (second : WritesUnit back low) (isLow : IsLow low)
      (joined : char.toNat = join high low) :
      WritesChar ('\\' :: 'u' :: (front ++ '\\' :: 'u' :: back)) char

/-- A character of a string, as it is written. -/
structure Piece where
  /-- The characters that denote it. -/
  text : List Char
  /-- The character. -/
  char : Char

/-- The characters denote a string. -/
inductive WritesString : List Char → String → Prop where
  /-- Its characters stand between quotes. -/
  | quoted (pieces : List Piece) (each : ∀ piece ∈ pieces, WritesChar piece.text piece.char) :
      WritesString ('"' :: (pieces.flatMap Piece.text ++ ['"'])) (.ofList (pieces.map Piece.char))

/-! ## Texts -/

/-- A text inside another one. -/
structure Part where
  /-- Its characters. -/
  text : List Char
  /-- The tree that it denotes. -/
  tree : Tree

/-- An entry of an object. -/
structure NamedPart extends Part where
  /-- The characters of its name. -/
  naming : List Char
  /-- Its name. -/
  name : String

/-- An entry as it is written. -/
def NamedPart.write (entry : NamedPart) : List Char := entry.naming ++ ':' :: entry.text

/-- The characters are a JSON text without blanks, and denote the tree. -/
inductive Writes : List Char → Tree → Prop where
  /-- Absence. -/
  | null : Writes ['n', 'u', 'l', 'l'] .null
  /-- Truth. -/
  | truth : Writes ['t', 'r', 'u', 'e'] (.bool true)
  /-- Falsehood. -/
  | falsehood : Writes ['f', 'a', 'l', 's', 'e'] (.bool false)
  /-- A number. -/
  | number (numeral : Numeral) : Writes numeral.write numeral.denoted
  /-- A string. -/
  | text {characters : List Char} {written : String} (writes : WritesString characters written) :
      Writes characters (.text written)
  /-- An array of texts. -/
  | array (items : List Part) (each : ∀ item ∈ items, Writes item.text item.tree) :
      Writes ('[' :: (List.intercalate [','] (items.map Part.text) ++ [']']))
        (.array (items.map Part.tree))
  /-- An object of texts under names. -/
  | object (entries : List NamedPart)
      (named : ∀ entry ∈ entries, WritesString entry.naming entry.name)
      (each : ∀ entry ∈ entries, Writes entry.text entry.tree) :
      Writes ('\x7b' :: (List.intercalate [','] (entries.map NamedPart.write) ++ ['\x7d']))
        (.object (entries.map fun entry => (entry.name, entry.tree)))

/-! ## Characters -/

/-- No character is a control character. -/
def Shows (text : List Char) : Prop := ∀ char ∈ text, 0x20 ≤ char.toNat

/-- Nothing shows. -/
theorem shows_nil : Shows [] := fun _ among => absurd among List.not_mem_nil

/-- A text shows when its first character and the others do. -/
theorem shows_cons_iff {char : Char} {text : List Char} :
    Shows (char :: text) ↔ 0x20 ≤ char.toNat ∧ Shows text :=
  List.forall_mem_cons

/-- A text shows when both of its parts do. -/
theorem shows_append_iff {front back : List Char} :
    Shows (front ++ back) ↔ Shows front ∧ Shows back :=
  List.forall_mem_append

/-- Texts with commas between them show when each of them does. -/
theorem shows_intercalate {texts : List (List Char)} (each : ∀ text ∈ texts, Shows text) :
    Shows (List.intercalate [','] texts) := by
  induction texts with
  | nil => exact shows_nil
  | cons text texts ih =>
    have first := each text List.mem_cons_self
    have others := ih fun other among => each other (List.mem_cons_of_mem _ among)
    cases texts with
    | nil => rwa [List.intercalate_singleton]
    | cons next further =>
      rw [List.intercalate_cons_cons]
      exact shows_append_iff.mpr
        ⟨shows_append_iff.mpr ⟨first, shows_cons_iff.mpr ⟨by decide, shows_nil⟩⟩, others⟩

/-- A digit shows. -/
theorem shows_of_isDigit {digit : Char} (isDigit : digit.isDigit = true) :
    0x20 ≤ digit.toNat := by
  simp only [Char.isDigit, Bool.and_eq_true, decide_eq_true_eq] at isDigit
  exact Nat.le_trans (by decide) (UInt32.le_iff_toNat_le.mp isDigit.1)

/-- Digits show. -/
theorem AreDigits.shows {digits : List Char} (areDigits : AreDigits digits) : Shows digits :=
  fun digit among => shows_of_isDigit (areDigits digit among)

/-- An exponent shows. -/
theorem Exponent.shows (exponent : Exponent) : Shows exponent.write := by
  rw [write, mark, signs]
  refine shows_cons_iff.mpr ⟨?_, shows_append_iff.mpr ⟨?_, exponent.areDigits.shows⟩⟩
  · cases exponent.capital <;> decide
  · match exponent.sign with
    | none => exact shows_nil
    | some false | some true => exact shows_cons_iff.mpr ⟨by decide, shows_nil⟩

/-- A number shows. -/
theorem Numeral.shows (numeral : Numeral) : Shows numeral.write := by
  rw [write, signs, point, scale]
  refine shows_append_iff.mpr ⟨?_, shows_append_iff.mpr
    ⟨numeral.areWhole.areDigits.shows, shows_append_iff.mpr ⟨?_, ?_⟩⟩⟩
  · split
    · exact shows_cons_iff.mpr ⟨by decide, shows_nil⟩
    · exact shows_nil
  · split
    · exact shows_nil
    · exact shows_cons_iff.mpr ⟨by decide, numeral.areDigits.shows⟩
  · cases numeral.exponent with
    | none => exact shows_nil
    | some exponent => exact exponent.shows

/-- A digit of base sixteen shows. -/
theorem hexValue?_shows {digit : Char} {value : Nat} (read : hexValue? digit = some value) :
    0x20 ≤ digit.toNat := by
  rw [hexValue?] at read
  split at read
  · rename_i isDigit
    exact shows_of_isDigit isDigit
  · split at read
    · rename_i lower
      exact Nat.le_trans (by decide) (UInt32.le_iff_toNat_le.mp lower.1)
    · split at read
      · rename_i upper
        exact Nat.le_trans (by decide) (UInt32.le_iff_toNat_le.mp upper.1)
      · contradiction

/-- Digits of base sixteen show. -/
theorem WritesUnit.shows {digits : List Char} {unit : Nat} (writes : WritesUnit digits unit) :
    Shows digits := by
  cases writes with
  | digits first second third fourth =>
    exact shows_cons_iff.mpr ⟨hexValue?_shows first, shows_cons_iff.mpr ⟨hexValue?_shows second,
      shows_cons_iff.mpr ⟨hexValue?_shows third, shows_cons_iff.mpr
        ⟨hexValue?_shows fourth, shows_nil⟩⟩⟩⟩

/-- What denotes a character of a string shows. -/
theorem WritesChar.shows {text : List Char} {char : Char} (writes : WritesChar text char) :
    Shows text := by
  have escape (mark : Char) (rest : List Char) (markShows : 0x20 ≤ mark.toNat)
      (restShows : Shows rest) : Shows ('\\' :: mark :: rest) :=
    shows_cons_iff.mpr ⟨by decide, shows_cons_iff.mpr ⟨markShows, restShows⟩⟩
  cases writes with
  | plain shows unquoted unescaped => exact shows_cons_iff.mpr ⟨shows, shows_nil⟩
  | short listed =>
    have marks : ∀ entry ∈ shortEscapes, 0x20 ≤ entry.1.toNat := by decide
    exact escape _ _ (marks _ listed) shows_nil
  | unit writes => exact escape _ _ (by decide) writes.shows
  | halves first isHigh second isLow joined =>
    exact escape _ _ (by decide)
      (shows_append_iff.mpr ⟨first.shows, escape _ _ (by decide) second.shows⟩)

/-- A string shows. -/
theorem WritesString.shows {text : List Char} {written : String}
    (writes : WritesString text written) : Shows text := by
  cases writes with
  | quoted pieces each =>
    refine shows_cons_iff.mpr ⟨by decide, shows_append_iff.mpr
      ⟨?_, shows_cons_iff.mpr ⟨by decide, shows_nil⟩⟩⟩
    intro char among
    obtain ⟨piece, inside, here⟩ := List.mem_flatMap.mp among
    exact (each piece inside).shows char here

/-- A text of the grammar has no control character. -/
theorem Writes.shows {text : List Char} {tree : Tree} (writes : Writes text tree) :
    Shows text := by
  have enclosed (first last : Char) (texts : List (List Char)) (firstShows : 0x20 ≤ first.toNat)
      (lastShows : 0x20 ≤ last.toNat) (each : ∀ text ∈ texts, Shows text) :
      Shows (first :: (List.intercalate [','] texts ++ [last])) :=
    shows_cons_iff.mpr ⟨firstShows, shows_append_iff.mpr
      ⟨shows_intercalate each, shows_cons_iff.mpr ⟨lastShows, shows_nil⟩⟩⟩
  induction writes with
  | null | truth | falsehood =>
    simp only [shows_cons_iff, shows_nil, and_true]
    decide
  | number numeral => exact numeral.shows
  | text writes => exact writes.shows
  | array items each ih =>
    refine enclosed _ _ _ (by decide) (by decide) ?_
    intro text among
    obtain ⟨item, inside, rfl⟩ := List.mem_map.mp among
    exact ih item inside
  | object entries named each ih =>
    refine enclosed _ _ _ (by decide) (by decide) ?_
    intro text among
    obtain ⟨entry, inside, rfl⟩ := List.mem_map.mp among
    exact shows_append_iff.mpr ⟨(named entry inside).shows,
      shows_cons_iff.mpr ⟨by decide, ih entry inside⟩⟩

end BrokerWire.Json
