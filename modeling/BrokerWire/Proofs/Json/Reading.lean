import BrokerWire.Proofs.Json.Grammar

/-!
# A plain reader of JSON texts

The reader goes through a text from the front, passes over blanks between its parts, and keeps the
entries of an object in order and with repetitions. It reads every text of the grammar as the tree
that the text denotes, in front of anything that could not go on with a number: so a text of the
grammar tells by itself where it ends, and denotes one tree only.
-/
namespace BrokerWire.Json

/-! ## Reading -/

/-- A character that may stand between the parts of a text. -/
def isBlank (char : Char) : Bool := char == ' ' || char == '\t' || char == '\n' || char == '\r'

/-- What comes behind blanks. -/
def skipBlanks (text : List Char) : List Char := text.dropWhile isBlank

/-- The digits in front, and what comes behind them. -/
def readDigits (text : List Char) : List Char × List Char :=
  (text.takeWhile Char.isDigit, text.dropWhile Char.isDigit)

/-- Whether there is a minus in front. -/
def readMinus : List Char → Bool × List Char
  | '-' :: rest => (true, rest)
  | text => (false, text)

/-- The digits behind a point, if there is a point. -/
def readFraction : List Char → Option (List Char × List Char)
  | '.' :: rest =>
    match readDigits rest with
    | ([], _) => none
    | found => some found
  | text => some ([], text)

/-- Whether the sign in front is a minus, if there is a sign. -/
def readSign : List Char → Bool × List Char
  | '+' :: rest => (false, rest)
  | '-' :: rest => (true, rest)
  | text => (false, text)

/-- The power of ten, if there is one. -/
def readExponent : List Char → Option (Int × List Char)
  | [] => some (0, [])
  | char :: rest =>
    if char = 'e' ∨ char = 'E' then
      let (negative, rest) := readSign rest
      match readDigits rest with
      | ([], _) => none
      | (digits, rest) => some (signed negative (decimal digits), rest)
    else some (0, char :: rest)

/-- Whether the digits are those of a whole number. -/
def isWhole : List Char → Bool
  | [] => false
  | digit :: others => digit != '0' || others.isEmpty

/-- Read a number. -/
def readNumber (text : List Char) : Option (Tree × List Char) := do
  let (negative, rest) := readMinus text
  let (whole, rest) := readDigits rest
  if isWhole whole then
    let (fraction, rest) ← readFraction rest
    let (power, rest) ← readExponent rest
    some (.number (signed negative (decimal (whole ++ fraction))) (power - fraction.length), rest)
  else none

/-- Read the number of a character, or of one half of it. -/
def readUnit : List Char → Option (Nat × List Char)
  | a :: b :: c :: d :: rest => do
    let i ← hexValue? a
    let j ← hexValue? b
    let k ← hexValue? c
    let l ← hexValue? d
    some (((i * 16 + j) * 16 + k) * 16 + l, rest)
  | _ => none

/-- Read a character by its number, or by its halves. -/
def readCode (text : List Char) : Option (Char × List Char) := do
  let (unit, rest) ← readUnit text
  if IsHigh unit then
    match rest with
    | '\\' :: 'u' :: rest =>
      let (low, rest) ← readUnit rest
      if IsLow low then some (.ofNat (join unit low), rest) else none
    | _ => none
  else if IsLow unit then none
  else some (.ofNat unit, rest)

/-- Read a character of a string. -/
def readChar : List Char → Option (Char × List Char)
  | '\\' :: 'u' :: rest => readCode rest
  | '\\' :: mark :: rest => (shortEscapes.lookup mark).map fun char => (char, rest)
  | '\\' :: [] => none
  | char :: rest => if 0x20 ≤ char.toNat then some (char, rest) else none
  | [] => none

/-- Read the characters of a string up to the quote behind them, at most so many. -/
def readChars : Nat → List Char → Option (List Char × List Char)
  | _, '"' :: rest => some ([], rest)
  | 0, _ => none
  | count + 1, text => do
    let (char, rest) ← readChar text
    let (chars, rest) ← readChars count rest
    some (char :: chars, rest)

/-- Read the string behind a quote. -/
def readString (text : List Char) : Option (String × List Char) :=
  (readChars text.length text).map fun found => (.ofList found.1, found.2)

/-- Read items with commas between them up to a closing character, at most so many. -/
def readSequence {α : Type} (read : List Char → Option (α × List Char)) (close : Char) :
    Nat → List Char → Option (List α × List Char)
  | 0, _ => none
  | count + 1, text => do
    let (item, rest) ← read text
    match skipBlanks rest with
    | [] => none
    | char :: rest =>
      if char = close then some ([item], rest)
      else if char = ',' then
        let (items, rest) ← readSequence read close count rest
        some (item :: items, rest)
      else none

/-- Read items up to a closing character, if there are any. -/
def readEnclosed {α : Type} (read : List Char → Option (α × List Char)) (close : Char)
    (text : List Char) : Option (List α × List Char) :=
  match skipBlanks text with
  | [] => none
  | char :: rest =>
    if char = close then some ([], rest) else readSequence read close text.length (char :: rest)

/-- Read an entry of an object. -/
def readEntry (read : List Char → Option (Tree × List Char)) (text : List Char) :
    Option ((String × Tree) × List Char) :=
  match skipBlanks text with
  | '"' :: rest => do
    let (name, rest) ← readString rest
    match skipBlanks rest with
    | ':' :: rest =>
      let (tree, rest) ← read rest
      some ((name, tree), rest)
    | _ => none
  | _ => none

/-- Read a text in front of another one, with so many texts inside each other at most. -/
def readTree : Nat → List Char → Option (Tree × List Char)
  | 0, _ => none
  | levels + 1, text =>
    match skipBlanks text with
    | 'n' :: 'u' :: 'l' :: 'l' :: rest => some (.null, rest)
    | 't' :: 'r' :: 'u' :: 'e' :: rest => some (.bool true, rest)
    | 'f' :: 'a' :: 'l' :: 's' :: 'e' :: rest => some (.bool false, rest)
    | '"' :: rest => (readString rest).map fun found => (.text found.1, found.2)
    | '[' :: rest =>
      (readEnclosed (readTree levels) ']' rest).map fun found => (.array found.1, found.2)
    | '\x7b' :: rest =>
      (readEnclosed (readEntry (readTree levels)) '\x7d' rest).map fun found =>
        (.object found.1, found.2)
    | rest => readNumber rest

/-- Read a JSON text, with nothing but blanks behind it. -/
def read? (text : String) : Option Tree :=
  match readTree text.toList.length text.toList with
  | some (tree, rest) => if skipBlanks rest = [] then some tree else none
  | none => none

/-! ## Numbers -/

/-- The text does not begin with such a character. -/
def NotAhead (isSuch : Char → Bool) (text : List Char) : Prop :=
  ∀ char, text.head? = some char → isSuch char = false

/-- No text begins with a character behind its end. -/
theorem notAhead_nil (isSuch : Char → Bool) : NotAhead isSuch [] := by
  intro char first
  simp at first

/-- A text begins with its first character only. -/
theorem notAhead_cons {isSuch : Char → Bool} {char : Char} {rest : List Char}
    (unlike : isSuch char = false) : NotAhead isSuch (char :: rest) := by
  intro other first
  obtain rfl : char = other := Option.some.inj first
  exact unlike

/-- A character that could go on with a number. -/
def goesOnNumber (char : Char) : Bool :=
  char.isDigit || char == '.' || char == 'e' || char == 'E'

/-- No number goes on with the text. -/
def Stops (text : List Char) : Prop := NotAhead goesOnNumber text

/-- A number that stops does not go on with a digit. -/
theorem Stops.notDigit {text : List Char} (stops : Stops text) : NotAhead Char.isDigit text := by
  intro char first
  have unlike := stops char first
  simp only [goesOnNumber, Bool.or_eq_false_iff] at unlike
  exact unlike.1.1.1

/-- Digits are read as far as there are any. -/
theorem readDigits_append {digits rest : List Char} (areDigits : AreDigits digits)
    (behind : NotAhead Char.isDigit rest) : readDigits (digits ++ rest) = (digits, rest) := by
  have nothing : rest.takeWhile Char.isDigit = [] ∧ rest.dropWhile Char.isDigit = rest := by
    cases rest with
    | nil => exact ⟨rfl, rfl⟩
    | cons char rest =>
      have unlike := behind char rfl
      simp [unlike]
  rw [readDigits, List.takeWhile_append_of_pos areDigits, List.dropWhile_append_of_pos areDigits,
    nothing.1, nothing.2, List.append_nil]

/-- Where digits are read, they are there in front. -/
theorem exists_digit {digits : List Char} (areDigits : AreDigits digits) (present : digits ≠ []) :
    ∃ digit others, digits = digit :: others ∧ digit.isDigit = true := by
  cases digits with
  | nil => contradiction
  | cons digit others => exact ⟨digit, others, rfl, areDigits digit List.mem_cons_self⟩

/-- A digit is none of the marks inside a number. -/
theorem digit_ne {digit : Char} (isDigit : digit.isDigit = true) {mark : Char}
    (notDigit : mark.isDigit = false) : digit ≠ mark := by
  rintro rfl
  rw [isDigit] at notDigit
  contradiction

/-- The digits of a whole number are taken for such. -/
theorem AreWhole.isWhole {digits : List Char} (areWhole : AreWhole digits) :
    isWhole digits = true := by
  have present := areWhole.present
  have least := areWhole.least
  cases digits with
  | nil => contradiction
  | cons digit others =>
    by_cases zero : digit = '0'
    · have alone := least (congrArg some zero)
      rw [alone]
      rfl
    · simp [Json.isWhole, zero]

/-- Digits are not a minus. -/
theorem readMinus_digits {digits rest : List Char} (areDigits : AreDigits digits)
    (present : digits ≠ []) : readMinus (digits ++ rest) = (false, digits ++ rest) := by
  obtain ⟨digit, others, rfl, isDigit⟩ := exists_digit areDigits present
  rw [List.cons_append, readMinus]
  intro _ same
  exact digit_ne isDigit rfl (List.cons.inj same).1

/-- Digits are not a sign. -/
theorem readSign_digits {digits rest : List Char} (areDigits : AreDigits digits)
    (present : digits ≠ []) : readSign (digits ++ rest) = (false, digits ++ rest) := by
  obtain ⟨digit, others, rfl, isDigit⟩ := exists_digit areDigits present
  rw [List.cons_append, readSign]
  · intro _ same
    exact digit_ne isDigit rfl (List.cons.inj same).1
  · intro _ same
    exact digit_ne isDigit rfl (List.cons.inj same).1

/-- The sign of an exponent is read. -/
theorem readSign_signs (exponent : Exponent) (rest : List Char) :
    readSign (exponent.signs ++ (exponent.digits ++ rest)) =
      (decide (exponent.sign = some true), exponent.digits ++ rest) := by
  rw [Exponent.signs]
  cases sign : exponent.sign with
  | none => simp [readSign_digits exponent.areDigits exponent.present]
  | some negative => cases negative <;> rfl

/-- An exponent is read as its power. -/
theorem readExponent_write (exponent : Exponent) {rest : List Char}
    (behind : NotAhead Char.isDigit rest) :
    readExponent (exponent.write ++ rest) = some (exponent.power, rest) := by
  have marked : exponent.mark = 'e' ∨ exponent.mark = 'E' := by
    rw [Exponent.mark]
    cases exponent.capital with
    | false => exact .inl rfl
    | true => exact .inr rfl
  have digits := readDigits_append exponent.areDigits behind
  rw [Exponent.write, List.cons_append, List.append_assoc, readExponent, if_pos marked,
    readSign_signs]
  obtain ⟨digit, others, same, -⟩ := exists_digit exponent.areDigits exponent.present
  simp only [digits]
  rw [Exponent.power, same]

/-- The power of a number is read, whether it is written or not. -/
theorem readExponent_scale (numeral : Numeral) {rest : List Char} (stops : Stops rest) :
    readExponent (numeral.scale ++ rest) = some (numeral.exponent.elim 0 Exponent.power, rest) := by
  rw [Numeral.scale]
  cases numeral.exponent with
  | some exponent => exact readExponent_write exponent stops.notDigit
  | none =>
    cases rest with
    | nil => rfl
    | cons char rest =>
      have unlike := stops char rfl
      simp only [goesOnNumber, Bool.or_eq_false_iff, beq_eq_false_iff_ne] at unlike
      have unmarked : ¬ (char = 'e' ∨ char = 'E') := by
        rintro (same | same)
        · exact unlike.1.2 same
        · exact unlike.2 same
      simp only [Option.elim_none, List.nil_append, readExponent, unmarked, ↓reduceIte]

/-- The power of a number begins with neither a digit nor a point. -/
theorem notAhead_scale (numeral : Numeral) {rest : List Char} (stops : Stops rest) :
    NotAhead (fun char => char.isDigit || char == '.') (numeral.scale ++ rest) := by
  rw [Numeral.scale]
  cases numeral.exponent with
  | some exponent =>
    apply notAhead_cons
    rw [Exponent.mark]
    cases exponent.capital <;> rfl
  | none =>
    intro char first
    have unlike := stops char first
    simp only [goesOnNumber, Bool.or_eq_false_iff] at unlike ⊢
    exact unlike.1.1

/-- A fraction is read, whether it is written or not. -/
theorem readFraction_point (numeral : Numeral) {rest : List Char}
    (behind : NotAhead (fun char => char.isDigit || char == '.') rest) :
    readFraction (numeral.point ++ rest) = some (numeral.fraction, rest) := by
  have unlike (char : Char) (first : rest.head? = some char) :
      char.isDigit = false ∧ char ≠ '.' := by
    have neither := behind char first
    simp only [Bool.or_eq_false_iff, beq_eq_false_iff_ne] at neither
    exact neither
  rw [Numeral.point]
  cases fraction : numeral.fraction with
  | nil =>
    rw [if_pos rfl, List.nil_append, readFraction]
    rintro others rfl
    exact (unlike '.' rfl).2 rfl
  | cons digit digits =>
    have areDigits := numeral.areDigits
    rw [fraction] at areDigits
    have read := readDigits_append areDigits (fun char first => (unlike char first).1)
    rw [if_neg (List.cons_ne_nil _ _), List.cons_append, readFraction, read]

/-- Behind the whole digits of a number there is no further one. -/
theorem notDigit_point (numeral : Numeral) {rest : List Char} (stops : Stops rest) :
    NotAhead Char.isDigit (numeral.point ++ (numeral.scale ++ rest)) := by
  rw [Numeral.point]
  split
  · intro char first
    have neither := notAhead_scale numeral stops char first
    rw [Bool.or_eq_false_iff] at neither
    exact neither.1
  · exact notAhead_cons rfl

/-- A number is read as what it denotes. -/
theorem readNumber_write (numeral : Numeral) {rest : List Char} (stops : Stops rest) :
    readNumber (numeral.write ++ rest) = some (numeral.denoted, rest) := by
  have minus : readMinus (numeral.signs ++ (numeral.whole ++ (numeral.point ++
      (numeral.scale ++ rest)))) =
        (numeral.negative, numeral.whole ++ (numeral.point ++ (numeral.scale ++ rest))) := by
    rw [Numeral.signs]
    cases numeral.negative with
    | false =>
      rw [if_neg Bool.false_ne_true, List.nil_append]
      exact readMinus_digits numeral.areWhole.areDigits numeral.areWhole.present
    | true => rfl
  have whole := readDigits_append numeral.areWhole.areDigits (notDigit_point numeral stops)
  have fraction := readFraction_point numeral (notAhead_scale numeral stops)
  have power := readExponent_scale numeral stops
  simp only [Numeral.write, List.append_assoc, readNumber, minus, whole, numeral.areWhole.isWhole,
    fraction, power, ↓reduceIte, Option.bind_eq_bind, Option.bind_some, Numeral.denoted]

/-! ## Strings -/

/-- Four digits are read as their number. -/
theorem readUnit_append {digits : List Char} {unit : Nat} (writes : WritesUnit digits unit)
    (rest : List Char) : readUnit (digits ++ rest) = some (unit, rest) := by
  cases writes with
  | digits first second third fourth =>
    simp only [List.cons_append, List.nil_append, readUnit, first, second, third, fourth,
      Option.bind_eq_bind, Option.bind_some]

/-- The number of a character is not one of a half. -/
theorem not_isHigh_toNat (char : Char) : ¬ IsHigh char.toNat ∧ ¬ IsLow char.toNat := by
  obtain valid | valid := char.valid
  · have below : char.toNat < 0xD800 := valid
    simp only [IsHigh, IsLow]
    omega
  · have above : 0xDFFF < char.toNat := valid.1
    simp only [IsHigh, IsLow]
    omega

/-- Every short escape is found in the table. -/
theorem lookup_of_mem {mark char : Char} (listed : (mark, char) ∈ shortEscapes) :
    shortEscapes.lookup mark = some char := by
  have each : ∀ entry ∈ shortEscapes, shortEscapes.lookup entry.1 = some entry.2 := by decide
  exact each _ listed

/-- A character of a string is read from what denotes it. -/
theorem readChar_append {text : List Char} {char : Char} (writes : WritesChar text char)
    (rest : List Char) : readChar (text ++ rest) = some (char, rest) := by
  cases writes with
  | plain shows unquoted unescaped =>
    rw [List.cons_append, List.nil_append, readChar.eq_def]
    split
    · rename_i same
      exact absurd (List.cons.inj same).1 unescaped
    · rename_i same
      exact absurd (List.cons.inj same).1 unescaped
    · rename_i same
      exact absurd (List.cons.inj same).1 unescaped
    · rename_i same
      obtain ⟨rfl, rfl⟩ := List.cons.inj same
      rw [if_pos shows]
    · contradiction
  | @short mark _ listed =>
    have found := lookup_of_mem listed
    have notCode : mark ≠ 'u' := by
      rintro rfl
      contradiction
    rw [List.cons_append, List.cons_append, List.nil_append, readChar, found, Option.map_some]
    exact notCode
  | unit writes =>
    have none := not_isHigh_toNat char
    rw [List.cons_append, List.cons_append, readChar, readCode, readUnit_append writes]
    simp only [Option.bind_eq_bind, Option.bind_some, none.1, none.2, ↓reduceIte,
      Char.ofNat_toNat]
  | halves first isHigh second isLow joined =>
    rw [List.cons_append, List.cons_append, readChar, readCode, List.append_assoc,
      readUnit_append first]
    simp only [List.cons_append, Option.bind_eq_bind, Option.bind_some, isHigh, ↓reduceIte,
      readUnit_append second, isLow]
    rw [← joined, Char.ofNat_toNat]

/-- What denotes a character of a string is not the quote behind the string. -/
theorem WritesChar.exists_cons {text : List Char} {char : Char} (writes : WritesChar text char) :
    ∃ first others, text = first :: others ∧ first ≠ '"' := by
  cases writes with
  | plain shows unquoted unescaped => exact ⟨_, _, rfl, unquoted⟩
  | short _ | unit _ | halves _ _ _ _ _ => exact ⟨_, _, rfl, by decide⟩

/-- The characters of a string are read up to the quote behind them. -/
theorem readChars_append {pieces : List Piece}
    (each : ∀ piece ∈ pieces, WritesChar piece.text piece.char) {count : Nat}
    (enough : pieces.length ≤ count) (rest : List Char) :
    readChars count (pieces.flatMap Piece.text ++ '"' :: rest) =
      some (pieces.map Piece.char, rest) := by
  induction pieces generalizing count with
  | nil => rw [List.flatMap_nil, List.nil_append, readChars, List.map_nil]
  | cons piece pieces ih =>
    cases count with
    | zero => contradiction
    | succ count =>
      have writes := each piece List.mem_cons_self
      have others := ih (fun other among => each other (List.mem_cons_of_mem _ among))
        (Nat.le_of_succ_le_succ enough)
      obtain ⟨first, behind, same, unquoted⟩ := writes.exists_cons
      rw [List.flatMap_cons, List.append_assoc, readChars, readChar_append writes]
      · simp only [Option.bind_eq_bind, Option.bind_some, others, List.map_cons]
      · rw [same]
        intro further quote
        exact unquoted (List.cons.inj quote).1

/-- No character of a string is written with nothing. -/
theorem length_le_flatMap {pieces : List Piece}
    (each : ∀ piece ∈ pieces, WritesChar piece.text piece.char) :
    pieces.length ≤ (pieces.flatMap Piece.text).length := by
  induction pieces with
  | nil => exact Nat.le_refl _
  | cons piece pieces ih =>
    have others := ih fun other among => each other (List.mem_cons_of_mem _ among)
    obtain ⟨first, behind, same, -⟩ := (each piece List.mem_cons_self).exists_cons
    rw [List.flatMap_cons, same, List.length_append, List.length_cons, List.length_cons]
    omega

/-- A string is read behind its first quote. -/
theorem WritesString.exists_read {text : List Char} {written : String}
    (writes : WritesString text written) :
    ∃ inside, text = '"' :: inside ∧
      ∀ rest, readString (inside ++ rest) = some (written, rest) := by
  cases writes with
  | quoted pieces each =>
    refine ⟨_, rfl, fun rest => ?_⟩
    have enough : pieces.length ≤ (pieces.flatMap Piece.text ++ ['"'] ++ rest).length := by
      rw [List.append_assoc, List.length_append]
      exact Nat.le_add_right_of_le (length_le_flatMap each)
    have chars := readChars_append each enough rest
    rw [readString, List.append_assoc]
    rw [List.append_assoc] at chars
    simp only [List.singleton_append] at chars ⊢
    rw [chars, Option.map_some]

/-! ## Texts -/

/-- The character is neither a blank nor a closing one. -/
def opens (char : Char) : Bool := !isBlank char && char != ']' && char != '\x7d'

/-- Where no blank is ahead, none is skipped. -/
theorem skipBlanks_cons {char : Char} {rest : List Char} (shown : isBlank char = false) :
    skipBlanks (char :: rest) = char :: rest := by
  rw [skipBlanks, List.dropWhile_cons_of_neg (by rw [shown]; exact Bool.false_ne_true)]

/-- A text begins with a character that opens it. -/
def Opens (text : List Char) : Prop := ∃ first others, text = first :: others ∧ opens first = true

/-- A digit opens a text. -/
theorem opens_of_isDigit {digit : Char} (isDigit : digit.isDigit = true) : opens digit = true := by
  have ne (mark : Char) (notDigit : mark.isDigit = false) : (digit == mark) = false :=
    beq_eq_false_iff_ne.mpr (digit_ne isDigit notDigit)
  simp only [opens, isBlank, bne, ne _ (show ' '.isDigit = false from rfl),
    ne _ (show '\t'.isDigit = false from rfl), ne _ (show '\n'.isDigit = false from rfl),
    ne _ (show '\r'.isDigit = false from rfl), ne _ (show ']'.isDigit = false from rfl),
    ne _ (show '\x7d'.isDigit = false from rfl), Bool.or_false, Bool.not_false, Bool.and_true]

/-- A number begins with a minus or a digit. -/
theorem Numeral.exists_cons (numeral : Numeral) :
    ∃ first others, numeral.write = first :: others ∧ (first = '-' ∨ first.isDigit = true) := by
  obtain ⟨digit, others, same, isDigit⟩ :=
    exists_digit numeral.areWhole.areDigits numeral.areWhole.present
  rw [write, signs, same]
  cases numeral.negative with
  | false => exact ⟨_, _, rfl, .inr isDigit⟩
  | true => exact ⟨_, _, rfl, .inl rfl⟩

/-- Every text begins with a character that opens it. -/
theorem Writes.opens {text : List Char} {tree : Tree} (writes : Writes text tree) :
    Opens text := by
  cases writes with
  | null | truth | falsehood | array _ _ | object _ _ _ => exact ⟨_, _, rfl, rfl⟩
  | text writes =>
    obtain ⟨inside, rfl, -⟩ := writes.exists_read
    exact ⟨_, _, rfl, rfl⟩
  | number numeral =>
    obtain ⟨first, others, same, rfl | isDigit⟩ := numeral.exists_cons
    · exact ⟨_, _, same, rfl⟩
    · exact ⟨_, _, same, opens_of_isDigit isDigit⟩

/-- A character that closes an array or an object. -/
def Closes (char : Char) : Prop := char = ']' ∨ char = '\x7d'

/-- What closes is not a blank, nor a comma, and no number goes on with it. -/
theorem Closes.unlike {close : Char} (closes : Closes close) :
    isBlank close = false ∧ ',' ≠ close ∧ goesOnNumber close = false := by
  obtain rfl | rfl := closes <;> decide

/-- What opens a text does not close one. -/
theorem Closes.ne_of_opens {close first : Char} (closes : Closes close)
    (isOpening : opens first = true) : isBlank first = false ∧ first ≠ close := by
  simp only [Json.opens, Bool.and_eq_true, Bool.not_eq_true', bne_iff_ne] at isOpening
  obtain ⟨⟨shown, notSquare⟩, notCurly⟩ := isOpening
  refine ⟨shown, ?_⟩
  obtain rfl | rfl := closes
  · exact notSquare
  · exact notCurly

section Sequences

variable {α β : Type} {read : List Char → Option (α × List Char)} {close : Char}
  {text : β → List Char} {item : β → α} {parts : List β}

/-- Parts with commas between them are read one after the other. -/
theorem readSequence_intercalate (closes : Closes close)
    (each : ∀ part ∈ parts, ∀ rest, Stops rest →
      read (text part ++ rest) = some (item part, rest))
    (present : parts ≠ []) {count : Nat} (enough : parts.length ≤ count) (rest : List Char) :
    readSequence read close count (List.intercalate [','] (parts.map text) ++ close :: rest) =
      some (parts.map item, rest) := by
  obtain ⟨shown, notComma, unlike⟩ := closes.unlike
  induction parts generalizing count with
  | nil => contradiction
  | cons part parts ih =>
    cases count with
    | zero => contradiction
    | succ count =>
      have first := each part List.mem_cons_self
      cases parts with
      | nil =>
        simp only [List.map_cons, List.map_nil, List.intercalate_singleton, readSequence,
          first _ (notAhead_cons unlike), Option.bind_eq_bind, Option.bind_some,
          skipBlanks_cons shown, ↓reduceIte]
      | cons next others =>
        have behind := ih (fun other among => each other (List.mem_cons_of_mem _ among))
          (List.cons_ne_nil _ _) (Nat.le_of_succ_le_succ enough)
        have commaShown : isBlank ',' = false := rfl
        have commaUnlike : goesOnNumber ',' = false := rfl
        simp only [List.map_cons] at behind
        simp only [List.map_cons, List.intercalate_cons_cons, List.append_assoc,
          List.nil_append, List.cons_append, readSequence,
          first _ (notAhead_cons commaUnlike), Option.bind_eq_bind, Option.bind_some,
          skipBlanks_cons commaShown, notComma, behind, ↓reduceIte]

/-- Each part stands among all of them. -/
theorem length_le_intercalate (text : β → List Char) {part : β} (among : part ∈ parts) :
    (text part).length ≤ (List.intercalate [','] (parts.map text)).length := by
  induction parts with
  | nil => contradiction
  | cons other parts ih =>
    cases parts with
    | nil =>
      obtain rfl := List.mem_singleton.mp among
      have alone : List.intercalate [','] ([part].map text) = text part :=
        List.intercalate_singleton
      exact Nat.le_of_eq (congrArg List.length alone).symm
    | cons next others =>
      simp only [List.map_cons, List.intercalate_cons_cons, List.length_append] at ih ⊢
      obtain rfl | further := List.mem_cons.mp among
      · omega
      · have inside := ih further
        omega

/-- There are no more parts than characters. -/
theorem count_le_intercalate (opening : ∀ part ∈ parts, Opens (text part)) :
    parts.length ≤ (List.intercalate [','] (parts.map text)).length := by
  induction parts with
  | nil => exact Nat.zero_le _
  | cons part parts ih =>
    obtain ⟨first, others, same, -⟩ := opening part List.mem_cons_self
    have behind := ih fun other among => opening other (List.mem_cons_of_mem _ among)
    cases parts with
    | nil =>
      simp only [List.map_cons, List.map_nil, List.intercalate_singleton, same, List.length_cons,
        List.length_nil]
      omega
    | cons next others =>
      simp only [List.map_cons, List.intercalate_cons_cons, List.length_append, same,
        List.length_cons, List.length_nil] at behind ⊢
      omega

/-- What is enclosed begins with its first part. -/
theorem intercalate_opens (opening : ∀ part ∈ parts, Opens (text part)) (present : parts ≠ []) :
    Opens (List.intercalate [','] (parts.map text)) := by
  cases parts with
  | nil => contradiction
  | cons part parts =>
    obtain ⟨first, others, same, isOpening⟩ := opening part List.mem_cons_self
    cases parts with
    | nil =>
      refine ⟨first, others, ?_, isOpening⟩
      rw [List.map_cons, List.map_nil, List.intercalate_singleton, same]
    | cons next further =>
      refine ⟨first, others ++ ([','] ++ List.intercalate [','] ((next :: further).map text)), ?_,
        isOpening⟩
      rw [List.map_cons, List.map_cons, List.intercalate_cons_cons, same, List.cons_append,
        List.cons_append, List.append_assoc]

/-- Enclosed parts are read, whether there are any or not. -/
theorem readEnclosed_intercalate (closes : Closes close)
    (each : ∀ part ∈ parts, ∀ rest, Stops rest →
      read (text part ++ rest) = some (item part, rest))
    (opening : ∀ part ∈ parts, Opens (text part)) (rest : List Char) :
    readEnclosed read close (List.intercalate [','] (parts.map text) ++ close :: rest) =
      some (parts.map item, rest) := by
  by_cases present : parts = []
  · subst present
    simp only [List.map_nil, List.intercalate_nil, List.nil_append, readEnclosed,
      skipBlanks_cons closes.unlike.1, ↓reduceIte]
  · obtain ⟨first, others, same, isOpening⟩ := intercalate_opens opening present
    obtain ⟨shown, notClose⟩ := closes.ne_of_opens isOpening
    have enough : parts.length ≤
        (List.intercalate [','] (parts.map text) ++ close :: rest).length := by
      rw [List.length_append]
      exact Nat.le_add_right_of_le (count_le_intercalate opening)
    have sequence := readSequence_intercalate closes each present enough rest
    rw [same] at sequence ⊢
    rw [readEnclosed, List.cons_append, skipBlanks_cons shown]
    simp only [notClose, ↓reduceIte]
    exact sequence

end Sequences

/-- An entry of an object is read where the text behind its name is. -/
theorem readEntry_write {read : List Char → Option (Tree × List Char)} {entry : NamedPart}
    (named : WritesString entry.naming entry.name) {rest : List Char}
    (behind : read (entry.text ++ rest) = some (entry.tree, rest)) :
    readEntry read (entry.write ++ rest) = some ((entry.name, entry.tree), rest) := by
  obtain ⟨inside, same, reads⟩ := named.exists_read
  have quoteShown : isBlank '"' = false := rfl
  have colonShown : isBlank ':' = false := rfl
  simp only [NamedPart.write, same, List.append_assoc, List.cons_append, readEntry,
    skipBlanks_cons quoteShown, reads, Option.bind_eq_bind, Option.bind_some,
    skipBlanks_cons colonShown, behind]

/-- A number is read wherever a text is expected. -/
theorem readTree_number (numeral : Numeral) {rest : List Char} (stops : Stops rest)
    (levels : Nat) :
    readTree (levels + 1) (numeral.write ++ rest) = some (numeral.denoted, rest) := by
  have read := readNumber_write numeral stops
  obtain ⟨first, others, same, kind⟩ := numeral.exists_cons
  have isOpening : opens first = true := by
    obtain rfl | isDigit := kind
    · rfl
    · exact opens_of_isDigit isDigit
  have shown : isBlank first = false := (Closes.ne_of_opens (.inl rfl) isOpening).1
  have unlike (mark : Char) (notDigit : mark.isDigit = false) (notMinus : mark ≠ '-') :
      first ≠ mark := by
    obtain rfl | isDigit := kind
    · exact notMinus.symm
    · exact digit_ne isDigit notDigit
  rw [same, List.cons_append] at read ⊢
  rw [readTree, skipBlanks_cons shown]
  split
  case h_7 => exact read
  all_goals
    rename_i ahead
    exact absurd (List.cons.inj ahead).1 (unlike _ rfl (by decide))

/-- A text is read as the tree that it denotes, in front of anything that does not go on with a
number. -/
theorem readTree_append {text : List Char} {tree : Tree} (writes : Writes text tree) :
    ∀ {levels : Nat} {rest : List Char}, text.length ≤ levels → Stops rest →
      readTree levels (text ++ rest) = some (tree, rest) := by
  induction writes with
  | null | truth | falsehood =>
    intro levels rest enough stops
    cases levels with
    | zero => contradiction
    | succ levels => rfl
  | number numeral =>
    intro levels rest enough stops
    obtain ⟨first, others, same, -⟩ := numeral.exists_cons
    cases levels with
    | zero =>
      rw [same] at enough
      contradiction
    | succ levels => exact readTree_number numeral stops levels
  | text writes =>
    intro levels rest enough stops
    obtain ⟨inside, rfl, reads⟩ := writes.exists_read
    cases levels with
    | zero => contradiction
    | succ levels =>
      have quoteShown : isBlank '"' = false := rfl
      rw [List.cons_append, readTree, skipBlanks_cons quoteShown]
      simp only [reads, Option.map_some]
  | array items each ih =>
    intro levels rest enough stops
    cases levels with
    | zero => contradiction
    | succ levels =>
      have bracketShown : isBlank '[' = false := rfl
      have inside : ∀ item ∈ items, ∀ rest, Stops rest →
          readTree levels (item.text ++ rest) = some (item.tree, rest) := by
        intro item among rest stops
        have within := length_le_intercalate Part.text among
        simp only [List.length_cons, List.length_append, List.length_nil] at enough
        exact ih item among (by omega) stops
      have reads := readEnclosed_intercalate (.inl rfl) inside
        (fun item among => (each item among).opens) rest
      rw [List.cons_append, List.append_assoc, readTree, skipBlanks_cons bracketShown]
      simp only [List.singleton_append, reads, Option.map_some]
  | object entries named each ih =>
    intro levels rest enough stops
    cases levels with
    | zero => contradiction
    | succ levels =>
      have braceShown : isBlank '\x7b' = false := rfl
      have inside : ∀ entry ∈ entries, ∀ rest, Stops rest →
          readEntry (readTree levels) (entry.write ++ rest) =
            some ((entry.name, entry.tree), rest) := by
        intro entry among rest stops
        have within := length_le_intercalate NamedPart.write among
        simp only [NamedPart.write, List.length_append, List.length_cons] at within
        simp only [List.length_cons, List.length_append, List.length_nil] at enough
        exact readEntry_write (named entry among) (ih entry among (by omega) stops)
      have opening : ∀ entry ∈ entries, Opens entry.write := by
        intro entry among
        obtain ⟨characters, same, -⟩ := (named entry among).exists_read
        exact ⟨_, _, by rw [NamedPart.write, same, List.cons_append], rfl⟩
      have reads := readEnclosed_intercalate (.inr rfl) inside opening rest
      rw [List.cons_append, List.append_assoc, readTree, skipBlanks_cons braceShown]
      simp only [List.singleton_append, reads, Option.map_some]

/-- A text of the grammar is read as the tree that it denotes. -/
theorem read?_of_writes {text : String} {tree : Tree} (writes : Writes text.toList tree) :
    read? text = some tree := by
  have reads := readTree_append writes (Nat.le_refl _) (notAhead_nil goesOnNumber)
  rw [List.append_nil] at reads
  rw [read?, reads]
  rfl

/-- A fraction and an exponent are one number, and a pair of escaped units is one character. -/
example : read? "[1.50e2,\"\\u00e9\\ud83d\\ude00\\/\"]" =
    some (.array [.number 150 0, .text "é😀/"]) := rfl

end BrokerWire.Json
