import BrokerWire.Text.Utf8

/-!
# Text and its bytes

Bytes are read as text exactly when they are the bytes of that text: every character is read back
from its bytes, and what has been read as a character was written as that character. Overlong
forms, surrogates and numbers above the last character are never read. The bytes are those of the
standard library.
-/
namespace BrokerWire.Utf8

/-- The bytes that open a sequence of two. -/
theorem Lead.ofByte_two {byte : UInt8} (least : 0xC2 ≤ byte.toNat) (below : byte.toNat < 0xE0) :
    Lead.ofByte byte = .opens ⟨1, 1, 0x80, 0xBF, byte.toNat - 0xC0⟩ := by
  simp only [Lead.ofByte]
  rw [if_neg (by omega), if_neg (by omega), if_pos below]

/-- The bytes that open a sequence of three. -/
theorem Lead.ofByte_three {byte : UInt8} (least : 0xE0 ≤ byte.toNat) (below : byte.toNat < 0xF0) :
    Lead.ofByte byte = .opens ⟨1, 2, if byte.toNat = 0xE0 then 0xA0 else 0x80,
      if byte.toNat = 0xED then 0x9F else 0xBF, byte.toNat - 0xE0⟩ := by
  simp only [Lead.ofByte]
  rw [if_neg (by omega), if_neg (by omega), if_neg (by omega)]
  by_cases first : byte.toNat = 0xE0
  · simp [first]
  · by_cases surrogates : byte.toNat = 0xED
    · simp [surrogates]
    · simp [first, surrogates, below]

/-- The bytes that open a sequence of four. -/
theorem Lead.ofByte_four {byte : UInt8} (least : 0xF0 ≤ byte.toNat) (below : byte.toNat < 0xF5) :
    Lead.ofByte byte = .opens ⟨1, 3, if byte.toNat = 0xF0 then 0x90 else 0x80,
      if byte.toNat = 0xF4 then 0x8F else 0xBF, byte.toNat - 0xF0⟩ := by
  simp only [Lead.ofByte]
  rw [if_neg (by omega), if_neg (by omega), if_neg (by omega), if_neg (by omega),
    if_neg (by omega), if_neg (by omega)]
  by_cases first : byte.toNat = 0xF0
  · simp [first]
  · by_cases last : byte.toNat = 0xF4
    · simp [last]
    · have middle : byte.toNat < 0xF4 := by omega
      simp [first, last, middle]

/-- A byte below 0x80 is a character of its own. -/
theorem Lead.ofByte_one {byte : UInt8} (below : byte.toNat < 0x80) :
    Lead.ofByte byte = .single := by
  simp only [Lead.ofByte]
  rw [if_pos below]

/-- The bytes that open nothing. -/
theorem Lead.ofByte_none {byte : UInt8}
    (outside : 0x80 ≤ byte.toNat ∧ byte.toNat < 0xC2 ∨ 0xF5 ≤ byte.toNat) :
    Lead.ofByte byte = .invalid := by
  simp only [Lead.ofByte]
  rw [if_neg (by omega)]
  by_cases low : byte.toNat < 0xC2
  · rw [if_pos low]
  · rw [if_neg low, if_neg (by omega), if_neg (by omega), if_neg (by omega), if_neg (by omega),
      if_neg (by omega), if_neg (by omega), if_neg (by omega)]

/-- Every byte is a character of its own, opens a sequence of two, three or four, or nothing. -/
theorem Lead.ofByte_cases (byte : UInt8) :
    byte.toNat < 0x80 ∨ (0xC2 ≤ byte.toNat ∧ byte.toNat < 0xE0) ∨
      (0xE0 ≤ byte.toNat ∧ byte.toNat < 0xF0) ∨ (0xF0 ≤ byte.toNat ∧ byte.toNat < 0xF5) ∨
      Lead.ofByte byte = .invalid := by
  by_cases outside : 0x80 ≤ byte.toNat ∧ byte.toNat < 0xC2 ∨ 0xF5 ≤ byte.toNat
  · have invalid := Lead.ofByte_none outside
    simp only [invalid, or_true]
  · omega

/-- The range of a second byte, narrowed behind one first byte from below and behind another from
above. -/
theorem narrowed_iff {first second least raised greatest lowered : Nat} (up : 0x80 ≤ raised)
    (down : lowered ≤ 0xBF) :
    ((if first = least then raised else 0x80) ≤ second ∧
        second ≤ if first = greatest then lowered else 0xBF) ↔
      (0x80 ≤ second ∧ second ≤ 0xBF) ∧ (first = least → raised ≤ second) ∧
        (first = greatest → second ≤ lowered) := by
  by_cases atLeast : first = least
  · by_cases atGreatest : first = greatest
    · rw [if_pos atLeast, if_pos atGreatest]
      omega
    · rw [if_pos atLeast, if_neg atGreatest]
      omega
  · by_cases atGreatest : first = greatest
    · rw [if_neg atLeast, if_pos atGreatest]
      omega
    · rw [if_neg atLeast, if_neg atGreatest]
      omega

/-- The last byte of a sequence makes its character. -/
theorem scan_last {index : Nat} {sequence : Sequence} {byte : UInt8} (rest : Bytes)
    (last : sequence.missing = 1)
    (within : sequence.low ≤ byte.toNat ∧ byte.toNat ≤ sequence.high) :
    scan index (some sequence) (byte :: rest) =
      (scan (index + sequence.taken + 1) none rest).map
        (Char.ofNat (64 * sequence.code + byte.toNat % 64) :: ·) := by
  simp only [scan, within, and_self, ↓reduceIte, last]

/-- Any other byte of a sequence leaves it open. -/
theorem scan_inside {index : Nat} {sequence : Sequence} {byte : UInt8} (rest : Bytes)
    (more : sequence.missing ≠ 1)
    (within : sequence.low ≤ byte.toNat ∧ byte.toNat ≤ sequence.high) :
    scan index (some sequence) (byte :: rest) =
      scan index (some ⟨sequence.taken + 1, sequence.missing - 1, 0x80, 0xBF,
        64 * sequence.code + byte.toNat % 64⟩) rest := by
  simp only [scan, within, and_self, ↓reduceIte, more]

/-- A byte that opens a sequence is read into it. -/
theorem scan_opens {index : Nat} {sequence : Sequence} {byte : UInt8} (rest : Bytes)
    (opens : Lead.ofByte byte = .opens sequence) :
    scan index none (byte :: rest) = scan index (some sequence) rest := by
  simp only [scan, opens]

/-- Two bytes that stand for a character. -/
theorem scan_two {index : Nat} {first second : UInt8} (rest : Bytes)
    (lead : 0xC2 ≤ first.toNat ∧ first.toNat < 0xE0)
    (tail : 0x80 ≤ second.toNat ∧ second.toNat ≤ 0xBF) :
    scan index none (first :: second :: rest) =
      (scan (index + 2) none rest).map
        (Char.ofNat (64 * (first.toNat - 0xC0) + second.toNat % 64) :: ·) := by
  rw [scan_opens _ (Lead.ofByte_two lead.1 lead.2), scan_last _ rfl tail]

/-- Three bytes that stand for a character. -/
theorem scan_three {index : Nat} {first second third : UInt8} (rest : Bytes)
    (lead : 0xE0 ≤ first.toNat ∧ first.toNat < 0xF0)
    (within : (if first.toNat = 0xE0 then 0xA0 else 0x80) ≤ second.toNat ∧
      second.toNat ≤ if first.toNat = 0xED then 0x9F else 0xBF)
    (tail : 0x80 ≤ third.toNat ∧ third.toNat ≤ 0xBF) :
    scan index none (first :: second :: third :: rest) =
      (scan (index + 3) none rest).map (Char.ofNat (64 * (64 * (first.toNat - 0xE0) +
        second.toNat % 64) + third.toNat % 64) :: ·) := by
  rw [scan_opens _ (Lead.ofByte_three lead.1 lead.2), scan_inside _ (by simp) within,
    scan_last _ rfl tail]

/-- Four bytes that stand for a character. -/
theorem scan_four {index : Nat} {first second third fourth : UInt8} (rest : Bytes)
    (lead : 0xF0 ≤ first.toNat ∧ first.toNat < 0xF5)
    (within : (if first.toNat = 0xF0 then 0x90 else 0x80) ≤ second.toNat ∧
      second.toNat ≤ if first.toNat = 0xF4 then 0x8F else 0xBF)
    (tail : 0x80 ≤ third.toNat ∧ third.toNat ≤ 0xBF)
    (last : 0x80 ≤ fourth.toNat ∧ fourth.toNat ≤ 0xBF) :
    scan index none (first :: second :: third :: fourth :: rest) =
      (scan (index + 4) none rest).map (Char.ofNat (64 * (64 * (64 * (first.toNat - 0xF0) +
        second.toNat % 64) + third.toNat % 64) + fourth.toNat % 64) :: ·) := by
  rw [scan_opens _ (Lead.ofByte_four lead.1 lead.2), scan_inside _ (by simp) within,
    scan_inside _ (by simp) tail, scan_last _ rfl last]

/-- A number below 256 is the number of its byte. -/
theorem toNat_byte {number : Nat} (small : number < 256) : (UInt8.ofNat number).toNat = number :=
  UInt8.toNat_ofNat_of_lt' small

/-- No character has the number of a surrogate or one above the last character. -/
theorem char_valid (char : Char) :
    char.toNat < 0xD800 ∨ 0xDFFF < char.toNat ∧ char.toNat < 0x110000 := char.valid

/-- A character is read back from its bytes, in front of any others. -/
theorem scan_encodeChar (index : Nat) (char : Char) (rest : Bytes) :
    scan index none (encodeChar char ++ rest) =
      (scan (index + (encodeChar char).length) none rest).map (char :: ·) := by
  have valid := char_valid char
  have whole := Char.ofNat_toNat char
  simp only [encodeChar]
  generalize char.toNat = n at valid whole
  by_cases one : n < 0x80
  · simp only [if_pos one, List.cons_append, List.nil_append, List.length_singleton]
    have byte := toNat_byte (show n < 256 by omega)
    have single : Lead.ofByte (UInt8.ofNat n) = .single := Lead.ofByte_one (by omega)
    simp only [scan, single, byte, whole]
  by_cases two : n < 0x800
  · simp only [if_neg one, if_pos two, List.cons_append, List.nil_append, List.length_cons,
      List.length_nil]
    have first := toNat_byte (show 0xC0 + n / 64 < 256 by omega)
    have second := toNat_byte (show 0x80 + n % 64 < 256 by omega)
    rw [scan_two _ (by omega) (by omega), first, second]
    rw [show 64 * (0xC0 + n / 64 - 0xC0) + (0x80 + n % 64) % 64 = n by omega, whole]
  by_cases three : n < 0x10000
  · simp only [if_neg one, if_neg two, if_pos three, List.cons_append, List.nil_append,
      List.length_cons, List.length_nil]
    have first := toNat_byte (show 0xE0 + n / 4096 < 256 by omega)
    have second := toNat_byte (show 0x80 + n / 64 % 64 < 256 by omega)
    have third := toNat_byte (show 0x80 + n % 64 < 256 by omega)
    rw [scan_three _ (by omega) ((narrowed_iff (by decide) (by decide)).mpr (by omega)) (by omega),
      first, second, third]
    rw [show 64 * (64 * (0xE0 + n / 4096 - 0xE0) + (0x80 + n / 64 % 64) % 64) +
      (0x80 + n % 64) % 64 = n by omega, whole]
  · simp only [if_neg one, if_neg two, if_neg three, List.cons_append, List.nil_append,
      List.length_cons, List.length_nil]
    have first := toNat_byte (show 0xF0 + n / 262144 < 256 by omega)
    have second := toNat_byte (show 0x80 + n / 4096 % 64 < 256 by omega)
    have third := toNat_byte (show 0x80 + n / 64 % 64 < 256 by omega)
    have fourth := toNat_byte (show 0x80 + n % 64 < 256 by omega)
    rw [scan_four _ (by omega) ((narrowed_iff (by decide) (by decide)).mpr (by omega)) (by omega)
      (by omega), first, second, third, fourth]
    rw [show 64 * (64 * (64 * (0xF0 + n / 262144 - 0xF0) + (0x80 + n / 4096 % 64) % 64) +
      (0x80 + n / 64 % 64) % 64) + (0x80 + n % 64) % 64 = n by omega, whole]

/-- Characters are read back from their bytes. -/
theorem scan_encode (index : Nat) (chars : List Char) :
    scan index none (chars.flatMap encodeChar) = .ok chars := by
  induction chars generalizing index with
  | nil => rfl
  | cons char chars ih =>
    rw [List.flatMap_cons, scan_encodeChar, ih]
    rfl

/-- A text is read back from its bytes. -/
theorem decode_encode (text : String) : decode (encode text) = .ok text := by
  simp [decode, encode, scan_encode, Except.map]

/-- A number that some character has is the number of the character made from it. -/
theorem toNat_ofNat {number : Nat} (valid : number.isValidChar) :
    (Char.ofNat number).toNat = number := by
  unfold Char.ofNat
  rw [dif_pos valid]
  rfl

/-- What has been read from the last byte of a sequence on. -/
theorem last_of_scan {index : Nat} {sequence : Sequence} {bytes : Bytes} {chars : List Char}
    (read : scan index (some sequence) bytes = .ok chars) (last : sequence.missing = 1) :
    ∃ byte rest others, bytes = byte :: rest ∧
      (sequence.low ≤ byte.toNat ∧ byte.toNat ≤ sequence.high) ∧
      chars = Char.ofNat (64 * sequence.code + byte.toNat % 64) :: others ∧
      scan (index + sequence.taken + 1) none rest = .ok others := by
  cases bytes with
  | nil => contradiction
  | cons byte rest =>
    by_cases within : sequence.low ≤ byte.toNat ∧ byte.toNat ≤ sequence.high
    · rw [scan_last rest last within] at read
      cases others : scan (index + sequence.taken + 1) none rest with
      | error fault =>
        rw [others] at read
        contradiction
      | ok following =>
        rw [others] at read
        exact ⟨byte, rest, following, rfl, within, (Except.ok.inj read).symm, others⟩
    · simp only [scan, if_neg within] at read
      contradiction

/-- What has been read from any other byte of a sequence on. -/
theorem inside_of_scan {index : Nat} {sequence : Sequence} {bytes : Bytes} {chars : List Char}
    (read : scan index (some sequence) bytes = .ok chars) (more : sequence.missing ≠ 1) :
    ∃ byte rest, bytes = byte :: rest ∧
      (sequence.low ≤ byte.toNat ∧ byte.toNat ≤ sequence.high) ∧
      scan index (some ⟨sequence.taken + 1, sequence.missing - 1, 0x80, 0xBF,
        64 * sequence.code + byte.toNat % 64⟩) rest = .ok chars := by
  cases bytes with
  | nil => contradiction
  | cons byte rest =>
    by_cases within : sequence.low ≤ byte.toNat ∧ byte.toNat ≤ sequence.high
    · rw [scan_inside rest more within] at read
      exact ⟨byte, rest, rfl, within, read⟩
    · simp only [scan, if_neg within] at read
      contradiction

/-- The one byte of a character that has no others. -/
theorem encodeChar_one {first : UInt8} (small : first.toNat < 0x80) :
    encodeChar (Char.ofNat first.toNat) = [first] := by
  simp only [encodeChar, toNat_ofNat (show first.toNat.isValidChar from Or.inl (by omega))]
  rw [if_pos small, UInt8.ofNat_toNat]

/-- The two bytes of the character that they stand for. -/
theorem encodeChar_two {first second : UInt8}
    (lead : 0xC2 ≤ first.toNat ∧ first.toNat < 0xE0)
    (tail : 0x80 ≤ second.toNat ∧ second.toNat ≤ 0xBF) :
    encodeChar (Char.ofNat (64 * (first.toNat - 0xC0) + second.toNat % 64)) = [first, second] := by
  generalize number : 64 * (first.toNat - 0xC0) + second.toNat % 64 = n
  simp only [encodeChar, toNat_ofNat (show n.isValidChar from Or.inl (by omega))]
  rw [if_neg (by omega), if_pos (by omega), show 0xC0 + n / 64 = first.toNat by omega,
    show 0x80 + n % 64 = second.toNat by omega, UInt8.ofNat_toNat, UInt8.ofNat_toNat]

/-- The three bytes of the character that they stand for. -/
theorem encodeChar_three {first second third : UInt8}
    (lead : 0xE0 ≤ first.toNat ∧ first.toNat < 0xF0)
    (within : (if first.toNat = 0xE0 then 0xA0 else 0x80) ≤ second.toNat ∧
      second.toNat ≤ if first.toNat = 0xED then 0x9F else 0xBF)
    (tail : 0x80 ≤ third.toNat ∧ third.toNat ≤ 0xBF) :
    encodeChar (Char.ofNat (64 * (64 * (first.toNat - 0xE0) + second.toNat % 64) +
      third.toNat % 64)) = [first, second, third] := by
  rw [narrowed_iff (by decide) (by decide)] at within
  generalize number : 64 * (64 * (first.toNat - 0xE0) + second.toNat % 64) + third.toNat % 64 = n
  have least : 0x800 ≤ n := by omega
  have valid : n.isValidChar := by
    by_cases before : n < 0xD800
    · exact Or.inl before
    · exact Or.inr (by omega)
  simp only [encodeChar, toNat_ofNat valid]
  rw [if_neg (by omega), if_neg (by omega), if_pos (by omega),
    show 0xE0 + n / 4096 = first.toNat by omega,
    show 0x80 + n / 64 % 64 = second.toNat by omega,
    show 0x80 + n % 64 = third.toNat by omega,
    UInt8.ofNat_toNat, UInt8.ofNat_toNat, UInt8.ofNat_toNat]

/-- The four bytes of the character that they stand for. -/
theorem encodeChar_four {first second third fourth : UInt8}
    (lead : 0xF0 ≤ first.toNat ∧ first.toNat < 0xF5)
    (within : (if first.toNat = 0xF0 then 0x90 else 0x80) ≤ second.toNat ∧
      second.toNat ≤ if first.toNat = 0xF4 then 0x8F else 0xBF)
    (tail : 0x80 ≤ third.toNat ∧ third.toNat ≤ 0xBF)
    (last : 0x80 ≤ fourth.toNat ∧ fourth.toNat ≤ 0xBF) :
    encodeChar (Char.ofNat (64 * (64 * (64 * (first.toNat - 0xF0) + second.toNat % 64) +
      third.toNat % 64) + fourth.toNat % 64)) = [first, second, third, fourth] := by
  rw [narrowed_iff (by decide) (by decide)] at within
  generalize number : 64 * (64 * (64 * (first.toNat - 0xF0) + second.toNat % 64) +
    third.toNat % 64) + fourth.toNat % 64 = n
  have least : 0x10000 ≤ n := by omega
  have most : n < 0x110000 := by omega
  simp only [encodeChar, toNat_ofNat (show n.isValidChar from Or.inr ⟨by omega, most⟩)]
  rw [if_neg (by omega), if_neg (by omega), if_neg (by omega),
    show 0xF0 + n / 262144 = first.toNat by omega,
    show 0x80 + n / 4096 % 64 = second.toNat by omega,
    show 0x80 + n / 64 % 64 = third.toNat by omega,
    show 0x80 + n % 64 = fourth.toNat by omega,
    UInt8.ofNat_toNat, UInt8.ofNat_toNat, UInt8.ofNat_toNat, UInt8.ofNat_toNat]

/-- The first of the characters read from bytes is written in the first of those bytes. -/
theorem first_of_scan {index : Nat} {byte : UInt8} {bytes : Bytes} {chars : List Char}
    (read : scan index none (byte :: bytes) = .ok chars) :
    ∃ char others rest place, byte :: bytes = encodeChar char ++ rest ∧
      chars = char :: others ∧ scan place none rest = .ok others := by
  rcases Lead.ofByte_cases byte with one | two | three | four | invalid
  · have lead := Lead.ofByte_one one
    simp only [scan, lead] at read
    cases others : scan (index + 1) none bytes with
    | error fault =>
      rw [others] at read
      contradiction
    | ok following =>
      rw [others] at read
      refine ⟨_, following, bytes, index + 1, ?_, (Except.ok.inj read).symm, others⟩
      rw [encodeChar_one one]
      rfl
  · rw [scan_opens _ (Lead.ofByte_two two.1 two.2)] at read
    obtain ⟨second, rest, others, rfl, tail, rfl, following⟩ := last_of_scan read rfl
    exact ⟨_, others, rest, _, by rw [encodeChar_two two tail]; rfl, rfl, following⟩
  · rw [scan_opens _ (Lead.ofByte_three three.1 three.2)] at read
    obtain ⟨second, bytes, rfl, within, read⟩ := inside_of_scan read (by simp)
    obtain ⟨third, rest, others, rfl, tail, rfl, following⟩ := last_of_scan read rfl
    exact ⟨_, others, rest, _, by rw [encodeChar_three three within tail]; rfl, rfl, following⟩
  · rw [scan_opens _ (Lead.ofByte_four four.1 four.2)] at read
    obtain ⟨second, bytes, rfl, within, read⟩ := inside_of_scan read (by simp)
    obtain ⟨third, bytes, rfl, tail, read⟩ := inside_of_scan read (by simp)
    obtain ⟨fourth, rest, others, rfl, last, rfl, following⟩ := last_of_scan read rfl
    exact ⟨_, others, rest, _, by rw [encodeChar_four four within tail last]; rfl, rfl,
      following⟩
  · simp only [scan, invalid] at read
    contradiction

/-- Bytes that characters have been read from are the bytes of those characters. -/
theorem eq_of_scan {index : Nat} {bytes : Bytes} {chars : List Char}
    (read : scan index none bytes = .ok chars) : bytes = chars.flatMap encodeChar := by
  induction chars generalizing index bytes with
  | nil =>
    cases bytes with
    | nil => rfl
    | cons byte bytes =>
      obtain ⟨_, _, _, _, _, impossible, _⟩ := first_of_scan read
      contradiction
  | cons char chars ih =>
    cases bytes with
    | nil =>
      have impossible := Except.ok.inj read
      contradiction
    | cons byte bytes =>
      obtain ⟨_, _, rest, _, whole, same, following⟩ := first_of_scan read
      obtain ⟨rfl, rfl⟩ := List.cons.inj same
      rw [whole, ih following]
      rfl

/-- Bytes are read as a text exactly when they are the bytes of that text. -/
theorem decode_eq_ok_iff {bytes : Bytes} {text : String} :
    decode bytes = .ok text ↔ bytes = encode text := by
  constructor
  · intro read
    cases chars : scan 0 none bytes with
    | error fault =>
      simp only [decode, chars] at read
      contradiction
    | ok written =>
      simp only [decode, chars] at read
      obtain rfl := Except.ok.inj read
      rw [eq_of_scan chars, encode, String.toList_ofList]
  · rintro rfl
    exact decode_encode text

/-- The bytes of a character are those that the standard library writes for it. -/
theorem encodeChar_eq (char : Char) : encodeChar char = String.utf8EncodeChar char := by
  have valid := char_valid char
  unfold encodeChar String.utf8EncodeChar Char.toNat at *
  generalize char.val.toNat = n at valid ⊢
  by_cases one : n < 0x80
  · rw [if_pos one, if_pos (show n ≤ 0x7F by omega)]
  rw [if_neg one, if_neg (show ¬n ≤ 0x7F by omega)]
  by_cases two : n < 0x800
  · rw [if_pos two, if_pos (show n ≤ 0x7FF by omega), show n / 64 % 0x20 = n / 64 by omega,
      Nat.add_comm 0xC0, Nat.add_comm 0x80]
  rw [if_neg two, if_neg (show ¬n ≤ 0x7FF by omega)]
  by_cases three : n < 0x10000
  · rw [if_pos three, if_pos (show n ≤ 0xFFFF by omega), show n / 4096 % 0x10 = n / 4096 by omega,
      Nat.add_comm 0xE0, Nat.add_comm 0x80 (n / 64 % 64), Nat.add_comm 0x80 (n % 64)]
  rw [if_neg three, if_neg (show ¬n ≤ 0xFFFF by omega),
    show n / 262144 % 0x08 = n / 262144 by omega, Nat.add_comm 0xF0,
    Nat.add_comm 0x80 (n / 4096 % 64), Nat.add_comm 0x80 (n / 64 % 64),
    Nat.add_comm 0x80 (n % 64)]

/-- The bytes of a text are those that the standard library writes for it. -/
theorem encode_eq_toByteArray (text : String) :
    encode text = text.toByteArray.data.toList := by
  unfold encode
  rw [show encodeChar = String.utf8EncodeChar from funext encodeChar_eq,
    ← String.utf8Encode_toList]
  simp [List.utf8Encode]

/-- Bytes that no text is written in are not read as text. -/
theorem decode_eq_error {bytes : Bytes} (unwritten : ∀ text, bytes ≠ encode text) :
    ∃ fault, decode bytes = .error fault := by
  cases read : decode bytes with
  | error fault => exact ⟨fault, rfl⟩
  | ok text => exact absurd (decode_eq_ok_iff.mp read) (unwritten text)

end BrokerWire.Utf8
