import BrokerWire.Bytes

/-!
# Words

A word is a natural number written in a fixed number of base-256 digits. The frame, its headers
and its body put the least digit first; MessagePack documents put it last. One pair of functions
serves every width.
-/
namespace BrokerWire.Word

/-- How many numbers there are of a width. -/
def limit : Nat → Nat
  | 0 => 1
  | width + 1 => 256 * limit width

/-- The digits of a number, least first; digits above the width are dropped. -/
def little : Nat → Nat → Bytes
  | 0, _ => []
  | width + 1, value => UInt8.ofNat value :: little width (value / 256)

/-- The number whose digits, least first, are these bytes. -/
def ofLittle : Bytes → Nat
  | [] => 0
  | digit :: rest => digit.toNat + 256 * ofLittle rest

/-- The digits of a number, greatest first. -/
def big (width value : Nat) : Bytes := (little width value).reverse

/-- The number whose digits, greatest first, are these bytes. -/
def ofBig (bytes : Bytes) : Nat := ofLittle bytes.reverse

/-- A word takes exactly its width. -/
@[simp] theorem length_little (width value : Nat) : (little width value).length = width := by
  induction width generalizing value with
  | zero => rfl
  | succ width ih => simp [little, ih]

/-- A word takes exactly its width, whichever digit comes first. -/
@[simp] theorem length_big (width value : Nat) : (big width value).length = width := by
  simp [big]

/-- A number that fits its width is read back. -/
theorem ofLittle_little {width value : Nat} (fits : value < limit width) :
    ofLittle (little width value) = value := by
  induction width generalizing value with
  | zero =>
    obtain rfl : value = 0 := Nat.lt_one_iff.mp fits
    rfl
  | succ width ih =>
    have high : value / 256 < limit width := Nat.div_lt_of_lt_mul fits
    simp only [little, ofLittle, ih high, UInt8.toNat_ofNat']
    omega

/-- Every byte string is the word of its own number. -/
theorem little_ofLittle (bytes : Bytes) : little bytes.length (ofLittle bytes) = bytes := by
  induction bytes with
  | nil => rfl
  | cons digit rest ih =>
    have small := digit.toNat_lt
    simp only [List.length_cons, little, ofLittle]
    rw [show (digit.toNat + 256 * ofLittle rest) / 256 = ofLittle rest by omega, ih]
    congr 1
    apply UInt8.toNat_inj.mp
    simp only [UInt8.toNat_ofNat']
    omega

/-- A number read from bytes fits their count. -/
theorem ofLittle_lt (bytes : Bytes) : ofLittle bytes < limit bytes.length := by
  induction bytes with
  | nil => exact Nat.zero_lt_one
  | cons digit rest ih =>
    have small := digit.toNat_lt
    simp only [ofLittle, List.length_cons, limit]
    omega

/-- A number that fits its width is read back with the greatest digit first. -/
theorem ofBig_big {width value : Nat} (fits : value < limit width) :
    ofBig (big width value) = value := by
  simp [ofBig, big, ofLittle_little fits]

/-- Every byte string is the word of its own number, greatest digit first. -/
theorem big_ofBig (bytes : Bytes) : big bytes.length (ofBig bytes) = bytes := by
  have whole := little_ofLittle bytes.reverse
  simp only [List.length_reverse] at whole
  simp [big, ofBig, whole]

/-- A number read greatest digit first fits the count of its bytes. -/
theorem ofBig_lt (bytes : Bytes) : ofBig bytes < limit bytes.length := by
  simpa [ofBig] using ofLittle_lt bytes.reverse

/-- Take a word with its least digit first. -/
def readLittle (width : Nat) (bytes : Bytes) : Option (Nat × Bytes) :=
  (Bytes.split? width bytes).map fun (digits, rest) => (ofLittle digits, rest)

/-- Take a word with its greatest digit first. -/
def readBig (width : Nat) (bytes : Bytes) : Option (Nat × Bytes) :=
  (Bytes.split? width bytes).map fun (digits, rest) => (ofBig digits, rest)

/-- A number that fits its width is read back from in front of any bytes. -/
theorem readLittle_little {width value : Nat} (fits : value < limit width) (rest : Bytes) :
    readLittle width (little width value ++ rest) = some (value, rest) := by
  have taken := Bytes.split?_append (little width value) rest
  simp only [length_little] at taken
  simp [readLittle, taken, ofLittle_little fits]

/-- A number that fits its width is read back, greatest digit first, from in front of any bytes. -/
theorem readBig_big {width value : Nat} (fits : value < limit width) (rest : Bytes) :
    readBig width (big width value ++ rest) = some (value, rest) := by
  have taken := Bytes.split?_append (big width value) rest
  simp only [length_big] at taken
  simp [readBig, taken, ofBig_big fits]

/-- What is read is followed by exactly the bytes handed back. -/
theorem eq_of_readLittle {width value : Nat} {bytes rest : Bytes}
    (read : readLittle width bytes = some (value, rest)) :
    bytes = little width value ++ rest ∧ value < limit width := by
  simp only [readLittle, Option.map_eq_some_iff, Prod.mk.injEq] at read
  obtain ⟨⟨digits, tail⟩, taken, rfl, rfl⟩ := read
  obtain ⟨rfl, rfl⟩ := Bytes.split?_eq_some_iff.mp taken
  exact ⟨by rw [little_ofLittle], ofLittle_lt digits⟩

/-- What is read greatest digit first is followed by exactly the bytes handed back. -/
theorem eq_of_readBig {width value : Nat} {bytes rest : Bytes}
    (read : readBig width bytes = some (value, rest)) :
    bytes = big width value ++ rest ∧ value < limit width := by
  simp only [readBig, Option.map_eq_some_iff, Prod.mk.injEq] at read
  obtain ⟨⟨digits, tail⟩, taken, rfl, rfl⟩ := read
  obtain ⟨rfl, rfl⟩ := Bytes.split?_eq_some_iff.mp taken
  exact ⟨by rw [big_ofBig], ofBig_lt digits⟩

/-- A word cannot be read exactly when fewer bytes are left than its width. -/
theorem readLittle_eq_none_iff {width : Nat} {bytes : Bytes} :
    readLittle width bytes = none ↔ bytes.length < width := by
  simp [readLittle, Bytes.split?_eq_none_iff]

/-- A word of two bytes, least digit first. -/
def write16 (word : UInt16) : Bytes := little 2 word.toNat

/-- A word of four bytes, least digit first. -/
def write32 (word : UInt32) : Bytes := little 4 word.toNat

/-- A word of eight bytes, least digit first. -/
def write64 (word : UInt64) : Bytes := little 8 word.toNat

/-- Take one byte. -/
def read8 : Bytes → Option (UInt8 × Bytes)
  | [] => none
  | byte :: rest => some (byte, rest)

/-- Take a word of two bytes, least digit first. -/
def read16 (bytes : Bytes) : Option (UInt16 × Bytes) :=
  (readLittle 2 bytes).map fun (number, rest) => (UInt16.ofNat number, rest)

/-- Take a word of four bytes, least digit first. -/
def read32 (bytes : Bytes) : Option (UInt32 × Bytes) :=
  (readLittle 4 bytes).map fun (number, rest) => (UInt32.ofNat number, rest)

/-- Take a word of eight bytes, least digit first. -/
def read64 (bytes : Bytes) : Option (UInt64 × Bytes) :=
  (readLittle 8 bytes).map fun (number, rest) => (UInt64.ofNat number, rest)

/-- A number that fits two bytes is written as the word of that number. -/
theorem write16_ofNat {number : Nat} (fits : number < limit 2) :
    write16 (UInt16.ofNat number) = little 2 number := by
  have same : (UInt16.ofNat number).toNat = number := UInt16.toNat_ofNat_of_lt' fits
  rw [write16, same]

/-- A number that fits four bytes is written as the word of that number. -/
theorem write32_ofNat {number : Nat} (fits : number < limit 4) :
    write32 (UInt32.ofNat number) = little 4 number := by
  have same : (UInt32.ofNat number).toNat = number := UInt32.toNat_ofNat_of_lt' fits
  rw [write32, same]

/-- A number that fits eight bytes is written as the word of that number. -/
theorem write64_ofNat {number : Nat} (fits : number < limit 8) :
    write64 (UInt64.ofNat number) = little 8 number := by
  have same : (UInt64.ofNat number).toNat = number := UInt64.toNat_ofNat_of_lt' fits
  rw [write64, same]

/-- The digits of a word of two bytes are those of its number. -/
@[simp] theorem ofLittle_write16 (word : UInt16) :
    UInt16.ofNat (ofLittle (write16 word)) = word := by
  rw [write16, ofLittle_little (show word.toNat < limit 2 from word.toNat_lt), UInt16.ofNat_toNat]

/-- The digits of a word of four bytes are those of its number. -/
@[simp] theorem ofLittle_write32 (word : UInt32) :
    UInt32.ofNat (ofLittle (write32 word)) = word := by
  rw [write32, ofLittle_little (show word.toNat < limit 4 from word.toNat_lt), UInt32.ofNat_toNat]

/-- The digits of a word of eight bytes are those of its number. -/
@[simp] theorem ofLittle_write64 (word : UInt64) :
    UInt64.ofNat (ofLittle (write64 word)) = word := by
  rw [write64, ofLittle_little (show word.toNat < limit 8 from word.toNat_lt), UInt64.ofNat_toNat]

/-- A word of two bytes is read back from in front of any bytes. -/
theorem read16_write16 (word : UInt16) (rest : Bytes) :
    read16 (write16 word ++ rest) = some (word, rest) := by
  simp [read16, write16, readLittle_little (show word.toNat < limit 2 from word.toNat_lt)]

/-- A word of four bytes is read back from in front of any bytes. -/
theorem read32_write32 (word : UInt32) (rest : Bytes) :
    read32 (write32 word ++ rest) = some (word, rest) := by
  simp [read32, write32, readLittle_little (show word.toNat < limit 4 from word.toNat_lt)]

/-- A word of eight bytes is read back from in front of any bytes. -/
theorem read64_write64 (word : UInt64) (rest : Bytes) :
    read64 (write64 word ++ rest) = some (word, rest) := by
  simp [read64, write64, readLittle_little (show word.toNat < limit 8 from word.toNat_lt)]

/-- What is read as one byte is followed by exactly the bytes handed back. -/
theorem eq_of_read8 {bytes rest : Bytes} {byte : UInt8} (read : read8 bytes = some (byte, rest)) :
    bytes = byte :: rest := by
  cases bytes with
  | nil => contradiction
  | cons first others =>
    obtain ⟨rfl, rfl⟩ := Prod.mk.inj (Option.some.inj read)
    rfl

/-- What is read as a word of two bytes is followed by exactly the bytes handed back. -/
theorem eq_of_read16 {bytes rest : Bytes} {word : UInt16}
    (read : read16 bytes = some (word, rest)) : bytes = write16 word ++ rest := by
  simp only [read16, Option.map_eq_some_iff, Prod.mk.injEq] at read
  obtain ⟨⟨number, tail⟩, taken, rfl, rfl⟩ := read
  obtain ⟨whole, fits⟩ := eq_of_readLittle taken
  rw [whole, write16_ofNat fits]

/-- What is read as a word of four bytes is followed by exactly the bytes handed back. -/
theorem eq_of_read32 {bytes rest : Bytes} {word : UInt32}
    (read : read32 bytes = some (word, rest)) : bytes = write32 word ++ rest := by
  simp only [read32, Option.map_eq_some_iff, Prod.mk.injEq] at read
  obtain ⟨⟨number, tail⟩, taken, rfl, rfl⟩ := read
  obtain ⟨whole, fits⟩ := eq_of_readLittle taken
  rw [whole, write32_ofNat fits]

/-- What is read as a word of eight bytes is followed by exactly the bytes handed back. -/
theorem eq_of_read64 {bytes rest : Bytes} {word : UInt64}
    (read : read64 bytes = some (word, rest)) : bytes = write64 word ++ rest := by
  simp only [read64, Option.map_eq_some_iff, Prod.mk.injEq] at read
  obtain ⟨⟨number, tail⟩, taken, rfl, rfl⟩ := read
  obtain ⟨whole, fits⟩ := eq_of_readLittle taken
  rw [whole, write64_ofNat fits]

/-- A word of two bytes cannot be read exactly when fewer are left. -/
theorem read16_eq_none_iff {bytes : Bytes} : read16 bytes = none ↔ bytes.length < 2 := by
  simp [read16, readLittle_eq_none_iff]

/-- Two bytes in front are a word. -/
theorem exists_write16 {bytes : Bytes} (enough : 2 ≤ bytes.length) :
    ∃ word rest, bytes = write16 word ++ rest := by
  cases taken : read16 bytes with
  | none => exact absurd (read16_eq_none_iff.mp taken) (Nat.not_lt.mpr enough)
  | some parts => exact ⟨parts.1, parts.2, eq_of_read16 taken⟩

/-- A word of four bytes cannot be read exactly when fewer are left. -/
theorem read32_eq_none_iff {bytes : Bytes} : read32 bytes = none ↔ bytes.length < 4 := by
  simp [read32, readLittle_eq_none_iff]

/-- Four bytes in front are a word. -/
theorem exists_write32 {bytes : Bytes} (enough : 4 ≤ bytes.length) :
    ∃ word rest, bytes = write32 word ++ rest := by
  cases taken : read32 bytes with
  | none => exact absurd (read32_eq_none_iff.mp taken) (Nat.not_lt.mpr enough)
  | some parts => exact ⟨parts.1, parts.2, eq_of_read32 taken⟩

/-- A word of eight bytes cannot be read exactly when fewer are left. -/
theorem read64_eq_none_iff {bytes : Bytes} : read64 bytes = none ↔ bytes.length < 8 := by
  simp [read64, readLittle_eq_none_iff]

/-- Eight bytes in front are a word. -/
theorem exists_write64 {bytes : Bytes} (enough : 8 ≤ bytes.length) :
    ∃ word rest, bytes = write64 word ++ rest := by
  cases taken : read64 bytes with
  | none => exact absurd (read64_eq_none_iff.mp taken) (Nat.not_lt.mpr enough)
  | some parts => exact ⟨parts.1, parts.2, eq_of_read64 taken⟩

end BrokerWire.Word
