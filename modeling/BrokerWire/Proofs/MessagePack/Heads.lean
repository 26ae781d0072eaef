import BrokerWire.MessagePack.Document
import BrokerWire.Proofs.MessagePack.Grammar
import BrokerWire.Proofs.Outcome

/-!
# Reading heads

The reader of heads and the formats agree in both directions: the head that a format writes is read
from in front of any bytes, and a head that has been read stands there in one of the formats.
-/
namespace BrokerWire

/-- The constructor of an integer's sign, for an integer of the signed range. -/
theorem Value.ofInt64_ofInt {number : Int} (least : -0x8000000000000000 ≤ number)
    (most : number < 0x8000000000000000) :
    Value.ofInt64 (Int64.ofInt number) = Value.ofInteger number := by
  have same := Int64.toInt_ofInt_of_le least most
  have sign : 0 ≤ Int64.ofInt number ↔ 0 ≤ number := by
    rw [Int64.le_iff_toInt_le, same]
    rfl
  unfold Value.ofInt64 Value.ofInteger
  by_cases positive : 0 ≤ number
  · rw [if_pos (sign.mpr positive), if_pos positive]
    congr 1
    obtain ⟨natural, rfl⟩ := Int.eq_ofNat_of_zero_le positive
    rw [Int64.ofInt_eq_ofNat, Int.toNat_natCast, Int64.toUInt64_ofNat']
  · rw [if_neg (fun other => positive (sign.mp other)), if_neg positive]

namespace MessagePack

/-- The marker in front decides how a head is read. -/
theorem readHead_toByte (marker : Marker) (rest : Bytes) :
    readHead (marker.toByte :: rest) = marker.readHead rest := by
  simp only [readHead, readMarker, Marker.ofByte_toByte]
  rfl

/-- A number that fits its width is read back. -/
theorem readNumber_big {width number : Nat} (fits : number < Word.limit width) (rest : Bytes) :
    readNumber width (Word.big width number ++ rest) = .ok (number, rest) := by
  unfold readNumber
  rw [Word.readBig_big fits]

/-- A number that has been read stands in front. -/
theorem number_of_readNumber {width number : Nat} {bytes rest : Bytes}
    (read : readNumber width bytes = .ok (number, rest)) :
    bytes = Word.big width number ++ rest ∧ number < Word.limit width := by
  unfold readNumber at read
  cases taken : Word.readBig width bytes with
  | none =>
    rw [taken] at read
    contradiction
  | some parts =>
    rw [taken] at read
    obtain rfl := Except.ok.inj read
    exact Word.eq_of_readBig taken

/-- Contents are read back from in front of any bytes. -/
theorem readContents_append (contents rest : Bytes) :
    readContents contents.length (contents ++ rest) = .ok (contents, rest) := by
  unfold readContents
  rw [Bytes.split?_append]

/-- Contents that have been read stand in front. -/
theorem contents_of_readContents {length : Nat} {bytes contents rest : Bytes}
    (read : readContents length bytes = .ok (contents, rest)) :
    bytes = contents ++ rest ∧ contents.length = length := by
  unfold readContents at read
  cases taken : Bytes.split? length bytes with
  | none =>
    rw [taken] at read
    contradiction
  | some parts =>
    rw [taken] at read
    obtain rfl := Except.ok.inj read
    exact Bytes.split?_eq_some_iff.mp taken

/-- The head of a text is read back from in front of any bytes. -/
theorem TextFormat.readHead_head {format : TextFormat} {length : Nat}
    (holds : format.Holds length) (rest : Bytes) :
    readHead (format.head length ++ rest) = .ok (.text length, rest) := by
  cases format with
  | short =>
    have byte : UInt8.ofNat (0xA0 + length) = (Marker.fixText ⟨length, holds⟩).toByte := rfl
    rw [head, byte, List.singleton_append, readHead_toByte]
    rfl
  | sized width =>
    rw [head, writeNumber, List.cons_append, readHead_toByte]
    simp only [Marker.readHead, readNumber_big holds]
    rfl

/-- The head of bytes is read back from in front of any bytes. -/
theorem readHead_binaryHead {width : LengthWidth} {length : Nat}
    (holds : length < Word.limit width.bytes) (rest : Bytes) :
    readHead (binaryHead width length ++ rest) = .ok (.binary length, rest) := by
  rw [binaryHead, writeNumber, List.cons_append, readHead_toByte]
  simp only [Marker.readHead, readNumber_big holds]
  rfl

/-- The head of an array is read back from in front of any bytes. -/
theorem CountFormat.readHead_arrayHead {format : CountFormat} {count : Nat}
    (holds : format.Holds count) (rest : Bytes) :
    readHead (format.arrayHead count ++ rest) = .ok (.container .array count, rest) := by
  cases format with
  | few =>
    have byte : UInt8.ofNat (0x90 + count) = (Marker.fixArray ⟨count, holds⟩).toByte := rfl
    rw [arrayHead, byte, List.singleton_append, readHead_toByte]
    rfl
  | sized width =>
    rw [arrayHead, writeNumber, List.cons_append, readHead_toByte]
    simp only [Marker.readHead, readNumber_big holds]
    rfl

/-- The head of a map is read back from in front of any bytes. -/
theorem CountFormat.readHead_mapHead {format : CountFormat} {count : Nat}
    (holds : format.Holds count) (rest : Bytes) :
    readHead (format.mapHead count ++ rest) = .ok (.container .map count, rest) := by
  cases format with
  | few =>
    have byte : UInt8.ofNat (0x80 + count) = (Marker.fixMap ⟨count, holds⟩).toByte := rfl
    rw [mapHead, byte, List.singleton_append, readHead_toByte]
    rfl
  | sized width =>
    rw [mapHead, writeNumber, List.cons_append, readHead_toByte]
    simp only [Marker.readHead, readNumber_big holds]
    rfl

/-- Words are at most eight bytes wide. -/
theorem IntegerWidth.limit_le (width : IntegerWidth) :
    Word.limit width.bytes ≤ 0x10000000000000000 := by
  cases width <;> decide

/-- Two's complement in a width gives back the integers that the width can hold. -/
theorem signedOf_emod {width : Nat} {number : Int}
    (least : -(Word.limit width : Int) ≤ 2 * number) (most : 2 * number < Word.limit width) :
    signedOf width (number % Word.limit width).toNat = number := by
  unfold signedOf
  by_cases positive : 0 ≤ number
  · rw [Int.emod_eq_of_lt positive (by omega)]
    rw [if_pos (by omega)]
    omega
  · have wrapped : number % Word.limit width = number + Word.limit width := by
      rw [← Int.add_emod_right, Int.emod_eq_of_lt (by omega) (by omega)]
    rw [wrapped, if_neg (by omega)]
    omega

/-- A word in two's complement holds an integer that its width can hold. -/
theorem signedOf_bounds {width number : Nat} (fits : number < Word.limit width) :
    -(Word.limit width : Int) ≤ 2 * signedOf width number ∧
      2 * signedOf width number < Word.limit width := by
  unfold signedOf
  split <;> omega

/-- The word that holds an integer in two's complement. -/
theorem emod_signedOf {width number : Nat} (fits : number < Word.limit width) :
    (signedOf width number % Word.limit width).toNat = number := by
  unfold signedOf
  split
  · rw [Int.emod_eq_of_lt (by omega) (by omega)]
    rfl
  · rw [Int.sub_emod_right, Int.emod_eq_of_lt (by omega) (by omega)]
    rfl

/-- An integer is read back from each format that can hold it. -/
theorem IntegerFormat.readHead_write {format : IntegerFormat} {number : Int}
    (holds : format.Holds number) (rest : Bytes) :
    ∃ scalar : Scalar, scalar.value = Value.ofInteger number ∧
      readHead (format.write number ++ rest) = .ok (.scalar scalar, rest) := by
  cases format with
  | positive =>
    obtain ⟨least, most⟩ := holds
    have small : number.toNat < 128 := by omega
    have byte : UInt8.ofNat number.toNat = (Marker.positive ⟨number.toNat, small⟩).toByte := rfl
    refine ⟨.unsigned (UInt64.ofNat number.toNat), ?_, ?_⟩
    · rw [Scalar.value, Value.ofInteger, if_pos least]
    · rw [write, byte, List.singleton_append, readHead_toByte]
      rfl
  | negative =>
    obtain ⟨least, most⟩ := holds
    have small : (number + 32).toNat < 32 := by omega
    have byte : UInt8.ofNat (0xE0 + (number + 32).toNat) =
        (Marker.negative ⟨(number + 32).toNat, small⟩).toByte := rfl
    have same : (((number + 32).toNat : Nat) : Int) - 32 = number := by omega
    refine ⟨.signed (Int64.ofInt number), ?_, ?_⟩
    · rw [Scalar.value, Value.ofInt64_ofInt (by omega) (by omega)]
    · rw [write, byte, List.singleton_append, readHead_toByte]
      simp only [Marker.readHead, Marker.readScalar, same]
      rfl
  | unsigned width =>
    obtain ⟨least, most⟩ := holds
    refine ⟨.unsigned (UInt64.ofNat number.toNat), ?_, ?_⟩
    · rw [Scalar.value, Value.ofInteger, if_pos least]
    · rw [write, writeNumber, List.cons_append, readHead_toByte]
      simp only [Marker.readHead, Marker.readScalar,
        readNumber_big (show number.toNat < Word.limit width.bytes by omega)]
      rfl
  | signed width =>
    obtain ⟨least, most⟩ := holds
    have wide := width.limit_le
    have positive : (0 : Int) < Word.limit width.bytes := by omega
    have fits : (number % Word.limit width.bytes).toNat < Word.limit width.bytes := by
      have below := Int.emod_lt_of_pos number positive
      have above := Int.emod_nonneg number (Int.ne_of_gt positive)
      omega
    refine ⟨.signed (Int64.ofInt number), ?_, ?_⟩
    · rw [Scalar.value, Value.ofInt64_ofInt (by omega) (by omega)]
    · rw [write, writeNumber, List.cons_append, readHead_toByte]
      simp only [Marker.readHead, Marker.readScalar, readNumber_big fits]
      simp only [bind, Except.bind, signedOf_emod least most]
      rfl

/-- A document without contents is read from in front of any bytes. -/
theorem DenotesScalar.readHead {bytes : Bytes} {value : Value}
    (denotes : DenotesScalar bytes value) (rest : Bytes) :
    ∃ scalar : Scalar, scalar.value = value ∧
      MessagePack.readHead (bytes ++ rest) = .ok (.scalar scalar, rest) := by
  cases denotes with
  | nil =>
    refine ⟨.nil, rfl, ?_⟩
    rw [List.singleton_append, readHead_toByte]
    rfl
  | bool flag =>
    refine ⟨.bool flag, rfl, ?_⟩
    rw [List.singleton_append, readHead_toByte]
    rfl
  | integer format number holds => exact IntegerFormat.readHead_write holds rest
  | float32 bits =>
    refine ⟨.float (.ofBinary32 bits), rfl, ?_⟩
    have fits : bits.toNat < Word.limit 4 := bits.toNat_lt
    rw [writeNumber, List.cons_append, readHead_toByte]
    simp only [Marker.readHead, Marker.readScalar, readNumber_big fits]
    simp only [bind, Except.bind, UInt32.ofNat_toNat]
    rfl
  | float64 bits =>
    refine ⟨.float ⟨bits⟩, rfl, ?_⟩
    have fits : bits.toNat < Word.limit 8 := bits.toNat_lt
    rw [writeNumber, List.cons_append, readHead_toByte]
    simp only [Marker.readHead, Marker.readScalar, readNumber_big fits]
    simp only [bind, Except.bind, UInt64.ofNat_toNat]
    rfl

/-- The bytes write the head, in some format that can hold it. -/
def Head.SpelledBy : Head → Bytes → Prop
  | .scalar simple, bytes => DenotesScalar bytes simple.value
  | .text length, bytes => ∃ format : TextFormat, format.Holds length ∧ bytes = format.head length
  | .binary length, bytes => ∃ width : LengthWidth,
      length < Word.limit width.bytes ∧ bytes = binaryHead width length
  | .container .array count, bytes => ∃ format : CountFormat,
      format.Holds count ∧ bytes = format.arrayHead count
  | .container .map count, bytes => ∃ format : CountFormat,
      format.Holds count ∧ bytes = format.mapHead count
  | .container .extension _, _ => True

/-- What is made of a number behind a marker has been read from that number on. -/
theorem number_of_bind {α : Type} {width : Nat} {bytes rest : Bytes} {made : α} (make : Nat → α)
    (read : (do
      let (number, rest) ← readNumber width bytes
      return (make number, rest) : Outcome (α × Bytes)) = .ok (made, rest)) :
    ∃ number, number < Word.limit width ∧ bytes = Word.big width number ++ rest ∧
      made = make number := by
  obtain ⟨⟨number, tail⟩, taken, same⟩ := bind_eq_ok_iff.mp read
  obtain ⟨rfl, rfl⟩ := Prod.mk.inj (Except.ok.inj same)
  obtain ⟨whole, fits⟩ := number_of_readNumber taken
  exact ⟨number, fits, whole, rfl⟩

/-- A scalar that has been read is a document without contents. -/
theorem Marker.denotes_of_readScalar {marker : Marker} {bytes rest : Bytes} {scalar : Scalar}
    (read : marker.readScalar bytes = .ok (scalar, rest)) :
    ∃ front, marker.toByte :: bytes = front ++ rest ∧ DenotesScalar front scalar.value := by
  cases marker with
  | positive number =>
    obtain ⟨rfl, rfl⟩ := Prod.mk.inj (Except.ok.inj read)
    have holds : IntegerFormat.positive.Holds (number.val : Int) := ⟨by omega, by omega⟩
    have denotes := DenotesScalar.integer .positive number.val holds
    rw [IntegerFormat.write, Value.ofInteger, if_pos (by omega), Int.toNat_natCast] at denotes
    exact ⟨_, rfl, denotes⟩
  | negative above =>
    obtain ⟨rfl, rfl⟩ := Prod.mk.inj (Except.ok.inj read)
    have small := above.isLt
    have holds : IntegerFormat.negative.Holds ((above.val : Int) - 32) := ⟨by omega, by omega⟩
    have denotes := DenotesScalar.integer .negative ((above.val : Int) - 32) holds
    rw [IntegerFormat.write, Int.sub_add_cancel, Int.toNat_natCast,
      ← Value.ofInt64_ofInt (by omega) (by omega)] at denotes
    exact ⟨_, rfl, denotes⟩
  | nil =>
    obtain ⟨rfl, rfl⟩ := Prod.mk.inj (Except.ok.inj read)
    exact ⟨_, rfl, .nil⟩
  | bool flag =>
    obtain ⟨rfl, rfl⟩ := Prod.mk.inj (Except.ok.inj read)
    exact ⟨_, rfl, .bool flag⟩
  | unsigned width =>
    obtain ⟨number, fits, rfl, rfl⟩ :=
      number_of_bind (fun number => Scalar.unsigned (UInt64.ofNat number)) read
    have holds : (IntegerFormat.unsigned width).Holds (number : Int) := ⟨by omega, by omega⟩
    have denotes := DenotesScalar.integer (.unsigned width) number holds
    rw [IntegerFormat.write, Value.ofInteger, if_pos (by omega), Int.toNat_natCast] at denotes
    exact ⟨_, rfl, denotes⟩
  | signed width =>
    obtain ⟨number, fits, rfl, rfl⟩ :=
      number_of_bind (fun number => Scalar.signed (Int64.ofInt (signedOf width.bytes number))) read
    have wide := width.limit_le
    have bounds := signedOf_bounds fits
    have denotes := DenotesScalar.integer (.signed width) (signedOf width.bytes number) bounds
    rw [IntegerFormat.write, emod_signedOf fits,
      ← Value.ofInt64_ofInt (by omega) (by omega)] at denotes
    exact ⟨_, rfl, denotes⟩
  | float32 =>
    obtain ⟨bits, fits, rfl, rfl⟩ :=
      number_of_bind (fun bits => Scalar.float (.ofBinary32 (UInt32.ofNat bits))) read
    have denotes := DenotesScalar.float32 (UInt32.ofNat bits)
    rw [UInt32.toNat_ofNat_of_lt' fits] at denotes
    exact ⟨_, rfl, denotes⟩
  | float64 =>
    obtain ⟨bits, fits, rfl, rfl⟩ :=
      number_of_bind (fun bits => Scalar.float ⟨UInt64.ofNat bits⟩) read
    have denotes := DenotesScalar.float64 (UInt64.ofNat bits)
    rw [UInt64.toNat_ofNat_of_lt' fits] at denotes
    exact ⟨_, rfl, denotes⟩
  | _ => contradiction

/-- A head that is a scalar has been read as that scalar. -/
theorem Marker.spelledBy_of_scalar {marker : Marker} {bytes rest : Bytes} {head : Head}
    (read : (do
      let (scalar, rest) ← marker.readScalar bytes
      return (Head.scalar scalar, rest) : Outcome (Head × Bytes)) = .ok (head, rest)) :
    ∃ front, marker.toByte :: bytes = front ++ rest ∧ head.SpelledBy front := by
  obtain ⟨⟨scalar, tail⟩, taken, same⟩ := bind_eq_ok_iff.mp read
  obtain ⟨rfl, rfl⟩ := Prod.mk.inj (Except.ok.inj same)
  exact denotes_of_readScalar taken

/-- A head that has been read stands in front of the bytes handed back. -/
theorem spelledBy_of_readHead {bytes rest : Bytes} {head : Head}
    (read : readHead bytes = .ok (head, rest)) :
    ∃ front, bytes = front ++ rest ∧ head.SpelledBy front := by
  cases bytes with
  | nil => contradiction
  | cons byte bytes =>
    rw [← Marker.toByte_ofByte byte] at read ⊢
    generalize Marker.ofByte byte = marker at read ⊢
    rw [readHead_toByte] at read
    cases marker with
    | fixMap count =>
      obtain ⟨rfl, rfl⟩ := Prod.mk.inj (Except.ok.inj read)
      exact ⟨_, rfl, .few, count.isLt, rfl⟩
    | fixArray count =>
      obtain ⟨rfl, rfl⟩ := Prod.mk.inj (Except.ok.inj read)
      exact ⟨_, rfl, .few, count.isLt, rfl⟩
    | fixText length =>
      obtain ⟨rfl, rfl⟩ := Prod.mk.inj (Except.ok.inj read)
      exact ⟨_, rfl, .short, length.isLt, rfl⟩
    | fixExtension length =>
      obtain ⟨rfl, rfl⟩ := Prod.mk.inj (Except.ok.inj read)
      exact ⟨[(Marker.fixExtension length).toByte], rfl, trivial⟩
    | text width =>
      obtain ⟨length, fits, rfl, rfl⟩ := number_of_bind _ read
      exact ⟨_, rfl, .sized width, fits, rfl⟩
    | binary width =>
      obtain ⟨length, fits, rfl, rfl⟩ := number_of_bind _ read
      exact ⟨_, rfl, width, fits, rfl⟩
    | array width =>
      obtain ⟨count, fits, rfl, rfl⟩ := number_of_bind _ read
      exact ⟨_, rfl, .sized width, fits, rfl⟩
    | map width =>
      obtain ⟨count, fits, rfl, rfl⟩ := number_of_bind _ read
      exact ⟨_, rfl, .sized width, fits, rfl⟩
    | extension width =>
      obtain ⟨length, fits, rfl, rfl⟩ := number_of_bind _ read
      exact ⟨(Marker.extension width).toByte :: Word.big width.bytes length, rfl, trivial⟩
    | _ => exact Marker.spelledBy_of_scalar read

end MessagePack

end BrokerWire
