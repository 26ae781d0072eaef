import BrokerWire.Proofs.Json.Display
import BrokerWire.Proofs.Value.Equality
import BrokerWire.Proofs.Value.Origins

/-!
# Integers

An integer has one value, whatever format it is decoded from and whatever word it is made of. The
signed and the unsigned view of a value are views of one integer, each as far as its range goes, and
between them they leave no integer out. So two values that have come about have the same views only
if they are equal, or are no integers at all.
-/
namespace BrokerWire

/-- A word below the greatest bit is the same number as a signed word. -/
theorem Word.toInt_toInt64 {word : UInt64} (small : word.toNat < 0x8000000000000000) :
    word.toInt64.toInt = word.toNat := by
  have same : word.toInt64 = Int64.ofNat word.toNat := by
    rw [← UInt64.toInt64_ofNat', UInt64.ofNat_toNat]
  rw [same, Int64.toInt_ofNat_of_lt small]

/-- A signed word that is not negative is the same number as an unsigned one. -/
theorem Word.toNat_toUInt64 {word : Int64} (positive : 0 ≤ word.toInt) :
    (word.toUInt64.toNat : Int) = word.toInt := by
  have most := word.toInt_lt
  have same : word.toUInt64 = UInt64.ofNat word.toInt.toNat := by
    rw [← Int64.toUInt64_ofNat', ← Int64.ofInt_eq_ofNat, Int.toNat_of_nonneg positive,
      Int64.ofInt_toInt]
  have fits : word.toInt.toNat < UInt64.size := by
    simp only [UInt64.size]
    omega
  rw [same, UInt64.toNat_ofNat_of_lt' fits, Int.toNat_of_nonneg positive]

/-- The text of an integer is its decimal notation. -/
theorem Json.ofList_integer (number : Int) :
    String.ofList (Json.integer number) = toString number := by
  cases number with
  | ofNat natural => exact congrArg String.ofList (if_neg (Int.not_lt.mpr (Int.natCast_nonneg _)))
  | negSucc below =>
    rw [Json.integer, if_pos (Int.negSucc_lt_zero below), String.ofList_cons]
    rfl

namespace Value

/-! ## The views of one integer -/

/-- The integer of a value, under either constructor. -/
def integer? : Value → Option Int
  | int word => some word.toInt
  | uint word => some word.toNat
  | _ => none

/-- The signed view is the integer, where the signed range holds it. -/
theorem map_toInt_int64? (value : Value) :
    value.int64?.map Int64.toInt = value.integer?.filter (· < 0x8000000000000000) := by
  cases value with
  | int word =>
    have most : word.toInt < 0x8000000000000000 := word.toInt_lt
    rw [int64?, integer?, Option.filter_some, if_pos (decide_eq_true most), Option.map_some]
  | uint word =>
    rw [int64?, integer?, Option.filter_some]
    by_cases small : word.toNat < 0x8000000000000000
    · have below : (word.toNat : Int) < 0x8000000000000000 := by omega
      rw [if_pos small, if_pos (decide_eq_true below), Option.map_some, Word.toInt_toInt64 small]
    · have above : ¬(word.toNat : Int) < 0x8000000000000000 := by omega
      rw [if_neg small, if_neg (by rw [decide_eq_true_eq]; exact above), Option.map_none]
  | _ => rfl

/-- The unsigned view is the integer, where it is not negative. -/
theorem map_toNat_uint64? (value : Value) :
    (value.uint64?.map fun word => (word.toNat : Int)) = value.integer?.filter (0 ≤ ·) := by
  cases value with
  | int word =>
    have sign : 0 ≤ word ↔ 0 ≤ word.toInt := Int64.le_iff_toInt_le
    rw [uint64?, integer?, Option.filter_some]
    by_cases positive : 0 ≤ word.toInt
    · rw [if_pos (sign.mpr positive), if_pos (decide_eq_true positive), Option.map_some,
        Word.toNat_toUInt64 positive]
    · rw [if_neg (mt sign.mp positive), if_neg (by rw [decide_eq_true_eq]; exact positive),
        Option.map_none]
  | uint word =>
    have positive : (0 : Int) ≤ word.toNat := Int.natCast_nonneg _
    rw [uint64?, integer?, Option.filter_some, if_pos (decide_eq_true positive), Option.map_some]
  | _ => rfl

/-- A value is no integer exactly when it has neither view. -/
theorem integer?_eq_none_iff {value : Value} :
    value.integer? = none ↔ value.int64? = none ∧ value.uint64? = none := by
  cases value <;> simp [integer?, int64?, uint64?]

/-- Where a value is an integer, so is any other one with the same views: each integer shows in one
of them. -/
theorem integer?_of_views {left right : Value} (signed : left.int64? = right.int64?)
    (unsigned : left.uint64? = right.uint64?) {number : Int}
    (told : left.integer? = some number) : right.integer? = some number := by
  by_cases small : number < 0x8000000000000000
  · have view : left.int64?.map Int64.toInt = some number := by
      rw [map_toInt_int64?, told, Option.filter_some, if_pos (decide_eq_true small)]
    rw [signed, map_toInt_int64?, Option.filter_eq_some_iff] at view
    exact view.1
  · have positive : 0 ≤ number := by omega
    have view : (left.uint64?.map fun word => (word.toNat : Int)) = some number := by
      rw [map_toNat_uint64?, told, Option.filter_some, if_pos (decide_eq_true positive)]
    rw [unsigned, map_toNat_uint64?, Option.filter_eq_some_iff] at view
    exact view.1

/-- The two views of a value never differ. -/
theorem toInt_eq_toNat_of_views {value : Value} {signed : Int64} {unsigned : UInt64}
    (asSigned : value.int64? = some signed) (asUnsigned : value.uint64? = some unsigned) :
    signed.toInt = unsigned.toNat := by
  have below := map_toInt_int64? value
  have above := map_toNat_uint64? value
  rw [asSigned, Option.map_some, eq_comm, Option.filter_eq_some_iff] at below
  rw [asUnsigned, Option.map_some, eq_comm, Option.filter_eq_some_iff] at above
  exact Option.some.inj (below.1.symm.trans above.1)

/-- Equal values have the same views. -/
theorem views_of_same {left right : Value} (same : left.same right = true) :
    left.int64? = right.int64? ∧ left.uint64? = right.uint64? := by
  have signed (value : Value) : value.unsignedZeros.int64? = value.int64? := by
    cases value <;> rfl
  have unsigned (value : Value) : value.unsignedZeros.uint64? = value.uint64? := by
    cases value <;> rfl
  obtain ⟨equal, -⟩ := same_iff.mp same
  exact ⟨by rw [← signed left, equal, signed], by rw [← unsigned left, equal, unsigned]⟩

/-! ## The value of an integer -/

/-- The value of an integer of either range is that integer. -/
theorem integer?_ofInteger {number : Int} (least : -0x8000000000000000 ≤ number)
    (most : number < 0x10000000000000000) : (ofInteger number).integer? = some number := by
  unfold ofInteger
  by_cases positive : 0 ≤ number
  · have fits : number.toNat < UInt64.size := by
      simp only [UInt64.size]
      omega
    rw [if_pos positive, integer?, UInt64.toNat_ofNat_of_lt' fits, Int.toNat_of_nonneg positive]
  · rw [if_neg positive, integer?, Int64.toInt_ofInt_of_le least (by omega)]

/-- A proper value that is an integer is the value of that integer. -/
theorem eq_ofInteger {value : Value} (proper : value.Proper) {number : Int}
    (told : value.integer? = some number) : value = ofInteger number := by
  cases value with
  | int word =>
    obtain rfl := Option.some.inj told
    have negative : word < 0 := proper
    have below : ¬0 ≤ word.toInt := Int.not_le.mpr (Int64.lt_iff_toInt_lt.mp negative)
    rw [ofInteger, if_neg below, Int64.ofInt_toInt]
  | uint word =>
    obtain rfl := Option.some.inj told
    rw [ofInteger, if_pos (Int.natCast_nonneg _), Int.toNat_natCast, UInt64.ofNat_toNat]
  | _ => contradiction

/-- A value that is an integer is shown as the integer in decimal. -/
theorem display_of_integer? {value : Value} {number : Int}
    (told : value.integer? = some number) : value.display = toString number := by
  cases value with
  | int word | uint word =>
    obtain rfl := Option.some.inj told
    exact Json.ofList_integer _
  | _ => contradiction

/-- A value that is an integer is equal to itself. -/
theorem same_self_of_integer? {value : Value} {number : Int}
    (told : value.integer? = some number) : value.same value = true := by
  cases value with
  | int word | uint word => exact beq_self_eq_true word
  | _ => contradiction

/-- The value is the one of the integer, however it comes about, and gives the integer back. -/
structure StandsFor (value : Value) (number : Int) : Prop where
  /-- Some format can hold the integer. -/
  held : ∃ format : MessagePack.IntegerFormat, format.Holds number
  /-- The value is decoded from the integer in every format that can hold it. -/
  decoded : ∀ format : MessagePack.IntegerFormat, format.Holds number →
    MessagePack.decodeValue (format.write number) = .ok value
  /-- It is made of the integer as a signed word, if that can hold it. -/
  made : number < 0x8000000000000000 → ofInt64 (Int64.ofInt number) = value
  /-- It is made of the integer as an unsigned word, if that can hold it. -/
  madeUnsigned : 0 ≤ number → uint (UInt64.ofNat number.toNat) = value
  /-- The signed view gives the integer back, if the signed range holds it, and nothing else. -/
  signed : value.int64?.map Int64.toInt =
    if number < 0x8000000000000000 then some number else none
  /-- The unsigned view gives the integer back, if it is not negative, and nothing else. -/
  unsigned : (value.uint64?.map fun word => (word.toNat : Int)) =
    if 0 ≤ number then some number else none
  /-- It is shown as the integer in decimal. -/
  shown : value.display = toString number

/-- An integer of the signed or of the unsigned range can be held by the widest format of that
range. -/
theorem exists_format_holds {number : Int} (least : -0x8000000000000000 ≤ number)
    (most : number < 0x10000000000000000) :
    ∃ format : MessagePack.IntegerFormat, format.Holds number := by
  have widest : Word.limit 8 = 0x10000000000000000 := rfl
  by_cases positive : 0 ≤ number
  · refine ⟨.unsigned .eight, positive, ?_⟩
    rw [MessagePack.IntegerWidth.bytes, widest]
    omega
  · refine ⟨.signed .eight, ?_, ?_⟩ <;> rw [MessagePack.IntegerWidth.bytes, widest] <;> omega

/-- Every integer of the signed or of the unsigned range has its value. -/
theorem standsFor_ofInteger {number : Int} (least : -0x8000000000000000 ≤ number)
    (most : number < 0x10000000000000000) : (ofInteger number).StandsFor number := by
  have told := integer?_ofInteger least most
  constructor
  · exact exists_format_holds least most
  · intro format holds
    exact (MessagePack.Denotes.scalar (.integer format number holds)).decodeValue (Nat.zero_le _)
  · exact ofInt64_ofInt least
  · intro positive
    rw [ofInteger, if_pos positive]
  · rw [map_toInt_int64?, told, Option.filter_some]
    simp only [decide_eq_true_eq]
  · rw [map_toNat_uint64?, told, Option.filter_some]
    simp only [decide_eq_true_eq]
  · exact display_of_integer? told

/-- Values that have come about and have the same views are identical, or have no view. -/
theorem eq_or_none_of_views {left right : Value} (made : left.Made) (otherMade : right.Made)
    (signed : left.int64? = right.int64?) (unsigned : left.uint64? = right.uint64?) :
    (∃ number, left.integer? = some number ∧ left = right) ∨
      left.int64? = none ∧ left.uint64? = none := by
  cases told : left.integer? with
  | none => exact .inr (integer?_eq_none_iff.mp told)
  | some number =>
    have otherTold := integer?_of_views signed unsigned told
    have equal : left = right := by
      rw [eq_ofInteger made.canonical.here told, eq_ofInteger otherMade.canonical.here otherTold]
    exact .inl ⟨number, rfl, equal⟩

/-- Integers have one value each, and the views of values agree. -/
structure IntegersAgree : Prop where
  /-- Every integer that a signed or an unsigned word can hold has one value, whatever it is decoded
  from or made of. -/
  one : ∀ number : Int, -0x8000000000000000 ≤ number → number < 0x10000000000000000 →
    ∃ value : Value, value.StandsFor number
  /-- Where a value has both views, they are the same integer. -/
  agree : ∀ (value : Value) (signed : Int64) (unsigned : UInt64), value.int64? = some signed →
    value.uint64? = some unsigned → signed.toInt = unsigned.toNat
  /-- Values that have come about have the same views exactly when they are equal or have none. -/
  viewed : ∀ left right : Value, left.Made → right.Made →
    (left.int64? = right.int64? ∧ left.uint64? = right.uint64? ↔
      left.same right = true ∨ (left.int64? = none ∧ left.uint64? = none) ∧
        right.int64? = none ∧ right.uint64? = none)
  /-- Those with the same views, if they have any, are not told apart in any other way either. -/
  identical : ∀ left right : Value, left.Made → right.Made → left.int64? = right.int64? →
    left.uint64? = right.uint64? → left = right ∨ left.int64? = none ∧ left.uint64? = none

/-- Integers have one value each, and the views of values agree. -/
theorem integersAgree : IntegersAgree where
  one number least most := ⟨ofInteger number, standsFor_ofInteger least most⟩
  agree _ _ _ := toInt_eq_toNat_of_views
  viewed left right made otherMade := by
    constructor
    · rintro ⟨signed, unsigned⟩
      obtain ⟨number, told, rfl⟩ | none := eq_or_none_of_views made otherMade signed unsigned
      · exact .inl (same_self_of_integer? told)
      · exact .inr ⟨none, signed ▸ none.1, unsigned ▸ none.2⟩
    · rintro (same | ⟨⟨signed, unsigned⟩, otherSigned, otherUnsigned⟩)
      · exact views_of_same same
      · exact ⟨signed.trans otherSigned.symm, unsigned.trans otherUnsigned.symm⟩
  identical left right made otherMade signed unsigned := by
    obtain ⟨-, -, equal⟩ | none := eq_or_none_of_views made otherMade signed unsigned
    · exact .inl equal
    · exact .inr none

end Value

end BrokerWire
