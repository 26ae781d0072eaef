import BrokerWire.Number.Binary64

/-!
# Equality of floating numbers

The bits of a finite number stand for a multiple of the least positive one. Greater fields stand for
greater multiples, so that a number other than zero has one pattern of bits, and zero has two.
Floating numbers are therefore equal exactly when their bits stand for the same number; bits that
stand for none equal nothing.
-/
namespace BrokerWire.Binary64

variable {x y : Binary64}

/-! ## The same bits, or zeros -/

/-- A zero is a number. -/
theorem isNaN_of_isZero (zero : x.isZero = true) : x.isNaN = false := by
  simp only [isZero, Bool.and_eq_true, decide_eq_true_eq] at zero
  simp [isNaN, zero.1]

/-- Numbers are equal exactly when their bits are the same or both are zero, unless there is no
number. -/
theorem same_iff_eq_or_zeros :
    x.same y = true ↔ x.isNaN = false ∧ (x = y ∨ x.isZero = true ∧ y.isZero = true) := by
  have bits : x.bits = y.bits ↔ x = y := by
    cases x
    cases y
    rw [mk.injEq]
  simp only [same, Bool.and_eq_true, Bool.not_eq_eq_eq_not, Bool.not_true, Bool.or_eq_true,
    beq_iff_eq, bits]
  constructor
  · rintro ⟨⟨number, -⟩, alike⟩
    exact ⟨number, alike⟩
  · rintro ⟨number, rfl | ⟨zero, otherZero⟩⟩
    · exact ⟨⟨number, number⟩, .inl rfl⟩
    · exact ⟨⟨number, isNaN_of_isZero otherZero⟩, .inr ⟨zero, otherZero⟩⟩

/-- The number, zero being the one without a sign. -/
def unsignedZero (x : Binary64) : Binary64 := if x.isZero then ⟨0⟩ else x

/-- Without the signs of zeros, bits are the same that were so before, or both zero. -/
theorem unsignedZero_eq_iff :
    x.unsignedZero = y.unsignedZero ↔ x = y ∨ x.isZero = true ∧ y.isZero = true := by
  unfold unsignedZero
  constructor
  · intro equal
    by_cases zero : x.isZero = true <;> by_cases otherZero : y.isZero = true
    · exact .inr ⟨zero, otherZero⟩
    · rw [if_pos zero, if_neg otherZero] at equal
      exact absurd (equal ▸ rfl : y.isZero = true) otherZero
    · rw [if_neg zero, if_pos otherZero] at equal
      exact absurd (equal ▸ rfl : x.isZero = true) zero
    · rw [if_neg zero, if_neg otherZero] at equal
      exact .inl equal
  · rintro (rfl | ⟨zero, otherZero⟩)
    · rfl
    · rw [if_pos zero, if_pos otherZero]

/-- Numbers are equal exactly when they are the same up to the sign of a zero, unless there is no
number. -/
theorem same_iff : x.same y = true ↔ x.unsignedZero = y.unsignedZero ∧ x.isNaN = false := by
  rw [same_iff_eq_or_zeros, unsignedZero_eq_iff, and_comm]

/-! ## What bits stand for -/

/-- What the bits of a floating number stand for. -/
inductive Reading where
  /-- No number. -/
  | none
  /-- An infinity of either sign. -/
  | infinite (negative : Bool)
  /-- A multiple of the least positive number. -/
  | finite (units : Int)
  deriving DecidableEq

/-- A finite magnitude as a multiple of the least positive number. -/
def units (x : Binary64) : Nat := x.significand <<< (x.scale + 1074).toNat

/-- What the bits stand for. -/
def reading (x : Binary64) : Reading :=
  if x.isNaN then .none
  else if x.isInfinite then .infinite x.isNegative
  else .finite (if x.isNegative then -x.units else x.units)

/-- Fractions are below their count. -/
theorem fractionField_lt (x : Binary64) : x.fractionField < fractions :=
  Nat.mod_lt _ (by decide)

/-- The fields make the number. -/
theorem eq_of_fields (sign : x.isNegative = y.isNegative)
    (exponent : x.exponentField = y.exponentField) (fraction : x.fractionField = y.fractionField) :
    x = y := by
  obtain ⟨bits⟩ := x
  obtain ⟨otherBits⟩ := y
  have small := bits.toNat_lt
  have otherSmall := otherBits.toNat_lt
  have signs : bits.toNat / signBit = 1 ↔ otherBits.toNat / signBit = 1 :=
    decide_eq_decide.mp sign
  simp only [exponentField, fractionField, fractions] at exponent fraction
  rw [signBit] at signs
  have same : bits.toNat = otherBits.toNat := by omega
  rw [UInt64.toNat_inj.mp same]

/-- A magnitude of the least exponent is its fraction. -/
theorem units_of_subnormal (subnormal : x.exponentField = 0) : x.units = x.fractionField := by
  simp [units, significand, scale, subnormal]

/-- A magnitude of any other exponent has the bit in front of its fraction as well, and is moved up
by one bit less than the exponent says. -/
theorem units_of_normal {exponent : Nat} (normal : x.exponentField = exponent + 1) :
    x.units = (fractions + x.fractionField) <<< exponent := by
  have moved : (x.scale + 1074).toNat = exponent := by
    rw [scale, normal, if_neg (Nat.succ_ne_zero exponent)]
    omega
  rw [units, moved, significand, normal, if_neg (Nat.succ_ne_zero exponent)]

/-- A magnitude is less than the least one of the next exponent. -/
theorem units_lt (x : Binary64) : x.units < fractions <<< x.exponentField := by
  have fraction := x.fractionField_lt
  cases field : x.exponentField with
  | zero => rwa [units_of_subnormal field, Nat.shiftLeft_zero]
  | succ exponent =>
    rw [units_of_normal field, Nat.shiftLeft_succ_inside, Nat.shiftLeft_eq, Nat.shiftLeft_eq]
    exact Nat.mul_lt_mul_of_pos_right (by omega) (Nat.two_pow_pos exponent)

/-- A greater exponent makes a greater magnitude. -/
theorem units_lt_units (less : x.exponentField < y.exponentField) : x.units < y.units := by
  obtain ⟨exponent, normal⟩ := Nat.exists_eq_succ_of_ne_zero (Nat.ne_zero_of_lt less)
  have below : x.exponentField ≤ exponent := by omega
  calc x.units
    _ < fractions <<< x.exponentField := x.units_lt
    _ ≤ fractions <<< exponent := by
      rw [Nat.shiftLeft_eq, Nat.shiftLeft_eq]
      exact Nat.mul_le_mul_left _ (Nat.pow_le_pow_right (by decide) below)
    _ ≤ (fractions + y.fractionField) <<< exponent := by
      rw [Nat.shiftLeft_eq, Nat.shiftLeft_eq]
      exact Nat.mul_le_mul_right _ (Nat.le_add_right _ _)
    _ = y.units := (units_of_normal normal).symm

/-- Only one exponent and one fraction make a magnitude. -/
theorem fields_of_units (same : x.units = y.units) :
    x.exponentField = y.exponentField ∧ x.fractionField = y.fractionField := by
  have exponents : x.exponentField = y.exponentField := by
    obtain less | equal | greater := Nat.lt_trichotomy x.exponentField y.exponentField
    · exact absurd same (Nat.ne_of_lt (units_lt_units less))
    · exact equal
    · exact absurd same.symm (Nat.ne_of_lt (units_lt_units greater))
  refine ⟨exponents, ?_⟩
  cases field : x.exponentField with
  | zero => rwa [units_of_subnormal field, units_of_subnormal (exponents ▸ field)] at same
  | succ exponent =>
    rw [units_of_normal field, units_of_normal (exponents ▸ field), Nat.shiftLeft_eq,
      Nat.shiftLeft_eq] at same
    exact Nat.add_left_cancel (Nat.eq_of_mul_eq_mul_right (Nat.two_pow_pos exponent) same)

/-- The magnitude of the zeros, and of nothing else, is zero. -/
theorem units_eq_zero_iff : x.units = 0 ↔ x.isZero = true := by
  have least : (⟨0⟩ : Binary64).units = 0 := rfl
  rw [isZero, Bool.and_eq_true, decide_eq_true_eq, decide_eq_true_eq]
  constructor
  · intro zero
    exact fields_of_units (zero.trans least.symm)
  · rintro ⟨exponent, fraction⟩
    rw [units_of_subnormal exponent, fraction]

/-! ## Equality as numbers -/

/-- The bits stand for no number exactly when they are marked so. -/
theorem reading_eq_none_iff : x.reading = .none ↔ x.isNaN = true := by
  unfold reading
  by_cases nan : x.isNaN = true <;> by_cases infinite : x.isInfinite = true <;>
    simp [nan, infinite]

/-- An infinity has the fields of one, and its sign. -/
theorem fields_of_infinite {negative : Bool} (told : x.reading = .infinite negative) :
    x.exponentField = 2047 ∧ x.fractionField = 0 ∧ x.isNegative = negative := by
  unfold reading at told
  by_cases nan : x.isNaN = true <;> by_cases infinite : x.isInfinite = true <;>
    simp only [nan, infinite, ↓reduceIte, reduceCtorEq, Bool.false_eq_true,
      Reading.infinite.injEq] at told
  simp only [isInfinite, Bool.and_eq_true, decide_eq_true_eq] at infinite
  exact ⟨infinite.1, infinite.2, told⟩

/-- A finite number is its magnitude with its sign. -/
theorem units_of_finite {number : Int} (told : x.reading = .finite number) :
    (if x.isNegative then -(x.units : Int) else x.units) = number := by
  unfold reading at told
  by_cases nan : x.isNaN = true <;> by_cases infinite : x.isInfinite = true <;>
    simp only [nan, infinite, ↓reduceIte, reduceCtorEq, Bool.false_eq_true] at told
  exact Reading.finite.inj told

/-- A zero stands for zero. -/
theorem reading_of_isZero (zero : x.isZero = true) : x.reading = .finite 0 := by
  have number := isNaN_of_isZero zero
  have magnitude := units_eq_zero_iff.mpr zero
  simp only [isZero, Bool.and_eq_true, decide_eq_true_eq] at zero
  have finite : x.isInfinite = false := by simp [isInfinite, zero.1]
  simp [reading, number, finite, magnitude]

/-- Bits that stand for the same finite number are the same, or zeros. -/
theorem eq_or_zeros_of_finite {number : Int} (told : x.reading = .finite number)
    (otherTold : y.reading = .finite number) :
    x = y ∨ x.isZero = true ∧ y.isZero = true := by
  have signed := units_of_finite told
  have otherSigned := units_of_finite otherTold
  have magnitudes : x.units = y.units := by
    by_cases sign : x.isNegative = true <;> by_cases otherSign : y.isNegative = true <;>
      simp only [sign, otherSign, ↓reduceIte, Bool.false_eq_true] at signed otherSigned <;> omega
  by_cases zero : x.units = 0
  · exact .inr ⟨units_eq_zero_iff.mp zero, units_eq_zero_iff.mp (magnitudes ▸ zero)⟩
  · have signs : x.isNegative = y.isNegative := by
      rw [Bool.eq_iff_iff]
      by_cases sign : x.isNegative = true <;> by_cases otherSign : y.isNegative = true <;>
        simp only [sign, otherSign, ↓reduceIte, Bool.false_eq_true] at signed otherSigned ⊢ <;>
        omega
    obtain ⟨exponents, fractions⟩ := fields_of_units magnitudes
    exact .inl (eq_of_fields signs exponents fractions)

/-- Bits that stand for the same number, finite or not, are the same, or zeros. -/
theorem eq_or_zeros_of_reading (number : x.isNaN = false) (equal : x.reading = y.reading) :
    x = y ∨ x.isZero = true ∧ y.isZero = true := by
  cases told : x.reading with
  | none =>
    rw [reading_eq_none_iff, number] at told
    contradiction
  | infinite negative =>
    obtain ⟨exponent, fraction, sign⟩ := fields_of_infinite told
    obtain ⟨otherExponent, otherFraction, otherSign⟩ := fields_of_infinite (equal ▸ told)
    exact .inl (eq_of_fields (sign.trans otherSign.symm) (exponent.trans otherExponent.symm)
      (fraction.trans otherFraction.symm))
  | finite units => exact eq_or_zeros_of_finite told (equal ▸ told)

/-- Floating numbers are equal exactly when their bits stand for the same number, finite or not. -/
theorem same_iff_reading : x.same y = true ↔ x.reading = y.reading ∧ x.reading ≠ .none := by
  rw [same_iff_eq_or_zeros, ne_eq, reading_eq_none_iff, Bool.not_eq_true, and_comm]
  refine and_congr_left fun number => ⟨?_, eq_or_zeros_of_reading number⟩
  rintro (rfl | ⟨zero, otherZero⟩)
  · rfl
  · rw [reading_of_isZero zero, reading_of_isZero otherZero]

/-- The greatest magnitude without the bit in front stands right below the least one with it. -/
example : (⟨0x800FFFFFFFFFFFFF⟩ : Binary64).reading = .finite (-0xFFFFFFFFFFFFF) ∧
    (⟨0x8010000000000000⟩ : Binary64).reading = .finite (-0x10000000000000) := by
  decide

end BrokerWire.Binary64
