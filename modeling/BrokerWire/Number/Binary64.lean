/-!
# Binary64 numbers

A floating number is kept as its 64 bits: a sign, eleven exponent bits and fifty-two fraction
bits. Everything asked of it here is answered from those fields in integer arithmetic, so nothing
rests on the floating unit of the machine.
-/
namespace BrokerWire

/-- A floating number by its bits. -/
structure Binary64 where
  /-- Sign, exponent and fraction, from the greatest bit down. -/
  bits : UInt64
  deriving DecidableEq, Repr, Inhabited

namespace Binary64

/-- How many fractions there are, which is the weight of the lowest exponent bit. -/
def fractions : Nat := 0x10000000000000

/-- The weight of the sign bit. -/
def signBit : Nat := 0x8000000000000000

/-- The number is written with a minus sign. -/
def isNegative (x : Binary64) : Bool := x.bits.toNat / signBit = 1

/-- The biased exponent. -/
def exponentField (x : Binary64) : Nat := x.bits.toNat / fractions % 0x800

/-- The bits after the binary point. -/
def fractionField (x : Binary64) : Nat := x.bits.toNat % fractions

/-- The bits hold no number. -/
def isNaN (x : Binary64) : Bool := x.exponentField = 2047 && x.fractionField ≠ 0

/-- The number is infinite. -/
def isInfinite (x : Binary64) : Bool := x.exponentField = 2047 && x.fractionField = 0

/-- The bits hold a finite number. -/
def isFinite (x : Binary64) : Bool := x.exponentField ≠ 2047

/-- The number is zero, of either sign. -/
def isZero (x : Binary64) : Bool := x.exponentField = 0 && x.fractionField = 0

/-- Equality of numbers: bits without a number equal nothing, and the two zeros are equal. -/
def same (x y : Binary64) : Bool :=
  !x.isNaN && !y.isNaN && (x.bits == y.bits || (x.isZero && y.isZero))

/-- The integer factor of a finite magnitude. -/
def significand (x : Binary64) : Nat :=
  if x.exponentField = 0 then x.fractionField else fractions + x.fractionField

/-- The power of two of a finite magnitude. -/
def scale (x : Binary64) : Int :=
  (if x.exponentField = 0 then 1 else (x.exponentField : Int)) - 1075

/-- Bits from the sign and the two fields below it, taken as one number. -/
def ofFields (negative : Bool) (magnitude : Nat) : Binary64 :=
  ⟨UInt64.ofNat ((if negative then signBit else 0) + magnitude)⟩

/-- The same number as the 32-bit format holds; subnormal numbers of that format are normal
here. -/
def ofBinary32 (bits : UInt32) : Binary64 :=
  let exponent := bits.toNat / 0x800000 % 0x100
  let fraction := bits.toNat % 0x800000
  let magnitude :=
    if exponent = 255 then 2047 * fractions + fraction <<< 29
    else if exponent = 0 then
      if fraction = 0 then 0
      else
        let top := Nat.log2 fraction
        (top + 874) * fractions + (fraction <<< (52 - top) - fractions)
    else (exponent + 896) * fractions + fraction <<< 29
  ofFields (bits.toNat / 0x80000000 = 1) magnitude

/-- The magnitude field of the number nearest to a positive integer, a tie going to the even
neighbour. A fraction that rounds up to two carries into the exponent. -/
def magnitudeOfNat (n : Nat) : Nat :=
  if n = 0 then 0
  else
    let top := Nat.log2 n
    if top ≤ 52 then (top + 1023) * fractions + (n <<< (52 - top) - fractions)
    else
      let unit := 1 <<< (top - 52)
      let kept := n / unit
      let lost := n % unit
      let rounded := if unit < 2 * lost ∨ (unit = 2 * lost ∧ kept % 2 = 1) then kept + 1 else kept
      (top + 1023) * fractions + (rounded - fractions)

/-- The number nearest to an integer, a tie going to the even neighbour. -/
def ofInt (n : Int) : Binary64 := ofFields (n < 0) (magnitudeOfNat n.natAbs)

end Binary64

end BrokerWire
