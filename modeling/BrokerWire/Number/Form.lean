import BrokerWire.Number.Shortest

/-!
# Written forms of finite floating numbers

How the digits of a finite floating number are laid out as text. A form says which powers of ten
are written out in positions and which of two equally near decimals is taken, and nothing else: a
whole number written in positions always ends in `.0`, and a number not written in positions is
its first digit, the others after a point, and the power of ten with its sign.
-/
namespace BrokerWire

/-- The choices of one written form. -/
structure NumberForm where
  /-- A number whose first digit has this power of ten is written out in positions. -/
  positional : Int → Bool
  /-- Which of two equally near decimals is taken. -/
  tie : Tie

namespace Decimal

/-- Every digit in its position, with `.0` after a whole number. -/
def inPositions (decimal : Decimal) : List Char :=
  if 0 ≤ decimal.exponent then
    let whole := decimal.exponent.toNat + 1
    let before := decimal.digits.take whole
    let after := decimal.digits.drop whole
    before ++ List.replicate (whole - before.length) '0' ++ '.' ::
      (if after.isEmpty then ['0'] else after)
  else
    '0' :: '.' :: List.replicate ((-decimal.exponent).toNat - 1) '0' ++ decimal.digits

/-- The first digit, the others after a point, and the power of ten with its sign. -/
def withExponent (decimal : Decimal) : List Char :=
  let significand := match decimal.digits with
    | first :: second :: others => first :: '.' :: second :: others
    | digits => digits
  let sign := if 0 ≤ decimal.exponent then '+' else '-'
  significand ++ 'e' :: sign :: Nat.toDigits 10 decimal.exponent.natAbs

end Decimal

/-- The text of a finite number. -/
def NumberForm.write (form : NumberForm) (x : Binary64) : List Char :=
  let magnitude :=
    if x.isZero then ['0', '.', '0']
    else
      let decimal := Decimal.shortest form.tie x
      if form.positional decimal.exponent then decimal.inPositions else decimal.withExponent
  if x.isNegative then '-' :: magnitude else magnitude

end BrokerWire
