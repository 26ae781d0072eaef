import BrokerWire.Number.Binary64

/-!
# Shortest decimals

The decimal with the fewest digits that reads back as a given floating number, and of those the
nearest. All arithmetic is on natural numbers: the numbers that round to a floating number form an
interval whose ends lie half way to its neighbours, and on each decimal grid, from the coarsest
down, only the two points around the number itself can be the nearest of the grid in the interval.
-/
namespace BrokerWire

/-- A positive decimal: its digits with a point after the first, times a power of ten. -/
structure Decimal where
  /-- Digits from the greatest; the last is not zero. -/
  digits : List Char
  /-- The power of ten of the first digit. -/
  exponent : Int
  deriving DecidableEq, Repr

/-- Which of two equally near decimals is taken. -/
inductive Tie where
  /-- The one whose last digit is even. -/
  | toEven
  /-- The greater one. -/
  | up
  deriving DecidableEq, Repr

/-- A positive number and the interval around it, as fractions over one denominator. -/
structure Interval where
  /-- Numerator of the lower end. -/
  low : Nat
  /-- Numerator of the number. -/
  middle : Nat
  /-- Numerator of the upper end. -/
  high : Nat
  /-- The common denominator. -/
  unit : Nat
  /-- The ends belong to the interval. -/
  closed : Bool

namespace Interval

/-- The numbers that round to a finite magnitude. The lower half is half as wide where the
neighbour below has the smaller power of two. -/
def around (x : Binary64) : Interval :=
  let quarters := 4 * x.significand
  let below := if x.fractionField = 0 ∧ 1 < x.exponentField then 1 else 2
  let up := (x.scale - 2).toNat
  { low := (quarters - below) <<< up
    middle := quarters <<< up
    high := (quarters + 2) <<< up
    unit := 1 <<< (2 - x.scale).toNat
    closed := x.significand % 2 = 0 }

/-- The interval measured in steps of a power of ten. -/
def onGrid (interval : Interval) (power : Int) : Interval :=
  let finer := Nat.pow 10 (-power).toNat
  { low := interval.low * finer
    middle := interval.middle * finer
    high := interval.high * finer
    unit := interval.unit * Nat.pow 10 power.toNat
    closed := interval.closed }

/-- A count of steps lies in the interval. -/
def holds (interval : Interval) (steps : Nat) : Bool :=
  if interval.closed then
    interval.low ≤ steps * interval.unit && steps * interval.unit ≤ interval.high
  else
    interval.low < steps * interval.unit && steps * interval.unit < interval.high

/-- The whole number in the interval that is nearest to the number, if any is in it. -/
def nearest? (interval : Interval) (tie : Tie) : Option Nat :=
  let below := interval.middle / interval.unit
  let above := below + 1
  match interval.holds below, interval.holds above with
  | false, false => none
  | true, false => some below
  | false, true => some above
  | true, true =>
    let down := interval.middle - below * interval.unit
    let up := above * interval.unit - interval.middle
    if down < up then some below
    else if up < down then some above
    else match tie with
      | .toEven => some (if below % 2 = 0 then below else above)
      | .up => some above

/-- The power of ten of the number's first digit. -/
def decade (interval : Interval) : Int :=
  if interval.unit ≤ interval.middle then
    ((Nat.toDigits 10 (interval.middle / interval.unit)).length : Int) - 1
  else
    match (List.range 330).find? fun power =>
        decide (interval.unit ≤ interval.middle * Nat.pow 10 power) with
    | some power => -(power : Int)
    | none => -330

end Interval

/-- A count of steps of a power of ten, written without trailing zeros. -/
def Decimal.ofSteps (steps : Nat) (power : Int) : Decimal :=
  let written := Nat.toDigits 10 steps
  { digits := (written.reverse.dropWhile (· == '0')).reverse
    exponent := (written.length : Int) - 1 + power }

/-- The decimal with the fewest digits that reads back as a finite magnitude other than zero.
Seventeen digits always suffice, so the last alternative is never taken. -/
def Decimal.shortest (tie : Tie) (x : Binary64) : Decimal :=
  let interval := Interval.around x
  let decade := interval.decade
  let found := (List.range 17).findSome? fun (count : Nat) =>
    let power := decade - count
    ((interval.onGrid power).nearest? tie).map fun steps => Decimal.ofSteps steps power
  found.getD ⟨['0'], 0⟩

end BrokerWire
