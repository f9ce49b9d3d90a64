/-! A finite double is a sign and a count of units, the unit being the smallest positive double, 2 ^
(-1074). Every finite double is a whole number of units, so order and arithmetic are those of the
integers, followed by rounding to 53 significant binary digits. -/
namespace StoryPress.Number

structure Double where
  negative : Bool
  units : Nat
  deriving DecidableEq, Repr

namespace Double

def tenTo (exponent : Nat) : Nat := Nat.pow 10 exponent

/-- How many units make one. -/
def one : Nat := 1 <<< 1074

/-- From this many units on there is no finite double. -/
def limit : Nat := 1 <<< 2098

/-- The nearest whole number to a quotient that has at most 53 significant binary digits; of two
equally near ones the one whose last significant digit is even. -/
def roundQuotient (num den : Nat) : Nat :=
  let shift := (num / den).log2 + 1 - 53
  let step := den <<< shift
  let quotient := num / step
  let rest := num % step
  let up := step < 2 * rest || (step == 2 * rest && quotient % 2 == 1)
  (if up then quotient + 1 else quotient) <<< shift

def toInt (d : Double) : Int := if d.negative then -(d.units : Int) else d.units

def ofUnits? (negative : Bool) (units : Nat) : Option Double :=
  if units < limit then some ⟨negative, units⟩ else none

/-- The double nearest to `(num / den)`, if it is finite. -/
def ofQuotient? (negative : Bool) (num den : Nat) : Option Double :=
  ofUnits? negative (roundQuotient (num * one) den)

/-- The double nearest to an integer of less than a thousand binary digits. -/
def ofInt (i : Int) : Double := ⟨i < 0, roundQuotient (i.natAbs * one) 1⟩

def zero : Double := ⟨false, 0⟩

def isZero (d : Double) : Bool := d.units == 0

/-- Order and equality are those of the values, so the two zeros are equal. -/
def cmp (a b : Double) : Ordering := compare a.toInt b.toInt

/-- The number written by decimal digits, a point and digits after it. -/
def ofDigits? (negative : Bool) (whole fraction : List Nat) : Option Double :=
  ofQuotient? negative ((whole ++ fraction).foldl (fun n d => 10 * n + d) 0)
    (tenTo fraction.length)

/-- The double nearest to a power of ten with exponent at most 308. -/
def powerOfTen (exponent : Nat) : Nat := roundQuotient (tenTo exponent * one) 1

/-- A magnitude in units, scaled by a power of ten: one rounded multiplication or division by the
nearest double to the power. A quotient too small for the table of powers is first divided by
1e308 as often as needed; a product too large for it has no value. -/
def scaleByTen? : Nat → Nat → Int → Option Nat
  | 0, units, _ => some units
  | rounds + 1, units, exponent =>
    if exponent.natAbs ≤ 308 then
      let power := powerOfTen exponent.natAbs
      if exponent < 0 then some (roundQuotient (units * one) power)
      else
        let product := roundQuotient (units * power) one
        if product < limit then some product else none
    else if units == 0 then some 0
    else if 0 ≤ exponent then none
    else scaleByTen? rounds (roundQuotient (units * one) (powerOfTen 308)) (exponent + 308)

/-- A significand below 2 ^ 64 times a power of ten, computed by rounded operations. -/
def ofScaled? (negative : Bool) (significand : Nat) (exponent : Int) : Option Double :=
  (scaleByTen? 8 (roundQuotient (significand * one) 1) exponent).map (⟨negative, ·⟩)

end Double

end StoryPress.Number
