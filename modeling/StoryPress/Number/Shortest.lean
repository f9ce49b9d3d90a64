import StoryPress.Number.Double

/-! The decimal written for a double has the fewest digits among those that round back to it, and of
these it is the nearest. `Layout` holds what a format adds to the digits. -/
namespace StoryPress.Number

/-- The number `digits * 10 ^ exponent`. -/
structure Decimal where
  digits : Nat
  exponent : Int
  deriving DecidableEq, Repr

/-- The reals that round to a positive double, as a closed or open interval, in quarter units. -/
structure Interval where
  low : Nat
  value : Nat
  high : Nat
  closed : Bool

namespace Interval

def ofUnits (units : Nat) : Interval :=
  let shift := units.log2 - 52
  let half := 2 <<< shift
  let below := if 0 < shift && units == 1 <<< units.log2 then half / 2 else half
  ⟨4 * units - below, 4 * units, 4 * units + half, (units >>> shift) % 2 == 0⟩

def contains (i : Interval) (num den : Nat) : Bool :=
  if i.closed then i.low * den ≤ num && num ≤ i.high * den
  else i.low * den < num && num < i.high * den

end Interval

/-- The quarter units of `digits * 10 ^ exponent`, as a fraction. -/
def Decimal.quarters (d : Decimal) : Nat × Nat :=
  let scaled := d.digits * (4 * Double.one)
  if 0 ≤ d.exponent then (scaled * Double.tenTo d.exponent.toNat, 1)
  else (scaled, Double.tenTo (-d.exponent).toNat)

/-- Of the value's two neighbours on the grid of multiples of a power of ten, the nearer one that
rounds back; of two equally near ones the even one. -/
def onGrid? (i : Interval) (exponent : Int) : Option Decimal :=
  let (num, den) :=
    if 0 ≤ exponent then (i.value, 4 * Double.one * Double.tenTo exponent.toNat)
    else (i.value * Double.tenTo (-exponent).toNat, 4 * Double.one)
  let down := num / den
  let rest := num % den
  let fits (digits : Nat) : Bool :=
    let (n, d) := (Decimal.mk digits exponent).quarters
    i.contains n d
  let preferUp := den < 2 * rest || (den == 2 * rest && down % 2 == 1)
  let (first, second) := if preferUp then (down + 1, down) else (down, down + 1)
  if 0 < first && fits first then some ⟨first, exponent⟩
  else if 0 < second && fits second then some ⟨second, exponent⟩
  else none

/-- The exponent `k` with `10 ^ (k - 1) ≤ value < 10 ^ k`, for a positive number of units. -/
def decimalPoint (units : Nat) : Int :=
  ((Nat.toDigits 10 (units * Double.tenTo 400 / Double.one)).length : Int) - 400

/-- Grids from one digit on, with at most `fuel` of them. -/
def firstGrid (i : Interval) (point : Int) : Nat → Nat → Decimal
  | 0, _ => ⟨0, 0⟩
  | fuel + 1, count =>
    match onGrid? i (point - count) with
    | some d => d
    | none => firstGrid i point fuel (count + 1)

def Decimal.strip : Nat → Decimal → Decimal
  | 0, d => d
  | fuel + 1, d =>
    if d.digits != 0 && d.digits % 10 == 0 then
      Decimal.strip fuel ⟨d.digits / 10, d.exponent + 1⟩
    else d

/-- Seventeen digits always suffice. -/
def shortest (units : Nat) : Decimal :=
  if units == 0 then ⟨0, 0⟩
  else (firstGrid (Interval.ofUnits units) (decimalPoint units) 17 1).strip 18

/-- What a written format adds to the digits of a number. -/
structure Layout where
  /-- Positional writing is used while the decimal point lies after this many places or more. -/
  leastPoint : Option Int
  /-- Positional writing is used while the decimal point lies after this many places or fewer. -/
  greatestPoint : Option Int
  /-- Whether a whole number ends in `.0`. -/
  keepFraction : Bool

private def zeros (n : Nat) : String := String.ofList (List.replicate n '0')

/-- Digits with the decimal point after `point` places. -/
def positional (format : Layout) (digits : String) (point : Int) : String :=
  if point ≤ 0 then "0." ++ zeros (-point).toNat ++ digits
  else if (digits.length : Int) ≤ point then
    digits ++ zeros (point.toNat - digits.length) ++ (if format.keepFraction then ".0" else "")
  else String.ofList (digits.toList.take point.toNat) ++ "." ++
    String.ofList (digits.toList.drop point.toNat)

def scientific (digits : String) (point : Int) : String :=
  let mantissa := match digits.toList with
    | [] => ""
    | [d] => String.singleton d
    | d :: rest => String.singleton d ++ "." ++ String.ofList rest
  let exponent := point - 1
  mantissa ++ (if exponent < 0 then "e-" else "e+") ++ toString exponent.natAbs

def Double.write (format : Layout) (d : Double) : String :=
  let magnitude :=
    if d.isZero then (if format.keepFraction then "0.0" else "0")
    else
      let s := shortest d.units
      let digits := toString s.digits
      let point := s.exponent + digits.length
      let small := match format.leastPoint with
        | some least => decide (point < least)
        | none => false
      let large := match format.greatestPoint with
        | some greatest => decide (greatest < point)
        | none => false
      if small || large then scientific digits point else positional format digits point
  (if d.negative then "-" else "") ++ magnitude

end StoryPress.Number
