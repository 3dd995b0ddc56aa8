import Adventurer.Number.Binary64

/-!
# Decimal texts of doubles

A double is written either with the fewest digits that read back as the same double or rounded to
two places.  The digits are found in whole numbers: a double stands for the interval of reals that
round to it, and of the decimal grids from coarse to fine the first one with a point in that
interval is taken.
-/

namespace Adventurer

/-- Decimal digits and the power of ten they are multiplied by. -/
structure Decimal where
  digits : Nat
  exponent : Int
  deriving DecidableEq, Repr

namespace Decimal

/-- An interval of non-negative reals over a common denominator, with a point inside. -/
structure Interval where
  low : Nat
  point : Nat
  high : Nat
  den : Nat
  closed : Bool

/-- The reals that round to the double of a positive mantissa and an exponent of two. -/
def Interval.ofParts (m : Nat) (q : Int) : Interval :=
  let below := if m = Binary64.fullMantissa && -1074 < q then 1 else 2
  let unit := if 2 ≤ q then Binary64.twoTo (q - 2).toNat else 1
  let den := if 2 ≤ q then 1 else Binary64.twoTo (2 - q).toNat
  ⟨(4 * m - below) * unit, 4 * m * unit, (4 * m + 2) * unit, den, m % 2 = 0⟩

/-- Whether a ratio lies in an interval. -/
def Interval.holds (i : Interval) (num den : Nat) : Bool :=
  if i.closed then i.low * den ≤ num * i.den && num * i.den ≤ i.high * den
  else i.low * den < num * i.den && num * i.den < i.high * den

/-- Which of two equally near decimals is taken: the one with the even last digit or the upper. -/
inductive Tie where
  | even
  | upper
  deriving DecidableEq, Repr

/-- Whether a digit rather than the next one is taken, both being equally near. -/
def Tie.keeps (tie : Tie) (digit : Nat) : Bool :=
  match tie with
  | .even => digit % 2 = 0
  | .upper => false

/-- The point of the grid of ten to the `exponent` that lies in an interval and nearest to its inner
point. -/
def Interval.onGrid? (i : Interval) (tie : Tie) (exponent : Int) : Option Nat :=
  let up := if 0 ≤ exponent then Binary64.tenTo exponent.toNat else 1
  let down := if 0 ≤ exponent then 1 else Binary64.tenTo (-exponent).toNat
  let lower := i.point * down / (i.den * up)
  let distance := i.point * down - lower * (i.den * up)
  let rest := (lower + 1) * (i.den * up) - i.point * down
  match i.holds (lower * up) down, i.holds ((lower + 1) * up) down with
  | true, true =>
    some (if distance < rest || (distance = rest && tie.keeps lower) then lower else lower + 1)
  | true, false => some lower
  | false, true => some (lower + 1)
  | false, false => none

/-- Drops the zeros at the end of the digits; `bound` limits their number. -/
def trim : Nat → Nat → Int → Decimal
  | 0, digits, exponent => ⟨digits, exponent⟩
  | bound + 1, digits, exponent =>
    if digits % 10 = 0 && digits ≠ 0 then trim bound (digits / 10) (exponent + 1)
    else ⟨digits, exponent⟩

/-- The coarsest grid point in an interval, looked for on `steps` grids from `exponent` down. -/
def Interval.coarsest (i : Interval) (tie : Tie) : Nat → Int → Decimal
  | 0, _ => ⟨0, 0⟩
  | steps + 1, exponent =>
    match i.onGrid? tie exponent with
    | some 0 => coarsest i tie steps (exponent - 1)
    | some digits => trim 20 digits exponent
    | none => coarsest i tie steps (exponent - 1)

/-- The fewest digits that read back as a finite double, without its sign. -/
def shortest (tie : Tie) (x : Float) : Decimal :=
  let (m, q) := Binary64.parts x
  if m = 0 then ⟨0, 0⟩
  else
    let top : Int := ((q + (m.log2 : Int)) * 30103) / 100000 + 2
    (Interval.ofParts m q).coarsest tie 24 top

/-- The digits of a count in base ten. -/
def digitText (n : Nat) : List Char := Nat.toDigits 10 n

/-- Digits with a point `places` from the right, padded with zeros on the left. -/
def withPoint (digits : List Char) (places : Nat) : List Char :=
  let padded := List.replicate (places + 1 - digits.length) '0' ++ digits
  let whole := padded.length - places
  padded.take whole ++ '.' :: padded.drop whole

/-- A decimal without an exponent, and without a point if it is whole. -/
def positional (d : Decimal) : List Char :=
  if 0 ≤ d.exponent then digitText d.digits ++ List.replicate d.exponent.toNat '0'
  else withPoint (digitText d.digits) (-d.exponent).toNat

/-- Puts the sign of a double before a text. -/
def signed (x : Float) (text : List Char) : String :=
  String.ofList (if Binary64.isNegative x then '-' :: text else text)

/-- The shortest text of a double that reads back, without an exponent; of two equally near ones the
upper, without regard to the sign. -/
def text (x : Float) : String :=
  if x.isNaN then "NaN" else if x.isInf then signed x "inf".toList
  else signed x (positional (shortest .upper x))

/-- A double rounded to two places, a tie to the even neighbour. -/
def twoPlaces (x : Float) : String :=
  if x.isNaN then "NaN" else if x.isInf then signed x "inf".toList
  else
    let (num, den) := Binary64.ratio x
    signed x (withPoint (digitText (Binary64.divideToEven (num * 100) den)) 2)

end Decimal

end Adventurer
