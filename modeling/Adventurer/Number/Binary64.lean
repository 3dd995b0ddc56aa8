import Adventurer.Number.Width

/-!
# Binary floating point, exactly

A finite double is a whole number times a power of two.  This module reads that number off the bits,
finds the double nearest to a ratio of whole numbers, and fixes how powers, casts and roundings of
doubles are taken.
-/

namespace Adventurer.Binary64

/-- A power of two. -/
def twoTo (exponent : Nat) : Nat := Nat.pow 2 exponent

/-- A power of ten. -/
def tenTo (exponent : Nat) : Nat := Nat.pow 10 exponent

/-- The mantissa at which a double has its full precision. -/
def fullMantissa : Nat := twoTo 52

/-- Whether a double is below zero or the negative zero. -/
def isNegative (x : Float) : Bool := x.toBits.toNat.testBit 63

/-- The whole number and the exponent of two whose product is the absolute value of a finite
double. -/
def parts (x : Float) : Nat × Int :=
  let bits := x.toBits.toNat
  let mantissa : Nat := bits % fullMantissa
  let exponent : Nat := bits / fullMantissa % 2048
  if exponent = 0 then (mantissa, -1074) else (mantissa + fullMantissa, (exponent : Int) - 1075)

/-- The absolute value of a finite double as a numerator and a positive denominator. -/
def ratio (x : Float) : Nat × Nat :=
  let (m, q) := parts x
  if 0 ≤ q then (m * twoTo q.toNat, 1) else (m, twoTo (-q).toNat)

/-- The quotient of two whole numbers rounded to the nearest one, a half to the even neighbour. -/
def divideToEven (num den : Nat) : Nat :=
  let q := num / den
  let twice := 2 * (num % den)
  if den < twice || (twice = den && q % 2 = 1) then q + 1 else q

/-- The double nearest to a ratio, of two equally near ones the even one, under a sign. -/
def ofRatio (negative : Bool) (num den : Nat) : Float :=
  let sign : Nat := if negative then twoTo 63 else 0
  let guess : Int := max ((num.log2 : Int) - den.log2 - 52) (-1074)
  let scaled (q : Int) : Nat × Nat :=
    if 0 ≤ q then (num, den * twoTo q.toNat) else (num * twoTo (-q).toNat, den)
  let wide := scaled guess
  let q := if wide.1 < wide.2 * fullMantissa && -1074 < guess then guess - 1 else guess
  let (n, d) := scaled q
  let m := divideToEven n d
  let bits :=
    if m < fullMantissa then m
    else min ((q + 1075).toNat * fullMantissa + (m - fullMantissa)) (2047 * fullMantissa)
  Float.ofBits (sign + bits).toUInt64

/-- The double nearest to `digits * 10 ^ exponent` under a sign. -/
def ofDecimal (negative : Bool) (digits : Nat) (exponent : Int) : Float :=
  if digits = 0 || exponent < -(400 + digits.log2) then ofRatio negative 0 1
  else if 400 < exponent then ofRatio negative (tenTo 400) 1
  else if 0 ≤ exponent then ofRatio negative (digits * tenTo exponent.toNat) 1
  else ofRatio negative digits (tenTo (-exponent).toNat)

/-- A count of at most sixty-four bits as a double. -/
def ofNat (n : Nat) : Float := n.toUInt64.toFloat

/-- A whole number of at most sixty-four bits with sign as a double. -/
def ofInt (i : Int) : Float := (Int64.ofInt i).toFloat

/-- Multiplies `result` by `base` to the `exponent`, squaring the base from bit to bit. -/
def raise (result base : Float) (exponent : Nat) : Float :=
  let product := if exponent % 2 = 1 then result * base else result
  if exponent / 2 = 0 then product else raise product (base * base) (exponent / 2)
termination_by exponent

/-- An integral power by repeated squaring. -/
def power (base : Float) (exponent : Int) : Float :=
  let magnitude := raise 1.0 base exponent.natAbs
  if exponent < 0 then 1.0 / magnitude else magnitude

/-- The whole part of a double as a count of sixty-four bits: none below zero, at most the largest.
-/
def toCount (x : Float) : Nat := x.toUInt64.toNat

/-- The count nearest to a double that is not below zero, of two equally near ones the upper. -/
def nearestCount (x : Float) : Nat :=
  let whole := toCount x
  if 0.5 ≤ x - ofNat whole then whole + 1 else whole

/-- The whole part of a double, kept within thirty-two bits with sign. -/
def toInt32 (x : Float) : Int := x.toInt32.toInt

/-- The whole part of a double, kept within sixty-four bits with sign. -/
def toInt64 (x : Float) : Int := x.toInt64.toInt

end Adventurer.Binary64
