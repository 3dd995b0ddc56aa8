import Adventurer.Markup.Basic
import Adventurer.Markup.Reader

/-!
# Numbers of JSON

A number as it is written, and what it stands for: a whole number where it is written as one and
fits sixty-four bits, and else a double, if there is one near enough.
-/

namespace Adventurer.Json

open Reader

/-- A number as it is written. -/
structure Numeral where
  negative : Bool
  /-- The digits before the point. -/
  whole : List Char
  /-- The digits behind the point, if there is one. -/
  fraction : Option (List Char)
  exponent : Option Int

namespace Numeral

/-- The digits as one number. -/
def size? (n : Numeral) : Option Nat := numberIn? 10 (n.whole ++ n.fraction.getD [])

/-- The whole number of a numeral without point and exponent; none for the negative zero and past
sixty-four bits. -/
def whole? (n : Numeral) : Option Int := do
  let size ← n.size?
  let signed : Int := if n.negative then -(size : Int) else size
  let isWhole := n.fraction.isNone && n.exponent.isNone && !(n.negative && size = 0)
  if isWhole && minInt64 ≤ signed && signed ≤ max64 then return signed else none

/-- The nearest double; none past the range of doubles. -/
def double? (n : Numeral) : Option Float := do
  let value := Binary64.ofDecimal n.negative (← n.size?)
    (n.exponent.getD 0 - (n.fraction.getD []).length)
  if value.isInf then none else return value

/-- The digits before the point: a zero alone, or any that do not begin with one. -/
def wholeDigits : Reader (List Char) := do
  let digits ← takeWhile Char.isDigit
  ensure (!digits.isEmpty && (digits.length = 1 || digits.head? ≠ some '0'))
  return digits

/-- The digits behind the point, if there is one. -/
def fractionDigits? : Reader (Option (List Char)) := do
  if ← accept '.' then
    let digits ← takeWhile Char.isDigit
    ensure (!digits.isEmpty)
    return some digits
  else return none

/-- The exponent, if there is one. -/
def exponentDigits? : Reader (Option Int) := do
  if (← accept 'e') || (← accept 'E') then
    let negative ← accept '-'
    unless negative do let _ ← accept '+'
    let digits ← takeWhile Char.isDigit
    let size ← Reader.ofOption (wholeIn? 10 digits)
    return some (if negative then -(size : Int) else size)
  else return none

/-- Reads a number. -/
def reader : Reader Numeral := do
  let negative ← accept '-'
  let whole ← wholeDigits
  let fraction ← fractionDigits?
  return { negative, whole, fraction, exponent := ← exponentDigits? }

/-- The whole number of a width that is written as a name. -/
def ofName? (width : IntWidth) (name : List Char) : Option Int := do
  width.fit? (← (← reader.read? name).whole?)

end Numeral

end Adventurer.Json
