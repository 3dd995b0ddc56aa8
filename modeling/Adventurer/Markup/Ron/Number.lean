import Adventurer.Markup.Basic
import Adventurer.Markup.Reader

/-!
# Numbers of RON

A number is taken off a text as a whole, with its sign, its base and the name of its width, and
stands for whatever is asked of it.
-/

namespace Adventurer.Ron

/-- The sign of a number and what follows it. -/
def signOf : List Char → Bool × List Char
  | '-' :: rest => (true, rest)
  | '+' :: rest => (false, rest)
  | chars => (false, chars)

/-- The base of a whole number and its digits. -/
def baseOf : List Char → Nat × List Char
  | '0' :: 'b' :: digits => (2, digits)
  | '0' :: 'o' :: digits => (8, digits)
  | '0' :: 'x' :: digits => (16, digits)
  | digits => (10, digits)

/-- Whether a character is read as a digit of a whole number. -/
def isDigitChar (c : Char) : Bool := (digitIn? 16 c).isSome || c = '_'

/-- Whether the name of a width may stand behind the digits of a base: the marks of the bases eight
and sixteen are no digits, and a name is looked for behind what looks like digits. -/
def mayNameWidth (base : Nat) : Bool := base = 2 || base = 10

/-- A whole number of a width, with underscores behind its first digit and the name of the width at
its end or not. -/
def int? (width : IntWidth) (lexeme : List Char) : Option Int := do
  let (negative, unsigned) := signOf lexeme
  let (base, chars) := baseOf unsigned
  let digits := chars.takeWhile isDigitChar
  let ending := chars.dropWhile isDigitChar
  if digits.head? = some '_' then none
  if !ending.isEmpty && !(mayNameWidth base && ending = width.name.toList) then none
  let size ← wholeIn? base (digits.filter (· ≠ '_'))
  width.fit? (if negative then -(size : Int) else size)

/-- Takes out the underscores that stand behind a digit or an exponent mark; none if there is
another one. -/
def dropUnderscores? : Bool → List Char → Option (List Char)
  | _, [] => some []
  | allowed, '_' :: rest => if allowed then dropUnderscores? allowed rest else none
  | allowed, c :: rest => do
    let allowed := if c.isDigit || c = 'e' || c = 'E' then true else allowed && c ≠ '.'
    return c :: (← dropUnderscores? allowed rest)

/-- The exponent of a double, behind its mark. -/
def powerOf? (chars : List Char) : Option Int := do
  let (below, digits) := signOf chars
  let size ← wholeIn? 10 digits
  return if below then -(size : Int) else size

/-- A double: digits with a point before, between or behind them, and an exponent or not. -/
def finite? (negative : Bool) (chars : List Char) : Option Float := do
  let mantissa := chars.takeWhile fun c => c ≠ 'e' && c ≠ 'E'
  let exponent ← match chars.dropWhile fun c => c ≠ 'e' && c ≠ 'E' with
    | [] => some 0
    | _ :: power => powerOf? power
  let whole := mantissa.takeWhile (· ≠ '.')
  let fraction := (mantissa.dropWhile (· ≠ '.')).drop 1
  let size ← wholeIn? 10 (whole ++ fraction)
  return Binary64.ofDecimal negative size (exponent - fraction.length)

/-- One of the words for what is no finite number. -/
def special? (chars : List Char) : Option Float :=
  if chars = "inf".toList then some (1.0 / 0.0)
  else if chars = "NaN".toList then some (0.0 / 0.0)
  else none

/-- A number without the name of a width at its end. -/
def withoutWidth (name : String) (chars : List Char) : List Char :=
  if name.toList.isSuffixOf chars then chars.take (chars.length - name.length) else chars

/-- A double that names no width, or one of the words for what is no finite number. -/
def double? (lexeme : List Char) : Option Float :=
  let (negative, size) := signOf lexeme
  match special? size with
  | some x => some (if negative then -x else x)
  | none => (dropUnderscores? false size).bind (finite? negative)

/-- A double, with the name of its width at its end or not. -/
def float? (lexeme : List Char) : Option Float := double? (withoutWidth "f64" lexeme)

/-- Whether a text is a number of any width. -/
def isNumber (lexeme : List Char) : Bool :=
  IntWidth.all.any (fun width => (int? width lexeme).isSome) || (float? lexeme).isSome
    || (double? (withoutWidth "f32" lexeme)).isSome

end Adventurer.Ron
