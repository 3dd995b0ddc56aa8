import Adventurer.Markup.Reader
import Adventurer.Markup.Toml.Basic

/-!
# Numbers, dates and words of TOML

Numbers, truth values, dates and times are written without quotes.  Such a word is taken as a whole
and stands for whatever its form says.
-/

namespace Adventurer.Toml

/-- Digits in a base, with single underscores between them. -/
def digitsIn? (base : Nat) (text : List Char) : Option (List Char) :=
  let rec go : Bool → List Char → Option (List Char)
    | afterDigit, [] => if afterDigit then some [] else none
    | afterDigit, '_' :: rest => if afterDigit then go false rest else none
    | _, c :: rest => do
      let _ ← digitIn? base c
      return c :: (← go true rest)
  go false text

/-- The sign of a number and what follows it. -/
def signOf : List Char → Bool × List Char
  | '-' :: rest => (true, rest)
  | '+' :: rest => (false, rest)
  | chars => (false, chars)

/-- Decimal digits that do not begin with a zero unless it stands alone. -/
def decimalDigits? (text : List Char) : Option (List Char) := do
  let digits ← digitsIn? 10 text
  if digits.head? = some '0' && digits.length ≠ 1 then none else return digits

/-- A whole number. -/
def int? (text : List Char) : Option Int :=
  let unsigned (base : Nat) (digits : List Char) : Option Int := do
    return ((← numberIn? base (← digitsIn? base digits)) : Nat)
  match text with
  | '0' :: 'x' :: digits => unsigned 16 digits
  | '0' :: 'o' :: digits => unsigned 8 digits
  | '0' :: 'b' :: digits => unsigned 2 digits
  | _ => do
    let (negative, digits) := signOf text
    let size ← numberIn? 10 (← decimalDigits? digits)
    return if negative then -(size : Int) else size

/-- A text split at the first character that passes a test. -/
def splitAt? (test : Char → Bool) (text : List Char) : List Char × Option (List Char) :=
  match text.dropWhile (!test ·) with
  | [] => (text, none)
  | _ :: rest => (text.takeWhile (!test ·), some rest)

/-- The exponent of a double. -/
def powerOf? (chars : List Char) : Option Int := do
  let (below, digits) := signOf chars
  let size ← numberIn? 10 (← digitsIn? 10 digits)
  return if below then -(size : Int) else size

/-- A double with a fraction, an exponent or both, behind its sign. -/
def finite? (negative : Bool) (text : List Char) : Option Toml := do
  let (mantissa, power) := splitAt? (fun c => c = 'e' || c = 'E') text
  let (whole, fraction) := splitAt? (· = '.') mantissa
  if fraction.isNone && power.isNone then none
  let whole ← decimalDigits? whole
  let fraction ← match fraction with
    | none => some []
    | some digits => digitsIn? 10 digits
  let exponent ← match power with
    | none => some (0 : Int)
    | some chars => powerOf? chars
  let value := Binary64.ofDecimal negative (← numberIn? 10 (whole ++ fraction))
    (exponent - fraction.length)
  return if value.isInf then beyond else float value

/-- A double, or one of the words for what is no finite number. -/
def float? (text : List Char) : Option Toml :=
  let (negative, size) := signOf text
  let special (x : Float) : Toml := float (if negative then -x else x)
  if size = "inf".toList then some (special (1.0 / 0.0))
  else if size = "nan".toList then some (special (0.0 / 0.0))
  else finite? negative size

/-- A number of two digits. -/
def twoDigits? (a b : Char) : Option Nat := numberIn? 10 [a, b]

/-- Number of days of a month. -/
def daysOf (year month : Nat) : Nat :=
  if month = 2 then
    if year % 4 = 0 && (year % 100 ≠ 0 || year % 400 = 0) then 29 else 28
  else if month ∈ [4, 6, 9, 11] then 30
  else 31

/-- What follows a date. -/
def dateRest? : List Char → Option (List Char)
  | a :: b :: c :: d :: '-' :: e :: f :: '-' :: g :: h :: rest => do
    let year ← numberIn? 10 [a, b, c, d]
    let month ← twoDigits? e f
    let day ← twoDigits? g h
    if 1 ≤ month && month ≤ 12 && 1 ≤ day && day ≤ daysOf year month then return rest else none
  | _ => none

/-- What follows a second, past its fraction if it has one. -/
def fractionRest? : List Char → Option (List Char)
  | '.' :: digits =>
    if (digits.takeWhile Char.isDigit).isEmpty then none else some (digits.dropWhile Char.isDigit)
  | rest => some rest

/-- What follows a time of day, which may do without seconds. -/
def timeRest? : List Char → Option (List Char)
  | a :: b :: ':' :: c :: d :: rest => do
    let hour ← twoDigits? a b
    let minute ← twoDigits? c d
    if 23 < hour || 59 < minute then none
    match rest with
    | ':' :: e :: f :: rest => do
      let second ← twoDigits? e f
      if second ≤ 60 then fractionRest? rest else none
    | _ => return rest
  | _ => none

/-- Whether a text is the offset of a time zone. -/
def isOffset : List Char → Bool
  | ['Z'] | ['z'] => true
  | sign :: a :: b :: ':' :: c :: [d] =>
    (sign = '+' || sign = '-')
      && (twoDigits? a b).any (· ≤ 23) && (twoDigits? c d).any (· ≤ 59)
  | _ => false

/-- Whether a text is a date, a time or both. -/
def isDate (text : List Char) : Bool :=
  match dateRest? text with
  | some [] => true
  | some (mark :: rest) =>
    (mark = 'T' || mark = 't' || mark = ' ')
      && (timeRest? rest).any fun left => left.isEmpty || isOffset left
  | none => timeRest? text = some []

/-- What a word without quotes stands for. -/
def word? (text : List Char) : Option Toml :=
  if text = "true".toList then some (bool true)
  else if text = "false".toList then some (bool false)
  else if isDate text then some date
  else match int? text with
    | some i => some (int i)
    | none => float? text

end Adventurer.Toml
