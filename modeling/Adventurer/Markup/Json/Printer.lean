import Adventurer.Markup.Json.Basic
import Adventurer.Number.Decimal

/-!
# Writing JSON

A value is written on one line, or with every item of a list and every field of an object on a line
of its own.  Doubles are written with the fewest digits that read back and never look like whole
numbers.
-/

namespace Adventurer.Json

/-- The escape of a character in a text, the character itself where none is needed. -/
def escape (c : Char) : List Char :=
  match c with
  | '"' => ['\\', '"']
  | '\\' => ['\\', '\\']
  | '\n' => ['\\', 'n']
  | '\r' => ['\\', 'r']
  | '\t' => ['\\', 't']
  | '\x08' => ['\\', 'b']
  | '\x0c' => ['\\', 'f']
  | _ =>
    if c.toNat < 0x20 then
      let digits := Nat.toDigits 16 c.toNat
      ['\\', 'u'] ++ List.replicate (4 - digits.length) '0' ++ digits
    else [c]

/-- A text in quotes. -/
def quote (s : String) : String := String.ofList ('"' :: (s.toList.flatMap escape ++ ['"']))

/-- Digits with a point behind the first one and an exponent. -/
def scientific (digits : List Char) (exponent : Int) : List Char :=
  let tail := match digits with
    | [] => []
    | [d] => [d]
    | d :: rest => d :: '.' :: rest
  tail ++ 'e' :: (toString exponent).toList

/-- A decimal: without an exponent where the point lies at most five places before and sixteen
places behind the first digit, and always with a point or an exponent. -/
def decimalText (d : Decimal) : List Char :=
  let digits := Decimal.digitText d.digits
  let point : Int := digits.length + d.exponent
  if -5 < point && point ≤ 16 then
    if 0 ≤ d.exponent then Decimal.positional d ++ ['.', '0'] else Decimal.positional d
  else scientific digits (point - 1)

/-- A double, with an even last digit where two texts are equally near; one that is no number is
written as null. -/
def floatText (x : Float) : String :=
  if x.isNaN || x.isInf then "null" else Decimal.signed x (decimalText (Decimal.shortest .even x))

/-- How lists and objects are laid out: on one line, or indented by two blanks a level. -/
inductive Layout where
  | line
  | indented

/-- The break before an item at a depth. -/
def Layout.lineBreak : Layout → Nat → String
  | line, _ => ""
  | indented, depth => "\n" ++ String.ofList (List.replicate (2 * depth) ' ')

/-- What stands between a name and its value. -/
def Layout.colon : Layout → String
  | line => ":"
  | indented => ": "

/-- Written items between brackets. -/
def bracket (layout : Layout) (depth : Nat) (opening closing : String) (items : List String) :
    String :=
  if items.isEmpty then opening ++ closing
  else
    let start := layout.lineBreak (depth + 1)
    opening ++ start ++ ("," ++ start).intercalate items ++ layout.lineBreak depth ++ closing

mutual

/-- Writes a value at a depth. -/
def renderAt (layout : Layout) (depth : Nat) : Json → String
  | null => "null"
  | bool true => "true"
  | bool false => "false"
  | int i => toString i
  | float x => floatText x
  | text s => quote s
  | list items => bracket layout depth "[" "]" (renderItems layout (depth + 1) items)
  | fields entries =>
    bracket layout depth "\x7b" "\x7d" (renderFields layout (depth + 1) entries)

/-- Writes the items of a list. -/
def renderItems (layout : Layout) (depth : Nat) : List Json → List String
  | [] => []
  | v :: rest => renderAt layout depth v :: renderItems layout depth rest

/-- Writes the fields of an object. -/
def renderFields (layout : Layout) (depth : Nat) : List (String × Json) → List String
  | [] => []
  | (name, v) :: rest =>
    (quote name ++ layout.colon ++ renderAt layout depth v) :: renderFields layout depth rest

end

/-- A value on one line. -/
def render (v : Json) : String := renderAt .line 0 v

/-- A value over several lines. -/
def pretty (v : Json) : String := renderAt .indented 0 v

end Adventurer.Json
