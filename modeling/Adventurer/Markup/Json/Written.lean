import Adventurer.Markup.Json.Basic

/-!
# JSON as it is written

A value whose numbers and texts are kept as they stand.  A number may lie past the range of doubles,
and a text may hold one half of a pair of code units: that is a fault only where the value is asked
for.  A value all of which makes sense, and which is not nested too deep, is a value of JSON.
-/

namespace Adventurer.Json

/-- A value as it is written; of a text what stands between its quotes. -/
inductive Written where
  | null
  | bool (value : Bool)
  | number (numeral : Numeral)
  | text (chars : List Char)
  | list (items : List Written)
  | fields (entries : List (List Char × Written))

namespace Written

instance : Inhabited Written := ⟨null⟩

/-- The code of four hexadecimal digits. -/
def code4? (a b c d : Char) : Option Nat := numberIn? 16 [a, b, c, d]

/-- The character of an escape of one letter. -/
def shortEscape? : Char → Option Char
  | '"' => some '"'
  | '\\' => some '\\'
  | '/' => some '/'
  | 'b' => some '\x08'
  | 'f' => some '\x0c'
  | 'n' => some '\n'
  | 'r' => some '\r'
  | 't' => some '\t'
  | _ => none

/-- The code that the two halves of a pair stand for. -/
def pairCode? (high low : Nat) : Option Nat :=
  if 0xD800 ≤ high && high < 0xDC00 && 0xDC00 ≤ low && low < 0xE000 then
    some (0x10000 + (high - 0xD800) * 0x400 + (low - 0xDC00))
  else none

/-- The characters that a written text stands for. -/
def plain? : List Char → Option (List Char)
  | [] => some []
  | '\\' :: 'u' :: a :: b :: c :: d :: '\\' :: 'u' :: e :: f :: g :: h :: rest => do
    let first ← code4? a b c d
    match pairCode? first (← code4? e f g h) with
    | some code => return (← charOf? code) :: (← plain? rest)
    | none => return (← charOf? first) :: (← plain? ('\\' :: 'u' :: e :: f :: g :: h :: rest))
  | '\\' :: 'u' :: a :: b :: c :: d :: rest => do
    return (← charOf? (← code4? a b c d)) :: (← plain? rest)
  | '\\' :: e :: rest => do return (← shortEscape? e) :: (← plain? rest)
  | c :: rest => do
    if c = '\\' then none
    return c :: (← plain? rest)
termination_by chars => chars.length

/-- The text that a written text stands for. -/
def textOf? (chars : List Char) : Option String := (plain? chars).map String.ofList

/-- The value of JSON that a written value stands for, if it is nested at most `depth` deep. -/
def value? : (depth : Nat) → Written → Option Json
  | _, null => some .null
  | _, bool b => some (.bool b)
  | _, number n =>
    match n.whole? with
    | some i => some (.int i)
    | none => n.double?.map .float
  | _, text chars => (textOf? chars).map .text
  | 0, list _ | 0, fields _ => none
  | depth + 1, list items => (items.mapM (value? depth)).map .list
  | depth + 1, fields entries =>
    (entries.mapM fun (name, held) => do return (← textOf? name, ← value? depth held)).map .fields

/-- Numbers and texts are made sense of when they are asked for, and ignored values not at all. -/
instance : Markup Written where
  bool?
    | bool b => some b
    | _ => none
  int? width
    | number n => n.whole?.bind width.fit?
    | _ => none
  float?
    | number n =>
      match n.whole? with
      | some i => floatOfInt? i
      | none => n.double?
    | _ => none
  text?
    | text chars => textOf? chars
    | _ => none
  list?
    | list items => some items
    | _ => none
  tuple?
    | list items => some items
    | _ => none
  optional?
    | null => some none
    | v => some (some v)
  wrapped? _ v := some v
  record? _
    | fields entries => do
      return .named (← entries.mapM fun e => do return (← textOf? e.1, e.2))
    | list items => some (.ordered items true)
    | _ => none
  numbered? width
    | fields entries => entries.mapM fun e => do return (← Numeral.ofName? width e.1, e.2)
    | _ => none
  variant?
    | text chars => (textOf? chars).map fun name => (name, none)
    | fields [(chars, held)] => (textOf? chars).map fun name => (name, some held)
    | _ => none
  isUnit
    | null => true
    | _ => false
  mayIgnore _ := true

end Written

end Adventurer.Json
