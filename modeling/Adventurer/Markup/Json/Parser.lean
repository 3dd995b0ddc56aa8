import Adventurer.Markup.Json.Written

/-!
# Reading JSON

The grammar of JSON texts.  A text that follows it is a written value; it stands for a value if all
of it makes sense and values are nested at most one hundred and twenty-seven deep.
-/

namespace Adventurer.Json

open Reader

/-- The deepest nesting of lists and objects in a value. -/
def maxDepth : Nat := 127

namespace Written

/-- Takes white space. -/
def blanks : Reader Unit := do
  let _ ← takeWhile fun c => c = ' ' || c = '\n' || c = '\t' || c = '\r'

/-- What stands before the closing quote of a text, and what follows the quote. -/
def textBody? : List Char → Option (List Char × List Char)
  | '"' :: rest => some ([], rest)
  | '\\' :: 'u' :: a :: b :: c :: d :: rest => do
    let _ ← code4? a b c d
    let (s, rest) ← textBody? rest
    return ('\\' :: 'u' :: a :: b :: c :: d :: s, rest)
  | '\\' :: e :: rest => do
    let _ ← shortEscape? e
    let (s, rest) ← textBody? rest
    return ('\\' :: e :: s, rest)
  | c :: rest =>
    if c.toNat < 0x20 || c = '\\' then none
    else do
      let (s, rest) ← textBody? rest
      return (c :: s, rest)
  | [] => none

/-- A text behind its opening quote. -/
def textRest : Reader (List Char) := textBody?

/-- A word that has to come next. -/
def word (text : String) (value : Written) : Reader Written := do
  ensure (← acceptText text)
  return value

/-- Items between commas up to a closing mark. -/
def items {α : Type} (item : Reader α) (close : Char) : Reader (List α) := do
  blanks
  if ← accept close then return []
  let read ← loop ([] : List α) fun read => do
    let value ← item
    blanks
    if ← accept ',' then blanks; return (value :: read, true)
    else expect close; return (value :: read, false)
  return read.reverse

/-- A field of an object. -/
def entry (value : Reader Written) : Reader (List Char × Written) := do
  expect '"'
  let name ← textRest
  blanks
  expect ':'
  blanks
  return (name, ← value)

/-- A value that holds no others. -/
def atom : Reader Written := do
  match ← peek? with
  | some 'n' => word "null" null
  | some 't' => word "true" (bool true)
  | some 'f' => word "false" (bool false)
  | some '"' => let _ ← next; return text (← textRest)
  | _ => return number (← Numeral.reader)

/-- A value with at most `depth` levels of nesting. -/
def value : (depth : Nat) → Reader Written
  | 0 => atom
  | depth + 1 => do
    if ← accept '[' then return list (← items (value depth) ']')
    else if ← accept '\x7b' then return fields (← items (entry (value depth)) '\x7d')
    else atom

/-- A value with white space around it, nested as deep as it may be. -/
def document : Reader Written := do
  blanks
  let v ← value (← get).length
  blanks
  return v

/-- The written value of a text. -/
def parse? (text : String) : Option Written := document.read? text.toList

end Written

/-- The value of a text. -/
def parse? (text : String) : Option Json := (Written.parse? text).bind (Written.value? maxDepth)

end Adventurer.Json
