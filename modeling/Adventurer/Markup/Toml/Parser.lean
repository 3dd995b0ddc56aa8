import Adventurer.Markup.Toml.Scalar

/-!
# Reading TOML

A document is read line by line: a header opens a table, and a key stores a value in the table that
is open.
-/

namespace Adventurer.Toml

open Reader

/-- Whether a character may stand in a comment or a text of one line. -/
def isPrintable (c : Char) : Bool := c = '\t' || (0x20 ≤ c.toNat && c.toNat ≠ 0x7F)

/-- Takes blanks and tabs. -/
def spaces : Reader Unit := do
  let _ ← takeWhile fun c => c = ' ' || c = '\t'

/-- Takes a line break; says whether there was one. -/
def lineBreak : Reader Bool := do
  if ← accept '\n' then return true else acceptText "\r\n"

/-- Takes a comment, if there is one. -/
def comment : Reader Unit := do
  if ← accept '#' then
    let _ ← takeWhile isPrintable

/-- Takes blanks, comments and line breaks. -/
def gap : Reader Unit :=
  loop () fun _ => do
    spaces
    comment
    return ((), ← lineBreak)

/-- The end of a line: nothing more than a comment, and then a line break or the end of the text. -/
def lineEnd : Reader Unit := do
  spaces
  comment
  unless ← lineBreak do ensure (← get).isEmpty

/-- The character of an escape, behind the backslash. -/
def escape : Reader Char := do
  match ← next with
  | 'b' => return '\x08'
  | 't' => return '\t'
  | 'n' => return '\n'
  | 'f' => return '\x0c'
  | 'r' => return '\r'
  | 'e' => return '\x1b'
  | '"' => return '"'
  | '\\' => return '\\'
  | 'x' => code 2
  | 'u' => code 4
  | 'U' => code 8
  | _ => failure
where
  /-- A character by its code in hexadecimal digits. -/
  code (length : Nat) : Reader Char := do
    let rest ← get
    let digits := rest.take length
    ensure (digits.length = length)
    set (rest.drop length)
    Reader.ofOption ((numberIn? 16 digits).bind charOf?)

/-- A text of one line up to its closing quote; backslashes escape between double quotes. -/
def lineText (quote : Char) : Reader String := do
  let chars ← loop ([] : List Char) fun chars => do
    if ← accept quote then return (chars, false)
    else
      let c ← next
      if c = '\\' && quote = '"' then return ((← escape) :: chars, true)
      else ensure (isPrintable c); return (c :: chars, true)
  return String.ofList chars.reverse

/-- A backslash at the end of a line takes the break and all blanks behind it; says whether there
was one. -/
def foldedBreak : Reader Bool := do
  let before ← get
  spaces
  if ← lineBreak then
    loop () fun _ => do
      spaces
      return ((), ← lineBreak)
    return true
  else
    set before
    return false

/-- One character of a text of several lines. -/
def longChar (quote : Char) : Reader (List Char) := do
  if ← lineBreak then return ['\n']
  else
    let c ← next
    if c = '\\' && quote = '"' then
      if ← foldedBreak then return [] else return [← escape]
    else ensure (isPrintable c); return [c]

/-- A text of several lines up to three closing quotes; up to two more quotes belong to the text. -/
def longText (quote : Char) : Reader String := do
  let _ ← lineBreak
  let close := [quote, quote, quote]
  let chars ← loop ([] : List Char) fun chars => do
    match dropPrefix? close (← get) with
    | some rest =>
      let extra := (rest.takeWhile (· = quote)).take 2
      set (rest.drop extra.length)
      return (extra ++ chars, false)
    | none => return ((← longChar quote).reverse ++ chars, true)
  return String.ofList chars.reverse

/-- A text in quotes, behind the first one. -/
def quoted (quote : Char) : Reader String := do
  match dropPrefix? [quote, quote] (← get) with
  | some rest => set rest; longText quote
  | none => lineText quote

/-- Whether a character may stand in a key without quotes. -/
def isBare (c : Char) : Bool := c.isAlphanum || c = '_' || c = '-'

/-- One part of a key. -/
def keyPart : Reader String := do
  if ← accept '"' then lineText '"'
  else if ← accept '\'' then lineText '\''
  else
    let name ← takeWhile isBare
    ensure !name.isEmpty
    return String.ofList name

/-- The largest number of parts of a key. -/
def maxParts : Nat := 80

/-- A key: parts between points. -/
def key : Reader (List String) := do
  let parts ← loop ([] : List String) fun parts => do
    spaces
    let part ← keyPart
    spaces
    return (part :: parts, ← accept '.')
  ensure (parts.length ≤ maxParts)
  return parts.reverse

/-- Whether a character may stand in a word without quotes. -/
def isWordChar (c : Char) : Bool := isBare c || c = '+' || c = '.' || c = ':'

/-- A word without quotes; a date goes on behind a blank where a time follows. -/
def word : Reader Toml := do
  let text ← takeWhile isWordChar
  let rest ← get
  let isDay := dateRest? text = some []
  let goesOn := match rest with
    | ' ' :: a :: b :: ':' :: _ => isDay && a.isDigit && b.isDigit
    | _ => false
  if goesOn then
    let _ ← next
    let time ← takeWhile isWordChar
    Reader.ofOption (word? (text ++ ' ' :: time))
  else Reader.ofOption (word? text)

/-- The items of a list, behind its bracket. -/
def items (value : Reader Toml) : Reader (List Toml) := do
  let read ← loop ([] : List Toml) fun read => do
    gap
    if ← accept ']' then return (read, false)
    else
      let v ← value
      gap
      if ← accept ',' then return (v :: read, true)
      else expect ']'; return (v :: read, false)
  return read.reverse

/-- The entries of a table in braces, behind the first one.  A line may break between any two parts
of an entry, but not inside of its key. -/
def inlineEntries (value : Reader Toml) : Reader Body :=
  loop ([] : Body) fun b => do
    gap
    if ← accept '\x7d' then return (b, false)
    else
      let name ← key
      gap
      expect '='
      gap
      let v ← value
      gap
      let b ← Reader.ofOption (b.store? name v)
      if ← accept ',' then return (b, true)
      else expect '\x7d'; return (b, false)

/-- A value that holds no others. -/
def atom : Reader Toml := do
  if ← accept '"' then return text (← quoted '"')
  else if ← accept '\'' then return text (← quoted '\'')
  else word

/-- A value with at most `depth` levels of nesting. -/
def value : (depth : Nat) → Reader Toml
  | 0 => atom
  | depth + 1 => do
    if ← accept '[' then return list (← items (value depth))
    else if ← accept '\x7b' then
      return table (entryValues (← inlineEntries (value depth)))
    else atom

/-- The deepest nesting of lists and tables in a value. -/
def maxDepth : Nat := 80

/-- A document on the way: its tables and the path of the open one. -/
structure Draft where
  body : Body
  path : List String

/-- Opens the table of a header with the given change of the table above it. -/
def openAt? (d : Draft) (name : List String) (change : String → Body → Option Body) :
    Option Draft := do
  let last ← name.getLast?
  let body ← d.body.changeAt? name.dropLast (change last)
  return ⟨body, name⟩

/-- One line of a document. -/
def line (d : Draft) : Reader Draft := do
  spaces
  if ← acceptText "[[" then
    let name ← key
    ensure (← acceptText "]]")
    lineEnd
    Reader.ofOption (openAt? d name Body.openListed?)
  else if ← accept '[' then
    let name ← key
    expect ']'
    lineEnd
    Reader.ofOption (openAt? d name Body.openTable?)
  else match ← peek? with
    | none | some '\n' | some '\r' | some '#' => lineEnd; return d
    | some _ =>
      let name ← key
      expect '='
      spaces
      let v ← value maxDepth
      lineEnd
      let body ← Reader.ofOption (d.body.changeAt? d.path (Body.store? name v))
      return { d with body }

/-- A whole document, behind a byte order mark if there is one. -/
def document : Reader Toml := do
  let _ ← accept '\uFEFF'
  let d ← loop (⟨[], []⟩ : Draft) fun d => do
    if (← get).isEmpty then return (d, false) else return (← line d, true)
  return table (entryValues d.body)

/-- The table that a text stands for. -/
def parse? (text : String) : Option Toml := document.read? text.toList

end Adventurer.Toml
