import Adventurer.Markup.Identifier
import Adventurer.Markup.Ron.Basic

/-!
# Reading RON

A document is a value behind the attributes that enable extensions.  White space and comments may
stand between any two tokens.
-/

namespace Adventurer.Ron

open Reader

/-- Whether a character is white space. -/
def isBlank (c : Char) : Bool :=
  c = ' ' || ('\t' ≤ c && c ≤ '\r') || c = '\x85' || c = '\u200E' || c = '\u200F'
    || c = '\u2028' || c = '\u2029'

/-- What follows a block comment that is `depth` levels deep at this point. -/
def blockRest? : (depth : Nat) → List Char → Option (List Char)
  | 0, rest => some rest
  | depth + 1, '*' :: '/' :: rest => blockRest? depth rest
  | depth + 1, '/' :: '*' :: rest => blockRest? (depth + 2) rest
  | depth + 1, _ :: rest => blockRest? (depth + 1) rest
  | _ + 1, [] => none

/-- Takes white space and comments. -/
def gap : Reader Unit :=
  loop () fun _ => do
    let _ ← takeWhile isBlank
    if ← acceptText "//" then
      let _ ← takeWhile (· ≠ '\n')
      return ((), true)
    else if ← acceptText "/*" then
      set (← Reader.ofOption (blockRest? 1 (← get)))
      return ((), true)
    else return ((), false)

/-- Whether a name behind `r#` may go on with a character. -/
def isRawNameChar (c : Char) : Bool := Identifier.isRest c || c = '.' || c = '+' || c = '-'

/-- A name. -/
def name : Reader RonName := do
  if ← acceptText "r#" then
    let chars ← takeWhile isRawNameChar
    ensure !chars.isEmpty
    return { text := String.ofList chars, raw := true }
  else
    ensure ((← peek?).any Identifier.isStart)
    return { text := String.ofList (← takeWhile Identifier.isRest) }

/-- The number of two hexadecimal digits. -/
def byteCode : Reader Nat := do
  let a ← next
  let b ← next
  Reader.ofOption (numberIn? 16 [a, b])

/-- The character whose code is that of a byte. -/
def byteChar : Reader Char := do return Char.ofNat (← byteCode)

/-- The character of a byte that is a character alone. -/
def asciiChar : Reader Char := do
  let code ← byteCode
  ensure (code < 0x80)
  return Char.ofNat code

/-- How many bytes follow the first byte of a character, and the bits that this one holds. -/
def leadOf? (code : Nat) : Option (Nat × Nat) :=
  if code < 0x80 then some (0, code)
  else if 0xC0 ≤ code && code < 0xE0 then some (1, code - 0xC0)
  else if 0xE0 ≤ code && code < 0xF0 then some (2, code - 0xE0)
  else if 0xF0 ≤ code && code < 0xF8 then some (3, code - 0xF0)
  else none

/-- The smallest code that needs so many bytes behind the first one. -/
def leastCode : (following : Nat) → Nat
  | 0 => 0
  | 1 => 0x80
  | 2 => 0x800
  | _ => 0x10000

/-- The code that bits make up with those of further bytes. -/
def followingBytes : (number : Nat) → (bits : Nat) → Reader Nat
  | 0, bits => pure bits
  | number + 1, bits => do
    ensure (← acceptText "\\x")
    let code ← byteCode
    ensure (0x80 ≤ code && code < 0xC0)
    followingBytes number (bits * 0x40 + (code - 0x80))

/-- The character of one to four bytes, each behind an escape of its own. -/
def encodedChar : Reader Char := do
  let (number, bits) ← Reader.ofOption (leadOf? (← byteCode))
  let code ← followingBytes number bits
  ensure (leastCode number ≤ code)
  Reader.ofOption (charOf? code)

/-- The character of one to six hexadecimal digits between braces. -/
def bracedCode : Reader Char := do
  expect '\x7b'
  let digits ← takeWhile fun c => (digitIn? 16 c).isSome
  expect '\x7d'
  ensure (digits.length ≤ 6)
  Reader.ofOption ((wholeIn? 16 digits).bind charOf?)

/-- The character of an escape of one letter. -/
def shortEscape? : Char → Option Char
  | '\'' => some '\''
  | '"' => some '"'
  | '\\' => some '\\'
  | 'n' => some '\n'
  | 'r' => some '\r'
  | 't' => some '\t'
  | '0' => some '\x00'
  | _ => none

/-- The character of an escape, behind the backslash; `coded` reads what follows an `x`. -/
def escape (coded : Reader Char) : Reader Char := do
  match ← next with
  | 'x' => coded
  | 'u' => bracedCode
  | c => Reader.ofOption (shortEscape? c)

/-- A text up to its closing quote. -/
def quotedText (coded : Reader Char) : Reader String := do
  let chars ← loop ([] : List Char) fun chars => do
    match ← next with
    | '"' => return (chars, false)
    | '\\' => return ((← escape coded) :: chars, true)
    | c => return (c :: chars, true)
  return String.ofList chars.reverse

/-- The number of marks of a raw text that begins here, and what is behind its opening quote. -/
def rawStart? : List Char → Option (Nat × List Char)
  | 'r' :: rest =>
    match rest.dropWhile (· = '#') with
    | '"' :: body => some ((rest.takeWhile (· = '#')).length, body)
    | _ => none
  | _ => none

/-- A raw text up to a quote with as many marks as it began with. -/
def rawText (marks : Nat) : Reader String := do
  let close := '"' :: List.replicate marks '#'
  let chars ← loop ([] : List Char) fun chars => do
    match dropPrefix? close (← get) with
    | some rest => set rest; return (chars, false)
    | none => return ((← next) :: chars, true)
  return String.ofList chars.reverse

/-- A character up to its closing quote. -/
def quotedChar : Reader Char := do
  let c ← next
  let value ← if c = '\\' then escape asciiChar else pure c
  expect '\''
  return value

/-- A byte up to its closing quote. -/
def quotedByte : Reader Nat := do
  let c ← next
  let value ← if c = '\\' then
      ensure ((← peek?) ≠ some 'u')
      escape byteChar
    else
      ensure (c.toNat < 0x80)
      pure c
  expect '\''
  return value.toNat

/-- Whether a character may stand in a number. -/
def isNumberChar (c : Char) : Bool := c.isAlphanum || c = '_' || c = '.' || c = '+' || c = '-'

/-- A value in quotes, if one begins here. -/
def quoted? : Reader (Option RonTree) := do
  match ← get with
  | '"' :: body => set body; return some (.text (← quotedText encodedChar))
  | '\'' :: body => set body; return some (.char (← quotedChar))
  | 'b' :: '"' :: body => set body; let _ ← quotedText byteChar; return some .bytes
  | 'b' :: '\'' :: body => set body; return some (.byte (← quotedByte))
  | 'b' :: rest => match rawStart? rest with
    | some (marks, body) => set body; let _ ← rawText marks; return some .bytes
    | none => return none
  | rest => match rawStart? rest with
    | some (marks, body) => set body; return some (.text (← rawText marks))
    | none => return none

/-- A number. -/
def number : Reader RonTree := do
  ensure ((← peek?).any fun c => c.isDigit || c = '+' || c = '-' || c = '.')
  return .number (← takeWhile isNumberChar)

/-- Parts between commas up to a closing mark; a comma may stand behind the last one. -/
def parts {α : Type} (part : Reader α) (close : Char) : Reader (List α) := do
  gap
  let read ← loop ([] : List α) fun read => do
    if ← accept close then return (read, false)
    else
      let p ← part
      gap
      if ← accept ',' then gap; return (p :: read, true)
      else expect close; return (p :: read, false)
  return read.reverse

/-- Two values with a colon between them. -/
def pairOf {α β : Type} (first : Reader α) (second : Reader β) : Reader (α × β) := do
  let a ← first
  gap
  expect ':'
  gap
  return (a, ← second)

/-- Whether the group that begins here names its parts. -/
def namesParts : Reader Bool := do
  let before ← get
  let named := match (gap *> name *> gap *> accept ':') before with
    | some (colon, _) => colon
    | none => false
  return named

/-- The parts of a group, behind its parenthesis. -/
def group (value : Reader RonTree) (written : Option RonName) : Reader RonTree := do
  if ← namesParts then
    return .record written (← parts (pairOf (do return (← name).text) value) ')')
  else return .tuple written (← parts value ')')

/-- A word, or a group or a value behind one. -/
def named (e : RonExtensions) (value : Reader RonTree) : Reader RonTree := do
  let written ← name
  let before ← get
  gap
  if ← accept '(' then group value (some written)
  else if e.implicitSome && written.isWord "Some" then return .marked (← value)
  else
    set before
    return .word written

/-- A value with fewer than `depth` levels of nesting. -/
def value (e : RonExtensions) : (depth : Nat) → Reader RonTree
  | 0 => failure
  | depth + 1 => do
    if let some v ← quoted? then return v
    else if ← accept '(' then
      if ← accept ')' then return .unit else group (value e depth) none
    else if ← accept '[' then return .list (← parts (value e depth) ']')
    else if ← accept '\x7b' then
      return .map (← parts (pairOf (value e depth) (value e depth)) '\x7d')
    else if (← peek?).any Identifier.isStart then named e (value e depth)
    else number

/-- Tokens that have to come next, each with white space behind it. -/
def tokens (texts : List String) : Reader Unit := do
  for text in texts do
    ensure (← acceptText text)
    gap

/-- An extension by its name. -/
def extend? (e : RonExtensions) : String → Option RonExtensions
  | "unwrap_newtypes" => some { e with unwrapNewtypes := true }
  | "implicit_some" => some { e with implicitSome := true }
  | "unwrap_variant_newtypes" => some { e with unwrapVariants := true }
  | "explicit_struct_names" => some { e with explicitNames := true }
  | _ => none

/-- The attributes at the start of a document. -/
def attributes : Reader RonExtensions :=
  loop {} fun e => do
    gap
    if (← peek?) = some '#' then
      tokens ["#", "!", "[", "enable", "("]
      let names ← parts name ')'
      ensure !names.isEmpty
      gap
      expect ']'
      return (← Reader.ofOption ((names.map (·.text)).foldlM extend? e), true)
    else return (e, false)

/-- How many levels may be nested. -/
def maxLevels : Nat := 128

/-- A whole document.  Every value that holds others takes a level, so no value that is nested
deeper than that has to be read. -/
def document : Reader Ron := do
  let extensions ← attributes
  let tree ← value extensions (maxLevels + 1)
  gap
  return { extensions, levels := maxLevels, tree }

/-- The value of a text. -/
def parse? (text : String) : Option Ron := document.read? text.toList

end Adventurer.Ron
