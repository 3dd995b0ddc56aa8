import Adventurer.Markup.Basic
import Adventurer.Markup.Ron.Number

/-!
# RON values

A value of RON as it is written, together with the extensions that its document enables.  What a
word or a group stands for is only told by what is asked of it, so the views decide.  A value that
nobody asks for has to be one of the notation all the same, and values are nested only so deep.
-/

namespace Adventurer

/-- The extensions of a document. -/
structure RonExtensions where
  /-- Wrappers of one field are left out. -/
  unwrapNewtypes : Bool := false
  /-- A value stands for itself where it might be left out. -/
  implicitSome : Bool := false
  /-- Wrappers inside alternatives are left out. -/
  unwrapVariants : Bool := false
  /-- Records are written with their names. -/
  explicitNames : Bool := false

/-- A name as it is written. -/
structure RonName where
  text : String
  /-- Whether it is marked as a name, which no word of the notation is. -/
  raw : Bool := false

namespace RonName

/-- Whether a name is a word of the notation. -/
def isWord (n : RonName) (word : String) : Bool := !n.raw && n.text = word

/-- The words of the notation that stand for values of their own. -/
def valueWords : List String :=
  ["true", "false", "None", "inf", "inff32", "inff64", "NaN", "NaNf32", "NaNf64"]

/-- Whether a group may stand behind a name. -/
def mayHold (n : RonName) : Bool := n.raw || n.text ∉ valueWords

end RonName

/-- A written value. -/
inductive RonTree where
  | word (name : RonName)
  | number (lexeme : List Char)
  | byte (code : Nat)
  | char (value : Char)
  | text (value : String)
  /-- A text of bytes. -/
  | bytes
  /-- Two parentheses with nothing between them and no name. -/
  | unit
  | list (items : List RonTree)
  | map (entries : List (RonTree × RonTree))
  /-- A value behind `Some` without parentheses. -/
  | marked (value : RonTree)
  /-- Values between parentheses, behind a name or not. -/
  | tuple (name : Option RonName) (items : List RonTree)
  /-- Named values between parentheses, behind a name or not. -/
  | record (name : Option RonName) (entries : List (String × RonTree))

instance : Inhabited RonTree := ⟨.unit⟩

namespace RonTree

/-- Whether a group stands behind a word of the notation. -/
def isBehind (word : String) : Option RonName → Bool
  | none => false
  | some name => name.isWord word

/-- Whether a group may stand behind what is written before it. -/
def mayFollow : Option RonName → Bool
  | none => true
  | some name => name.mayHold

mutual

/-- How many levels of nesting a value takes where nobody asks for it; none where it may not stand.
A group takes one level, and each of its parts another one; `Some` takes one alone.  Where wrappers
inside alternatives are left out, `Some` may also be the name of a group. -/
def levels? (e : RonExtensions) : RonTree → Option Nat
  | word name => if name.isWord "Some" then none else some 0
  | number lexeme => if Ron.isNumber lexeme then some 0 else none
  | byte _ | char _ | text _ | bytes | unit => some 0
  | list items => do return (← itemLevels? e items) + 1
  | map entries => do return (← entryLevels? e entries) + 1
  | marked value => do return (← levels? e value) + 1
  | tuple name items => do
    let inner ← itemLevels? e items
    if isBehind "Some" name then
      match items with
      | [_] => return inner
      | [] => if e.unwrapVariants then return 1 else none
      | _ => if e.unwrapVariants then return inner + 2 else none
    else if mayFollow name then return inner + 1
    else none
  | record name entries => do
    let inner ← fieldLevels? e entries
    if isBehind "Some" name then if e.unwrapVariants then return inner + 2 else none
    else if mayFollow name then return inner + 1
    else none

/-- How many levels items take, with the ones of their own. -/
def itemLevels? (e : RonExtensions) : List RonTree → Option Nat
  | [] => some 0
  | v :: rest => do return max ((← levels? e v) + 1) (← itemLevels? e rest)

/-- How many levels the keys and values of a map take, with the ones of their own. -/
def entryLevels? (e : RonExtensions) : List (RonTree × RonTree) → Option Nat
  | [] => some 0
  | (k, v) :: rest => do
    return max (max (← levels? e k) (← levels? e v) + 1) (← entryLevels? e rest)

/-- How many levels the fields of a record take, with the ones of their own. -/
def fieldLevels? (e : RonExtensions) : List (String × RonTree) → Option Nat
  | [] => some 0
  | (_, v) :: rest => do return max ((← levels? e v) + 1) (← fieldLevels? e rest)

end

end RonTree

/-- A written value under the extensions of its document. -/
structure Ron where
  extensions : RonExtensions
  /-- How many more levels may be nested in the value. -/
  levels : Nat
  tree : RonTree
  /-- Whether the value stands inside an alternative whose wrapper is left out. -/
  unwrapped : Bool := false

namespace Ron

/-- Whether a group may be a record or a wrapper of a name. -/
def fits (name : String) : Option RonName → Bool
  | none => true
  | some written => written.text = name

/-- The value inside a wrapper, one level deeper. -/
def held (v : Ron) (tree : RonTree) : Ron := ⟨v.extensions, v.levels - 1, tree, false⟩

/-- The value of a part, two levels deeper. -/
def part (v : Ron) (tree : RonTree) : Ron := ⟨v.extensions, v.levels - 2, tree, false⟩

/-- The value inside an alternative. -/
def inside (v : Ron) (tree : RonTree) : Ron :=
  { v.held tree with unwrapped := v.extensions.unwrapVariants }

/-- A value that is not written as one that might be left out. -/
def implicit? (v : Ron) : Option (Option Ron) :=
  if v.extensions.implicitSome then some (some v) else none

/-- Whether a record may be written under a name, or without one. -/
def mayName (v : Ron) (name : String) (written : Option RonName) : Bool :=
  fits name written && (written.isSome || !v.extensions.explicitNames)

instance : Markup Ron where
  bool? v := match v.tree with
    | .word name =>
      if name.isWord "true" then some true else if name.isWord "false" then some false else none
    | _ => none
  int? width v := match v.tree with
    | .number lexeme => int? width lexeme
    | .byte code => if width.name = IntWidth.natural8.name then some code else none
    | _ => none
  float? v := match v.tree with
    | .number lexeme => float? lexeme
    | .word name => if name.raw then none else special? (withoutWidth "f64" name.text.toList)
    | _ => none
  text? v := match v.tree with
    | .text s => some s
    | _ => none
  list? v := match v.tree with
    | .list items => some (items.map v.part)
    | _ => none
  tuple? v := match v.tree with
    | .tuple none items => some (items.map v.part)
    | _ => none
  optional? v := match v.tree with
    | .word name => if name.isWord "None" then some none else v.implicit?
    | .marked inner => some (some (v.held inner))
    | .tuple name items =>
      if RonTree.isBehind "Some" name then match items with
        | [inner] => some (some (v.inside inner))
        | _ => none
      else v.implicit?
    | .record name _ => if RonTree.isBehind "Some" name then none else v.implicit?
    | _ => v.implicit?
  wrapped? name v :=
    if v.extensions.unwrapNewtypes || v.unwrapped then some (v.held v.tree)
    else match v.tree with
      | .tuple written [inner] => if v.mayName name written then some (v.held inner) else none
      | _ => none
  record? name v := match v.tree with
    | .record written entries =>
      if v.mayName name written then
        some (.named (entries.map fun e => (e.1, v.part e.2)))
      else none
    | .tuple written [] => if v.mayName name written then some (.named []) else none
    | .unit => if v.mayName name none then some (.named []) else none
    | _ => none
  numbered? width v := match v.tree with
    | .map entries => entries.mapM fun e => match e.1 with
      | .number lexeme => do return (← int? width lexeme, v.part e.2)
      | _ => none
    | _ => none
  variant? v := match v.tree with
    | .word name => some (name.text, none)
    | .tuple (some name) [inner] => some (name.text, some (v.part inner))
    | _ => none
  isUnit _ := false
  mayIgnore v := (v.tree.levels? v.extensions).any (· ≤ v.levels)

end Ron

end Adventurer
