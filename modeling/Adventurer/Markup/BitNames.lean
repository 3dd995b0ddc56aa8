import Adventurer.Markup.Reader
import Adventurer.Number.Width

/-!
# Texts of bit sets

A set of bits is written as the names of its members with a bar between them; bits without a name
are written as one hexadecimal number.
-/

namespace Adventurer

/-- The named members of bit sets of one width, in the order in which they are written. -/
structure BitNames where
  width : Nat
  members : List (String × Nat)

namespace BitNames

/-- Whether a character is white space. -/
def isBlank (c : Char) : Bool :=
  let n := c.toNat
  (9 ≤ n && n ≤ 13) || n = 0x20 || n = 0x85 || n = 0xA0 || n = 0x1680
    || (0x2000 ≤ n && n ≤ 0x200A) || n = 0x2028 || n = 0x2029 || n = 0x202F || n = 0x205F
    || n = 0x3000

/-- A text without white space at its ends. -/
def strip (text : List Char) : List Char :=
  ((text.dropWhile isBlank).reverse.dropWhile isBlank).reverse

/-- The parts of a text between bars. -/
def parts : List Char → List (List Char)
  | [] => [[]]
  | '|' :: rest => [] :: parts rest
  | c :: rest => match parts rest with
    | [] => [[c]]
    | part :: others => (c :: part) :: others

/-- The bits of one part: a name or a hexadecimal number that fits the width. -/
def part? (b : BitNames) (text : List Char) : Option Nat :=
  match text with
  | '0' :: 'x' :: digits =>
    let digits := match digits with
      | '+' :: rest => rest
      | _ => digits
    (wholeIn? 16 digits).filter (·.log2 < b.width)
  | _ => b.members.lookup (String.ofList text)

/-- The bits that a text stands for. -/
def read? (b : BitNames) (text : String) : Option Nat :=
  if (strip text.toList).isEmpty then some 0
  else (parts text.toList).foldlM (fun bits part => (b.part? (strip part)).map (bits ||| ·)) 0

/-- Writes a member over bits that are still unwritten, if the set holds it and some of it is
unwritten. -/
def writeMember (bits : Nat) (written : List String × Nat) (m : String × Nat) :
    List String × Nat :=
  if m.2 &&& bits = m.2 && m.2 &&& written.2 ≠ 0 then
    (written.1 ++ [m.1], written.2 &&& (written.2 ^^^ m.2))
  else written

/-- Writes the members of a set; a member whose bits have all been written is left out. -/
def render (b : BitNames) (bits : Nat) : String :=
  let (names, rest) := b.members.foldl (writeMember bits) ([], bits)
  let unnamed := if rest = 0 then [] else ["0x" ++ String.ofList (Nat.toDigits 16 rest)]
  " | ".intercalate (names ++ unnamed)

end BitNames

end Adventurer
