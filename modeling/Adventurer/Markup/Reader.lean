/-!
# Readers

A reader takes characters off the front of a text and leaves the rest, or fails.  Loops over a text
are bounded by its length.
-/

namespace Adventurer

/-- A computation on what is left of a text. -/
abbrev Reader (α : Type) := StateT (List Char) Option α

namespace Reader

variable {α : Type}

/-- The next character, left where it is. -/
def peek? : Reader (Option Char) := do return (← get).head?

/-- Takes one character. -/
def next : Reader Char := do
  match ← get with
  | [] => failure
  | c :: rest => set rest; return c

/-- Takes a character if it comes next. -/
def accept (c : Char) : Reader Bool := do
  match ← get with
  | d :: rest => if c = d then set rest; return true else return false
  | [] => return false

/-- Takes a character that has to come next. -/
def expect (c : Char) : Reader Unit := do
  if ← accept c then return () else failure

/-- What is left after a text, if it begins with it. -/
def dropPrefix? : List Char → List Char → Option (List Char)
  | [], rest => some rest
  | c :: text, d :: rest => if c = d then dropPrefix? text rest else none
  | _ :: _, [] => none

/-- Takes a text if it comes next. -/
def acceptText (text : String) : Reader Bool := do
  match dropPrefix? text.toList (← get) with
  | some rest => set rest; return true
  | none => return false

/-- Takes characters as long as they pass the test. -/
def takeWhile (test : Char → Bool) : Reader (List Char) := do
  let text ← get
  set (text.dropWhile test)
  return text.takeWhile test

/-- Fails unless a condition holds. -/
def ensure (condition : Bool) : Reader Unit := if condition then pure () else failure

/-- Takes the value of an option. -/
def ofOption (value : Option α) : Reader α := fun rest => value.map fun v => (v, rest)

/-- Repeats a step that says whether to go on, at most `bound` times. -/
def repeatFor (step : α → Reader (α × Bool)) : Nat → α → Reader α
  | 0, _ => failure
  | bound + 1, state => do
    let (state, goOn) ← step state
    if goOn then repeatFor step bound state else return state

/-- Repeats a step that takes characters as long as it says so. -/
def loop (state : α) (step : α → Reader (α × Bool)) : Reader α := do
  repeatFor step ((← get).length + 1) state

/-- Reads a whole text. -/
def read? (r : Reader α) (text : List Char) : Option α :=
  match r text with
  | some (value, []) => some value
  | _ => none

end Reader

/-- The value of a digit in a base of at most sixteen. -/
def digitIn? (base : Nat) (c : Char) : Option Nat :=
  let value :=
    if '0' ≤ c && c ≤ '9' then c.toNat - '0'.toNat
    else if 'a' ≤ c && c ≤ 'f' then c.toNat - 'a'.toNat + 10
    else if 'A' ≤ c && c ≤ 'F' then c.toNat - 'A'.toNat + 10
    else 16
  if value < base then some value else none

/-- The number that digits stand for. -/
def numberIn? (base : Nat) (digits : List Char) : Option Nat :=
  digits.foldlM (fun sum c => (digitIn? base c).map (sum * base + ·)) 0

/-- The number of a text that is made of digits and not empty. -/
def wholeIn? (base : Nat) (digits : List Char) : Option Nat :=
  if digits.isEmpty then none else numberIn? base digits

/-- The character of a code, none for a surrogate or a number past the last one. -/
def charOf? (code : Nat) : Option Char := if code.isValidChar then some (Char.ofNat code) else none

end Adventurer
