import Adventurer.Markup.Basic

/-!
# TOML values

A value of TOML, and tables as they grow while a document is read: what a header or a dotted key may
still add to a table depends on how the table came to be.
-/

namespace Adventurer

/-- A value of TOML. -/
inductive Toml where
  | text (value : String)
  | int (value : Int)
  | float (value : Float)
  /-- A number past the range of doubles. -/
  | beyond
  | bool (value : Bool)
  /-- A date, a time or both. -/
  | date
  | list (items : List Toml)
  | table (entries : List (String × Toml))

namespace Toml

instance : Inhabited Toml := ⟨table []⟩

/-- A whole number as a double, if sixty-four bits hold it. -/
def floatOfInt? (i : Int) : Option Float :=
  if 0 ≤ i then if i ≤ max64 then some (Binary64.ofNat i.toNat) else none
  else if minInt64 ≤ i then some (Binary64.ofInt i) else none

mutual

/-- Whether a value may stand where nobody asks for it.  Every number in it has to be one that can
be read: doubles stay in their range, and whole numbers within one hundred and twenty-eight bits. -/
def isSound : Toml → Bool
  | int i => -(2 ^ 127) ≤ i && i < 2 ^ 128
  | beyond => false
  | list items => areSound items
  | table entries => entriesAreSound entries
  | _ => true

/-- Whether all items may stand where nobody asks for them. -/
def areSound : List Toml → Bool
  | [] => true
  | v :: rest => v.isSound && areSound rest

/-- Whether the values of all entries may stand where nobody asks for them. -/
def entriesAreSound : List (String × Toml) → Bool
  | [] => true
  | (_, v) :: rest => v.isSound && entriesAreSound rest

end

/-- A date is read as a record that holds none of the fields asked for. -/
instance : Markup Toml where
  bool?
    | bool b => some b
    | _ => none
  int? width
    | int i => width.fit? i
    | _ => none
  float?
    | float x => some x
    | int i => floatOfInt? i
    | _ => none
  text?
    | text s => some s
    | _ => none
  list?
    | list items => some items
    | _ => none
  tuple?
    | list items => some items
    | _ => none
  optional? v := some (some v)
  wrapped? _ v := some v
  record? _
    | table entries => some (.named entries)
    | list items => some (.ordered items false)
    | date => some (.named [])
    | _ => none
  numbered? _ _ := none
  variant?
    | text s => some (s, none)
    | table [(name, held)] => some (name, some held)
    | _ => none
  isUnit
    | list [] => true
    | table [] => true
    | _ => false
  mayIgnore := isSound

/-- How a table came to be. -/
inductive Origin where
  /-- As a step on the way of a header. -/
  | implied
  /-- By a header of its own. -/
  | header
  /-- By a dotted key. -/
  | dotted
  deriving DecidableEq

/-- A value of a growing document. -/
inductive Node where
  /-- A value that nothing can be added to. -/
  | closed (value : Toml)
  | table (origin : Origin) (entries : List (String × Node))
  /-- Tables listed by headers; new entries go to the last one. -/
  | tables (items : List (List (String × Node)))

instance : Inhabited Node := ⟨.table .implied []⟩

mutual

/-- The value of a node. -/
def Node.value : Node → Toml
  | .closed v => v
  | .table _ entries => .table (entryValues entries)
  | .tables items => .list (tableValues items)

/-- The values of entries. -/
def entryValues : List (String × Node) → List (String × Toml)
  | [] => []
  | (name, n) :: rest => (name, n.value) :: entryValues rest

/-- The values of listed tables. -/
def tableValues : List (List (String × Node)) → List Toml
  | [] => []
  | entries :: rest => .table (entryValues entries) :: tableValues rest

end

/-- The entries of a table by name. -/
abbrev Body := List (String × Node)

namespace Body

/-- Replaces the entry of a name. -/
def replace (b : Body) (name : String) (n : Node) : Body :=
  b.map fun e => if e.1 = name then (name, n) else e

/-- Puts a node under a name that is not in use. -/
def add? (b : Body) (name : String) (n : Node) : Option Body :=
  if (b.lookup name).isSome then none else some (b ++ [(name, n)])

/-- Applies a change to the last of listed tables. -/
def changeLast? (change : Body → Option Body) : List Body → Option (List Body)
  | [] => none
  | [b] => (change b).map fun c => [c]
  | b :: rest => (changeLast? change rest).map (b :: ·)

/-- Changes the table at the end of a path of headers; tables on the way that are missing are
implied. -/
def changeAt? (path : List String) (change : Body → Option Body) (b : Body) : Option Body :=
  match path with
  | [] => change b
  | name :: rest =>
    match b.lookup name with
    | none => do
      let inner ← changeAt? rest change []
      return b ++ [(name, .table .implied inner)]
    | some (.table origin inner) => do
      let inner ← changeAt? rest change inner
      return b.replace name (.table origin inner)
    | some (.tables items) => do
      let items ← changeLast? (changeAt? rest change) items
      return b.replace name (.tables items)
    | some (.closed _) => none

/-- Opens a table by a header: a new one, or one that was only implied so far. -/
def openTable? (name : String) (b : Body) : Option Body :=
  match b.lookup name with
  | none => some (b ++ [(name, .table .header [])])
  | some (.table .implied inner) => some (b.replace name (.table .header inner))
  | some _ => none

/-- Opens one more of the tables listed under a name. -/
def openListed? (name : String) (b : Body) : Option Body :=
  match b.lookup name with
  | none => some (b ++ [(name, .tables [[]])])
  | some (.tables items) => some (b.replace name (.tables (items ++ [[]])))
  | some _ => none

/-- Stores a value under a dotted key.  No table on the way may have a header of its own; the last
one has to be made by dotted keys alone, and the last of listed tables may be passed. -/
def store? (key : List String) (v : Toml) (b : Body) : Option Body :=
  match key with
  | [] => none
  | [name] => b.add? name (.closed v)
  | name :: next :: rest =>
    match b.lookup name with
    | none => do
      let inner ← store? (next :: rest) v []
      return b ++ [(name, .table .dotted inner)]
    | some (.table .header _) => none
    | some (.table origin inner) => do
      if origin = .implied && rest.isEmpty then none
      let inner ← store? (next :: rest) v inner
      return b.replace name (.table origin inner)
    | some (.tables items) => do
      if rest.isEmpty then none
      let items ← changeLast? (store? (next :: rest) v) items
      return b.replace name (.tables items)
    | some (.closed _) => none

end Body

end Toml

end Adventurer
