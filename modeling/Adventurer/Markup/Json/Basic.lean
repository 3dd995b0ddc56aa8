import Adventurer.Markup.Json.Numeral

/-!
# JSON values

A value of JSON.  Whole numbers are kept apart from doubles, and the fields of an object in the
order in which they are written.
-/

namespace Adventurer

/-- A value of JSON. -/
inductive Json where
  | null
  | bool (value : Bool)
  | int (value : Int)
  | float (value : Float)
  | text (value : String)
  | list (items : List Json)
  | fields (entries : List (String × Json))

namespace Json

instance : Inhabited Json := ⟨null⟩

/-- A count. -/
def count (n : Nat) : Json := int n

/-- A double; what is no finite number is written as nothing. -/
def ofFloat (x : Float) : Json := if x.isFinite then float x else null

/-- An object of one field, as alternatives that hold something are written. -/
def tagged (name : String) (held : Json) : Json := fields [(name, held)]

/-- The value of the first field of a name. -/
def field? (name : String) : Json → Option Json
  | fields entries => entries.lookup name
  | _ => none

/-- A list of values. -/
def ofList {α : Type} (item : α → Json) (values : List α) : Json := list (values.map item)

/-- A value that may be left out. -/
def ofOption {α : Type} (item : α → Json) : Option α → Json
  | none => null
  | some value => item value

/-- The cells of a table. -/
def ofTable {κ α : Type} [Enumerated κ] (item : α → Json) (t : Table κ α) : Json :=
  ofList item t.toList

/-- A whole number as a double, if sixty-four bits hold it. -/
def floatOfInt? (i : Int) : Option Float :=
  if 0 ≤ i then if i ≤ max64 then some (Binary64.ofNat i.toNat) else none
  else if minInt64 ≤ i then some (Binary64.ofInt i) else none

instance : Markup Json where
  bool?
    | bool b => some b
    | _ => none
  int? width
    | int i => width.fit? i
    | _ => none
  float?
    | float x => some x
    | int i => floatOfInt? i
    | _ => none
  text?
    | text s => some s
    | _ => none
  list?
    | list items => some items
    | _ => none
  tuple?
    | list items => some items
    | _ => none
  optional?
    | null => some none
    | v => some (some v)
  wrapped? _ v := some v
  record? _
    | fields entries => some (.named entries)
    | list items => some (.ordered items true)
    | _ => none
  numbered? width
    | fields entries => entries.mapM fun e => do
      return (← Numeral.ofName? width e.1.toList, e.2)
    | _ => none
  variant?
    | text s => some (s, none)
    | fields [(name, held)] => some (name, some held)
    | _ => none
  isUnit
    | null => true
    | _ => false
  mayIgnore _ := true

end Json

end Adventurer
