import Adventurer.Collection.Table
import Adventurer.Number.Binary64

/-!
# Values of a notation

Configuration, content and saved characters are written in different notations.  A decoder asks a
written value for what it stands for through one set of views, so it is stated once for all of them.
-/

namespace Adventurer

/-- A width in which whole numbers are kept: its ends and the name a number may carry for it. -/
structure IntWidth where
  low : Int
  high : Int
  name : String

namespace IntWidth

def natural8 : IntWidth := ⟨0, max8, "u8"⟩
def natural16 : IntWidth := ⟨0, max16, "u16"⟩
def natural32 : IntWidth := ⟨0, max32, "u32"⟩
def natural64 : IntWidth := ⟨0, max64, "u64"⟩
def signed8 : IntWidth := ⟨-128, 127, "i8"⟩
def signed16 : IntWidth := ⟨-32768, 32767, "i16"⟩
def signed32 : IntWidth := ⟨minInt32, maxInt32, "i32"⟩
def signed64 : IntWidth := ⟨minInt64, maxInt64, "i64"⟩

/-- The widths that a number may name. -/
def all : List IntWidth :=
  [natural8, natural16, natural32, natural64, signed8, signed16, signed32, signed64]

def holds (w : IntWidth) (i : Int) : Bool := w.low ≤ i && i ≤ w.high

/-- A number that fits the width. -/
def fit? (w : IntWidth) (i : Int) : Option Int := if w.holds i then some i else none

end IntWidth

/-- The contents of a record: values by name, or values in the order of the fields.  Where the order
is exact there may be no more values than fields. -/
inductive Entries (ν : Type) where
  | named (entries : List (String × ν))
  | ordered (values : List ν) (exact : Bool)

/-- The views of a written value; each is none where the value is something else. -/
class Markup (ν : Type) where
  bool? : ν → Option Bool
  int? : IntWidth → ν → Option Int
  float? : ν → Option Float
  text? : ν → Option String
  list? : ν → Option (List ν)
  /-- The parts of a sequence of fixed length. -/
  tuple? : ν → Option (List ν)
  /-- A value that may be left out. -/
  optional? : ν → Option (Option ν)
  /-- The value inside a wrapper of one field. -/
  wrapped? : (name : String) → ν → Option ν
  /-- The fields of a record. -/
  record? : (name : String) → ν → Option (Entries ν)
  /-- Values named by whole numbers of a width. -/
  numbered? : IntWidth → ν → Option (List (Int × ν))
  /-- The name of an alternative with what it holds. -/
  variant? : ν → Option (String × Option ν)
  /-- Whether a value holds nothing and may stand behind an alternative that holds nothing. -/
  isUnit : ν → Bool
  /-- Whether a value may stand where nobody asks for it. -/
  mayIgnore : ν → Bool

namespace Markup

variable {ν α : Type} [Markup ν]

/-- A count of a width. -/
def count? (width : IntWidth) (v : ν) : Option Nat := (int? width v).map Int.toNat

/-- A list of values. -/
def listOf? (item : ν → Option α) (v : ν) : Option (List α) := (list? v).bind (·.mapM item)

/-- A pair of values. -/
def pair? {β : Type} (first : ν → Option α) (second : ν → Option β) (v : ν) : Option (α × β) := do
  match ← tuple? v with
  | [a, b] => return (← first a, ← second b)
  | _ => none

/-- A value that may be left out. -/
def optionOf? (item : ν → Option α) (v : ν) : Option (Option α) := do
  match ← optional? v with
  | none => return none
  | some w => return some (← item w)

/-- A table written as a sequence with one part for each member of the kind. -/
def table? {κ : Type} [Enumerated κ] (item : ν → Option α) (v : ν) : Option (Table κ α) := do
  Table.ofList? (← (← tuple? v).mapM item)

end Markup

/-- The known fields of a record. -/
structure Row (ν : Type) where
  cells : List (String × ν)
  /-- Whether the fields are written with their names. -/
  named : Bool

namespace Row

variable {ν α : Type} [Markup ν]

/-- Reads a record with the given fields.  Other fields are ignored, if their values are sound; a
field written twice is a fault. -/
def read? (name : String) (fields : List String) (v : ν) : Option (Row ν) := do
  match ← Markup.record? name v with
  | .named entries =>
    let (known, others) := entries.partition (·.1 ∈ fields)
    if (known.map (·.1)).Nodup && others.all (Markup.mayIgnore ·.2) then some ⟨known, true⟩
    else none
  | .ordered values exact =>
    if exact && fields.length < values.length then none else some ⟨fields.zip values, false⟩

def find? (row : Row ν) (field : String) : Option ν := row.cells.lookup field

/-- The value of a field that has to be there. -/
def required (row : Row ν) (field : String) (item : ν → Option α) : Option α :=
  (row.find? field).bind item

/-- The value of a field, or a default where it is missing. -/
def withDefault (row : Row ν) (field : String) (default : α) (item : ν → Option α) : Option α :=
  match row.find? field with
  | none => some default
  | some v => item v

/-- The value of a field that may be left out where fields are written with their names. -/
def optional (row : Row ν) (field : String) (item : ν → Option α) : Option (Option α) :=
  match row.find? field with
  | none => if row.named then some none else none
  | some v => Markup.optionOf? item v

end Row

/-- A kind whose members are written as words. -/
class Worded (κ : Type) where
  all : List κ
  word : κ → String

namespace Worded

variable {κ : Type} [Worded κ]

/-- The member written as a word. -/
def ofWord? (text : String) : Option κ := all.find? fun k => word k = text

/-- Reads a member. -/
def read? {ν : Type} [Markup ν] (v : ν) : Option κ := do
  let (text, held) ← Markup.variant? v
  if held.all Markup.isUnit then ofWord? text else none

end Worded

end Adventurer
