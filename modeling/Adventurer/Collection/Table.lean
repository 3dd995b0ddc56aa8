/-!
# Total tables over a finite kind

A kind with finitely many members numbers them, and a table keeps one cell per member.  Writing one
cell changes what is read there and nowhere else.
-/

namespace Adventurer

/-- A type with finitely many members, numbered from zero in a fixed order. -/
class Enumerated (κ : Type) where
  count : Nat
  all : List κ
  index : κ → Fin count
  index_injective : ∀ {a b : κ}, index a = index b → a = b
  mem_all : ∀ a : κ, a ∈ all

/-- One cell for each member of `κ`. -/
structure Table (κ α : Type) [Enumerated κ] where
  cells : Vector α (Enumerated.count κ)
  deriving DecidableEq

namespace Table

variable {κ α β : Type} [Enumerated κ]

/-- The same value in every cell. -/
def replicate (value : α) : Table κ α := ⟨Vector.replicate _ value⟩

/-- The cell of one member. -/
def get (t : Table κ α) (k : κ) : α := t.cells[Enumerated.index k]

/-- The table with one cell replaced. -/
def set (t : Table κ α) (k : κ) (value : α) : Table κ α :=
  ⟨t.cells.set (Enumerated.index k) value⟩

/-- The cells in numbering order. -/
def toList (t : Table κ α) : List α := t.cells.toList

/-- The table whose cells in numbering order are `values`, if there is one value per member. -/
def ofList? (values : List α) : Option (Table κ α) :=
  if h : values.length = Enumerated.count κ then some ⟨⟨values.toArray, by simpa using h⟩⟩ else none

/-- The first member, in the order of `Enumerated.all`, whose cell passes the test. -/
def find? (t : Table κ α) (test : α → Bool) : Option κ :=
  (Enumerated.all : List κ).find? fun k => test (t.get k)

instance [Inhabited α] : Inhabited (Table κ α) := ⟨replicate default⟩

@[simp] theorem get_replicate (value : α) (k : κ) :
    (replicate value : Table κ α).get k = value := by
  simp [replicate, get]

@[simp] theorem get_set_self (t : Table κ α) (k : κ) (value : α) :
    (t.set k value).get k = value := by
  simp [get, set]

theorem get_set_of_ne (t : Table κ α) {k j : κ} (value : α) (h : k ≠ j) :
    (t.set k value).get j = t.get j := by
  have hij : (Enumerated.index k).val ≠ (Enumerated.index j).val :=
    fun e => h (Enumerated.index_injective (Fin.ext e))
  simp [get, set, hij]

@[simp] theorem set_get_self (t : Table κ α) (k : κ) : t.set k (t.get k) = t := by
  simp [get, set]

theorem get_set [DecidableEq κ] (t : Table κ α) (k j : κ) (value : α) :
    (t.set k value).get j = if k = j then value else t.get j := by
  by_cases h : k = j
  · subst h; simp
  · simp [h, get_set_of_ne t value h]

end Table

end Adventurer
