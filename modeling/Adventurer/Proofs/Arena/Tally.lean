import Adventurer.Proofs.Arena.Lookup

/-!
# Sums over the items of an arena

`tally f` adds `f` up over all items.  Each operation changes the sum by what it does to one item,
which gives the number of pieces of a type (`pieces`) and the number of times an id is listed in
containers (`listings`).
-/

namespace Adventurer

/-- What a cell adds to a sum over items. -/
def Cell.tally (f : Item → Nat) : Cell → Nat
  | .occupied _ item => f item
  | .vacant _ => 0

/-- The sum of `f` over the items of some cells. -/
def Cell.tallyAll (f : Item → Nat) : List Cell → Nat
  | [] => 0
  | cell :: rest => cell.tally f + tallyAll f rest

namespace Arena

/-- The sum of `f` over all items. -/
def tally (f : Item → Nat) (a : Arena) : Nat := Cell.tallyAll f a.cells

/-- The pieces of one type in all stacks together. -/
def pieces (a : Arena) (type : ItemTypeId) : Nat :=
  a.tally fun item => if item.type = type then item.count else 0

/-- How often an id stands in the contents lists of all items together. -/
def listings (a : Arena) (id : ItemId) : Nat := a.tally fun item => item.contents.count id

variable {a : Arena} {id : ItemId} {item : Item} {f : Item → Nat}

private theorem tallyAll_set (f : Item → Nat) (new : Cell) {old : Cell} :
    ∀ {cells : List Cell} {i : Nat}, cells[i]? = some old →
      Cell.tallyAll f (cells.set i new) + old.tally f = Cell.tallyAll f cells + new.tally f
  | [], i, h => by simp at h
  | cell :: rest, 0, h => by
    obtain rfl := Option.some.inj h
    simp only [List.set_cons_zero, Cell.tallyAll]
    omega
  | cell :: rest, i + 1, h => by
    have hr : rest[i]? = some old := by simpa using h
    have ih := tallyAll_set f new hr
    simp only [List.set_cons_succ, Cell.tallyAll]
    omega

private theorem tallyAll_append (f : Item → Nat) (last : Cell) (cells : List Cell) :
    Cell.tallyAll f (cells ++ [last]) = Cell.tallyAll f cells + last.tally f := by
  induction cells with
  | nil => simp [Cell.tallyAll]
  | cons cell rest ih =>
    simp only [List.cons_append, Cell.tallyAll, ih]
    omega

private theorem exists_of_tallyAll_pos {cells : List Cell} (h : 0 < Cell.tallyAll f cells) :
    ∃ cell ∈ cells, 0 < cell.tally f := by
  induction cells with
  | nil => exact absurd h (by simp [Cell.tallyAll])
  | cons cell rest ih =>
    by_cases hc : 0 < cell.tally f
    · exact ⟨cell, List.mem_cons_self, hc⟩
    · simp only [Cell.tallyAll] at h
      obtain ⟨found, hm, hp⟩ := ih (by omega)
      exact ⟨found, List.mem_cons_of_mem _ hm, hp⟩

theorem tally_modify (h : a.get? id = some item) (change : Item → Item) :
    (a.modify id change).tally f + f item = a.tally f + f (change item) := by
  rw [modify_eq_set h]
  rw [get?_eq_some_iff] at h
  exact tallyAll_set f (.occupied id.generation (change item)) h

theorem Sound.tally_insert (h : a.Sound) (item : Item) :
    (a.insert item).1.tally f = a.tally f + f item := by
  obtain ⟨i, g, rest, -, hg, he⟩ | ⟨-, he⟩ := h.insert_cases item
  · rw [he]
    exact tallyAll_set f (.occupied (nextGeneration g) item) hg
  · rw [he]
    exact tallyAll_append f (.occupied 0 item) a.cells

theorem tally_vacate (h : a.get? id = some item) :
    (a.vacate id).tally f + f item = a.tally f := by
  rw [get?_eq_some_iff] at h
  exact tallyAll_set f (.vacant id.generation) h

/-! ## Pieces -/

theorem le_tally (h : a.get? id = some item) : f item ≤ a.tally f := by
  have := tally_vacate (f := f) h
  omega

/-- A sum that is not zero has an item in it. -/
theorem exists_of_tally_pos (h : 0 < a.tally f) : ∃ id item, a.get? id = some item ∧ 0 < f item := by
  obtain ⟨cell, hc, hp⟩ := exists_of_tallyAll_pos h
  cases cell with
  | vacant g => simp [Cell.tally] at hp
  | occupied g held =>
    obtain ⟨i, hi⟩ := List.mem_iff_getElem?.mp hc
    exact ⟨⟨i, g⟩, held, get?_eq_some_iff.mpr hi, hp⟩

end Arena

end Adventurer
