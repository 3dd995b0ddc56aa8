import Adventurer.Item.Arena
import Mathlib.Order.Nat
import Mathlib.Tactic.SplitIfs

/-!
# Lookups in the arena

What an id stands for after an item has been stored, changed or taken out of its cell, and the two
facts that the free list lives by: it holds each vacant cell exactly once and no other (`Sound`), and
an id is `Issued` once its cell has reached its generation.  The id of a new item is never one that
was issued before, as long as the generation of its cell does not wrap (`Room`).
-/

namespace Adventurer.Arena

variable {a b : Arena} {id other : ItemId} {item : Item}

/-! ## Lookups -/

theorem get?_eq_some_iff :
    a.get? id = some item ↔ a.cells[id.index]? = some (.occupied id.generation item) := by
  unfold get?
  rw [Option.bind_eq_some_iff]
  constructor
  · rintro ⟨cell, hc, hi⟩
    cases cell with
    | vacant g => simp [Cell.item?] at hi
    | occupied g held =>
      simp only [Cell.item?] at hi
      split_ifs at hi with hg
      obtain rfl := Option.some.inj hi
      rw [hc, hg]
  · intro h
    exact ⟨_, h, by simp [Cell.item?]⟩

/-- A lookup after one cell was overwritten. -/
theorem get?_of_set {i : Nat} {cell : Cell} (h : a.cells = b.cells.set i cell)
    (hi : i < b.cells.length) (id : ItemId) :
    a.get? id = if id.index = i then cell.item? id.generation else b.get? id := by
  unfold get?
  rw [h, List.getElem?_set]
  by_cases he : id.index = i
  · rw [if_pos he.symm, if_pos he, if_pos (he ▸ hi)]; rfl
  · rw [if_neg (Ne.symm he), if_neg he]

theorem index_lt_of_get? (h : a.get? id = some item) : id.index < a.cells.length := by
  rw [get?_eq_some_iff] at h
  exact (List.getElem?_eq_some_iff.mp h).1

/-- Two live ids of one cell are the same. -/
theorem eq_of_index_eq {x : Item} (h : a.get? id = some item) (hx : a.get? other = some x)
    (hi : other.index = id.index) : other = id := by
  rw [get?_eq_some_iff] at h hx
  rw [hi, h] at hx
  obtain ⟨hg, -⟩ := Cell.occupied.inj (Option.some.inj hx)
  cases id; cases other
  simp_all

theorem modify_eq_self (h : a.get? id = none) (change : Item → Item) : a.modify id change = a := by
  unfold modify; rw [h]

theorem modify_eq_set (h : a.get? id = some item) (change : Item → Item) :
    a.modify id change =
      { a with cells := a.cells.set id.index (.occupied id.generation (change item)) } := by
  unfold modify; rw [h]

theorem get?_modify (a : Arena) (id other : ItemId) (change : Item → Item) :
    (a.modify id change).get? other =
      if other = id then (a.get? id).map change else a.get? other := by
  cases h : a.get? id with
  | none =>
    rw [modify_eq_self h]
    by_cases he : other = id
    · rw [if_pos he, he, h]; rfl
    · rw [if_neg he]
  | some item =>
    have hm : (a.modify id change).cells =
        a.cells.set id.index (.occupied id.generation (change item)) := by rw [modify_eq_set h]
    rw [get?_of_set hm (index_lt_of_get? h)]
    by_cases he : other = id
    · rw [if_pos he, if_pos (by rw [he]), he]; simp [Cell.item?]
    · rw [if_neg he]
      by_cases hi : other.index = id.index
      · -- another generation of the same cell is dead before and after
        have hg : id.generation ≠ other.generation := fun hg => he (by
          cases id; cases other; simp_all)
        rw [if_pos hi]
        simp only [Cell.item?, if_neg hg]
        cases ho : a.get? other with
        | none => rfl
        | some x => exact absurd (eq_of_index_eq h ho hi) he
      · rw [if_neg hi]

theorem get?_modify_self (h : a.get? id = some item) (change : Item → Item) :
    (a.modify id change).get? id = some (change item) := by
  rw [get?_modify, if_pos rfl, h]; rfl

theorem get?_modify_of_ne (h : other ≠ id) (change : Item → Item) :
    (a.modify id change).get? other = a.get? other := by
  rw [get?_modify, if_neg h]

theorem contains_iff : a.contains id = true ↔ ∃ item, a.get? id = some item := by
  unfold contains; exact Option.isSome_iff_exists

theorem contains_modify (a : Arena) (id other : ItemId) (change : Item → Item) :
    (a.modify id change).contains other = a.contains other := by
  unfold contains
  rw [get?_modify]
  split_ifs with h
  · rw [h, Option.isSome_map]
  · rfl

/-- A change makes no item live or dead. -/
theorem exists_modify_iff {change : Item → Item} :
    (∃ item, (a.modify id change).get? other = some item) ↔ ∃ item, a.get? other = some item := by
  rw [← contains_iff, ← contains_iff, contains_modify]

theorem get?_vacate (h : a.get? id = some item) (other : ItemId) :
    (a.vacate id).get? other = if other = id then none else a.get? other := by
  rw [get?_of_set (b := a) rfl (index_lt_of_get? h)]
  by_cases hi : other.index = id.index
  · rw [if_pos hi]
    split_ifs with he
    · rfl
    · cases ho : a.get? other with
      | none => rfl
      | some x => exact absurd (eq_of_index_eq h ho hi) he
  · rw [if_neg hi, if_neg (fun he => hi (by rw [he]))]

/-! ## Sound arenas -/

/-- The free list holds each vacant cell exactly once, and no other. -/
structure Sound (a : Arena) : Prop where
  nodup : a.free.Nodup
  mem_free : ∀ i, i ∈ a.free ↔ ∃ g, a.cells[i]? = some (.vacant g)

theorem sound_empty : empty.Sound where
  nodup := List.nodup_nil
  mem_free i := by simp [empty]

/-- The two ways in which a sound arena stores an item. -/
theorem Sound.insert_cases (h : a.Sound) (item : Item) :
    (∃ i g rest, a.free = i :: rest ∧ a.cells[i]? = some (.vacant g) ∧
      a.insert item = (⟨a.cells.set i (.occupied (nextGeneration g) item), rest⟩,
        ⟨i, nextGeneration g⟩)) ∨
    (a.free = [] ∧ a.insert item = (⟨a.cells ++ [.occupied 0 item], []⟩, ⟨a.cells.length, 0⟩)) := by
  cases hf : a.free with
  | nil =>
    refine Or.inr ⟨rfl, ?_⟩
    unfold insert
    rw [hf]
  | cons i rest =>
    obtain ⟨g, hg⟩ := (h.mem_free i).mp (by rw [hf]; exact List.mem_cons_self)
    refine Or.inl ⟨i, g, rest, rfl, hg, ?_⟩
    unfold insert
    rw [hf]
    simp only [hg, Option.elim_some]
    rfl

theorem nextGeneration_ne (g : Nat) : nextGeneration g ≠ g := by
  unfold nextGeneration wrap max32
  omega

/-- The id of a new item stood for nothing before. -/
theorem get?_insert_new (a : Arena) (item : Item) : a.get? (a.insert item).2 = none := by
  unfold insert
  cases a.free with
  | nil => simp [get?]
  | cons i rest =>
    cases hg : a.cells[i]? with
    | none => simp [get?, hg]
    | some cell => cases cell <;> simp [get?, hg, Cell.item?, Cell.generation, (nextGeneration_ne _).symm]

theorem insert_ne (new : Item) (hl : a.get? id = some item) : (a.insert new).2 ≠ id := by
  rintro rfl
  rw [get?_insert_new] at hl
  cases hl

/-- Storing an item makes nothing else live, wherever it is put. -/
theorem get?_of_get?_insert {new : Item} (h : (a.insert new).1.get? id = some item) :
    id = (a.insert new).2 ∧ item = new ∨ a.get? id = some item := by
  rw [get?_eq_some_iff] at h
  rw [get?_eq_some_iff]
  obtain ⟨j, g⟩ := id
  unfold insert at h ⊢
  cases hf : a.free with
  | nil =>
    rw [hf, List.getElem?_append] at h
    split_ifs at h with hj
    · exact .inr h
    · -- the only cell behind the others is the new one
      obtain ⟨hlt, hcell⟩ := List.getElem?_eq_some_iff.mp h
      simp only [List.length_singleton, List.getElem_singleton, Cell.occupied.injEq] at hlt hcell
      have hj' : j = a.cells.length := by simp only at hj; omega
      exact .inl ⟨by rw [hj', ← hcell.1], hcell.2.symm⟩
  | cons i rest =>
    rw [hf, List.getElem?_set] at h
    split_ifs at h <;> grind

theorem Sound.get?_insert (h : a.Sound) (item : Item) (other : ItemId) :
    (a.insert item).1.get? other = if other = (a.insert item).2 then some item else a.get? other := by
  obtain ⟨i, g, rest, -, hg, he⟩ | ⟨-, he⟩ := h.insert_cases item
  · rw [he, get?_of_set (b := a) rfl (List.getElem?_eq_some_iff.mp hg).1]
    obtain ⟨j, n⟩ := other
    by_cases hj : j = i
    · subst hj
      by_cases hn : nextGeneration g = n
      · simp [Cell.item?, hn]
      · simp [Cell.item?, hn, Ne.symm hn, get?, hg]
    · simp [hj]
  · rw [he]
    obtain ⟨j, n⟩ := other
    rcases Nat.lt_trichotomy j a.cells.length with hj | hj | hj
    · simp [get?, List.getElem?_append_left hj, Nat.ne_of_lt hj]
    · subst hj
      by_cases hn : 0 = n
      · simp [get?, Cell.item?, hn]
      · simp [get?, Cell.item?, hn, Ne.symm hn]
    · have h1 : (a.cells ++ [Cell.occupied 0 item])[j]? = none :=
        List.getElem?_eq_none (by simp; omega)
      have h2 : a.cells[j]? = none := List.getElem?_eq_none (by omega)
      simp [get?, h1, h2, Nat.ne_of_gt hj]

theorem Sound.get?_insert_self (h : a.Sound) (item : Item) :
    (a.insert item).1.get? (a.insert item).2 = some item := by
  rw [h.get?_insert, if_pos rfl]

/-- A new item leaves every live id standing for what it stood for. -/
theorem Sound.get?_insert_of_live (h : a.Sound) (new : Item) (hl : a.get? id = some item) :
    (a.insert new).1.get? id = some item := by
  rw [h.get?_insert, if_neg (insert_ne new hl).symm, hl]

theorem Sound.insert (h : a.Sound) (item : Item) : (a.insert item).1.Sound := by
  obtain ⟨i, g, rest, hf, hg, he⟩ | ⟨hf, he⟩ := h.insert_cases item
  · rw [he]
    have hi := (List.getElem?_eq_some_iff.mp hg).1
    have hn := h.nodup
    rw [hf, List.nodup_cons] at hn
    refine ⟨hn.2, fun j => ?_⟩
    have hj := h.mem_free j
    rw [hf, List.mem_cons] at hj
    simp only [List.getElem?_set]
    by_cases hij : i = j
    · subst hij; simp [hi, hn.1]
    · rw [if_neg hij, ← hj]
      simp [Ne.symm hij]
  · rw [he]
    refine ⟨List.nodup_nil, fun j => ?_⟩
    have hj := h.mem_free j
    rw [hf] at hj
    simp only [List.not_mem_nil, false_iff] at hj ⊢
    rintro ⟨g, hg⟩
    rw [List.getElem?_append] at hg
    split_ifs at hg with hl
    · exact hj ⟨g, hg⟩
    · cases hk : j - a.cells.length with
      | zero => rw [hk] at hg; simp at hg
      | succ k => rw [hk] at hg; simp at hg

theorem Sound.modify (h : a.Sound) (id : ItemId) (change : Item → Item) :
    (a.modify id change).Sound := by
  unfold Arena.modify
  cases hl : a.get? id with
  | none => exact h
  | some item =>
    refine ⟨h.nodup, fun j => ?_⟩
    rw [h.mem_free j, List.getElem?_set]
    by_cases hij : id.index = j
    · subst hij
      rw [get?_eq_some_iff] at hl
      rw [if_pos rfl, if_pos (List.getElem?_eq_some_iff.mp hl).1, hl]
      simp
    · rw [if_neg hij]

theorem Sound.vacate (h : a.Sound) (hl : a.get? id = some item) : (a.vacate id).Sound := by
  have hi := index_lt_of_get? hl
  rw [get?_eq_some_iff] at hl
  have hn : id.index ∉ a.free := by
    rw [h.mem_free, hl]
    simp
  refine ⟨List.nodup_cons.mpr ⟨hn, h.nodup⟩, fun j => ?_⟩
  simp only [Arena.vacate, List.mem_cons, List.getElem?_set]
  by_cases hij : id.index = j
  · subst hij; simp [hi]
  · rw [if_neg hij, h.mem_free j]
    simp [Ne.symm hij]

/-! ## What holds of every item -/

/-- `P` holds of every item. -/
def Every (P : Item → Prop) (a : Arena) : Prop := ∀ id item, a.get? id = some item → P item

section Every

variable {P : Item → Prop}

theorem every_empty : Every P empty := fun id item h => by simp [get?, empty] at h

theorem Every.modify (h : Every P a) {change : Item → Item}
    (hc : ∀ item, a.get? id = some item → P (change item)) : Every P (a.modify id change) := by
  intro x item hx
  rw [get?_modify] at hx
  split_ifs at hx
  · obtain ⟨old, ho, rfl⟩ := Option.map_eq_some_iff.mp hx
    exact hc old ho
  · exact h x item hx

theorem Every.vacate (h : Every P a) (hl : a.get? id = some item) : Every P (a.vacate id) := by
  intro x held hx
  rw [get?_vacate hl] at hx
  split_ifs at hx
  exact h x held hx

theorem Sound.every_insert (hs : a.Sound) (h : Every P a) {new : Item} (hn : P new) :
    Every P (a.insert new).1 := by
  intro x held hx
  rw [hs.get?_insert] at hx
  split_ifs at hx
  · obtain rfl := Option.some.inj hx
    exact hn
  · exact h x held hx

end Every

/-! ## Issued ids -/

/-- The generations of the cells. -/
def generations (a : Arena) : List Nat := a.cells.map Cell.generation

/-- The cell of the id has reached its generation. -/
def Issued (a : Arena) (id : ItemId) : Prop :=
  ∃ g, a.generations[id.index]? = some g ∧ id.generation ≤ g

/-- Each cell, a new one too, can be used `n` more times before its generation wraps. -/
structure Room (n : Nat) (a : Arena) : Prop where
  le : n ≤ max32
  cells : ∀ g ∈ a.generations, g + n ≤ max32

theorem issued_of_get? (h : a.get? id = some item) : a.Issued id := by
  rw [get?_eq_some_iff] at h
  exact ⟨id.generation, by simp [generations, h, Cell.generation], le_rfl⟩

theorem issued_congr (h : a.generations = b.generations) : a.Issued id ↔ b.Issued id := by
  unfold Issued; rw [h]

theorem Room.mono {m n : Nat} (h : Room n a) (hm : m ≤ n) : Room m a :=
  ⟨hm.trans h.le, fun g hg => (Nat.add_le_add_left hm g).trans (h.cells g hg)⟩

/-- Writing what is there already changes nothing. -/
private theorem set_of_getElem? {α : Type} {l : List α} {i : Nat} {x : α} (h : l[i]? = some x) :
    l.set i x = l := by
  obtain ⟨hi, rfl⟩ := List.getElem?_eq_some_iff.mp h
  exact List.set_getElem_self hi

theorem generations_modify (a : Arena) (id : ItemId) (change : Item → Item) :
    (a.modify id change).generations = a.generations := by
  unfold generations modify
  cases hl : a.get? id with
  | none => rfl
  | some item =>
    rw [get?_eq_some_iff] at hl
    rw [List.map_set]
    exact set_of_getElem? (by simp [hl, Cell.generation])

theorem generations_vacate (h : a.get? id = some item) :
    (a.vacate id).generations = a.generations := by
  rw [get?_eq_some_iff] at h
  unfold generations vacate
  rw [List.map_set]
  exact set_of_getElem? (by simp [h, Cell.generation])

/-- A new id takes the next generation of a cell, or opens a cell. -/
inductive Grows (a b : Arena) (new : ItemId) : Prop
  | reuse {i g : Nat} (hg : a.generations[i]? = some g) (hnew : new = ⟨i, g + 1⟩)
    (hgen : b.generations = a.generations.set i (g + 1))
  | extend (hnew : new = ⟨a.generations.length, 0⟩) (hgen : b.generations = a.generations ++ [0])

namespace Grows

variable {new : ItemId}

/-- The new id was never issued. -/
theorem not_issued (h : Grows a b new) : ¬ a.Issued new := by
  rintro ⟨k, hk, hle⟩
  cases h with
  | reuse hg hnew =>
    rw [hnew] at hk hle
    obtain rfl := Option.some.inj (hg.symm.trans hk)
    exact absurd hle (Nat.not_succ_le_self _)
  | extend hnew =>
    rw [hnew] at hk
    simp at hk

/-- Besides the new id, those that were issued are. -/
theorem issued_iff (h : Grows a b new) : b.Issued id ↔ a.Issued id ∨ id = new := by
  obtain ⟨j, k⟩ := id
  unfold Issued
  cases h with
  | @reuse i g hg hnew hgen =>
    rw [hnew, hgen, List.getElem?_set]
    by_cases hi : i = j
    · subst hi
      have hlt := (List.getElem?_eq_some_iff.mp hg).1
      simp only [hlt, if_true, hg, Option.some.injEq, exists_eq_left', ItemId.mk.injEq, true_and]
      omega
    · simp [hi, Ne.symm hi]
  | extend hnew hgen =>
    rw [hnew, hgen]
    rcases Nat.lt_trichotomy j a.generations.length with hj | hj | hj
    · simp [List.getElem?_append_left hj, Nat.ne_of_lt hj]
    · subst hj
      simp
    · have h1 : (a.generations ++ [0])[j]? = none := List.getElem?_eq_none (by simp; omega)
      have h2 : a.generations[j]? = none := List.getElem?_eq_none (by omega)
      simp [h1, h2, Nat.ne_of_gt hj]

end Grows

/-- The next generation is one more where the count has not reached its end. -/
theorem nextGeneration_of_lt {g : Nat} (h : g < max32) : nextGeneration g = g + 1 :=
  wrap_of_le h

/-- A new item grows the arena, unless the generation of the cell it takes wraps. -/
theorem Sound.grows_insert_of (h : a.Sound) (item : Item)
    (hfit : ∀ i g, a.generations[i]? = some g → (a.insert item).2 = ⟨i, nextGeneration g⟩ → g < max32) :
    Grows a (a.insert item).1 (a.insert item).2 := by
  obtain ⟨i, g, rest, -, hg, he⟩ | ⟨-, he⟩ := h.insert_cases item
  · have hi : a.generations[i]? = some g := by simp [generations, hg, Cell.generation]
    have hn : nextGeneration g = g + 1 := nextGeneration_of_lt (hfit i g hi (by rw [he]))
    refine .reuse hi (by rw [he, hn]) ?_
    rw [he, hn]
    exact List.map_set
  · refine .extend ?_ ?_
    · rw [he]; simp [generations]
    · rw [he]; simp [generations, Cell.generation]

theorem Sound.grows_insert {n : Nat} (h : a.Sound) (hr : Room (n + 1) a) (item : Item) :
    Grows a (a.insert item).1 (a.insert item).2 := by
  refine h.grows_insert_of item fun i g hg _ => ?_
  have := hr.cells g (List.mem_of_getElem? hg)
  omega

/-- A new item gets an id that was never issued. -/
theorem Sound.not_issued_insert {n : Nat} (h : a.Sound) (hr : Room (n + 1) a) (item : Item) :
    ¬ a.Issued (a.insert item).2 := (h.grows_insert hr item).not_issued

theorem Sound.issued_insert {n : Nat} (h : a.Sound) (hr : Room (n + 1) a) (item : Item)
    (hid : a.Issued id) : (a.insert item).1.Issued id :=
  (h.grows_insert hr item).issued_iff.mpr (Or.inl hid)

theorem Sound.room_insert {n : Nat} (h : a.Sound) (hr : Room (n + 1) a) (item : Item) :
    Room n (a.insert item).1 := by
  have hold := hr.mono (Nat.le_succ n)
  refine ⟨hold.le, fun k hk => ?_⟩
  cases h.grows_insert hr item with
  | reuse hg _ hgen =>
    rw [hgen] at hk
    rcases List.mem_or_eq_of_mem_set hk with hk | rfl
    · exact hold.cells k hk
    · have := hr.cells _ (List.mem_of_getElem? hg)
      omega
  | extend _ hgen =>
    rw [hgen] at hk
    rcases List.mem_append.mp hk with hk | hk
    · exact hold.cells k hk
    · obtain rfl := List.mem_singleton.mp hk
      simpa using hold.le

end Adventurer.Arena
