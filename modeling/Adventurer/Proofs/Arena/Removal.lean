import Adventurer.Proofs.Arena.Containment

/-!
# Removal

Removing an item vacates one live cell after the other, so whatever every single vacating keeps is
kept (`remove_induction`).  An item that lists nothing only vacates its own cell.  What is gone after a
removal is exactly what was within the item (`get?_remove`), also where containers list items twice or
list each other, since an item whose cell is vacant already is passed over.
-/

namespace Adventurer.Arena

variable {a : Arena} {id x : ItemId} {item : Item} {f : Item → Nat}

section Induction

variable {P : Arena → Prop}
  (hv : ∀ {a : Arena} {id : ItemId} {item : Item}, a.get? id = some item → P a → P (a.vacate id))
include hv

theorem removeTree_induction : ∀ (n : Nat) (a : Arena) (id : ItemId), P a → P (removeTree n a id)
  | 0, _, _, h => h
  | n + 1, a, id, h => by
    unfold removeTree
    split
    · rename_i item hl
      have step : ∀ (l : List ItemId) (b : Arena), P b → P (l.foldl (removeTree n) b) := by
        intro l
        induction l with
        | nil => exact fun b hb => hb
        | cons c l ih => exact fun b hb => ih _ (removeTree_induction n b c hb)
      exact step item.contents _ (hv hl h)
    · exact h

/-- What every vacating of a live cell keeps, a removal keeps. -/
theorem remove_induction (id : ItemId) (h : P a) : P (a.remove id) :=
  removeTree_induction hv _ a id h

end Induction

theorem Sound.remove (h : a.Sound) (id : ItemId) : (a.remove id).Sound :=
  remove_induction (fun hl hs => hs.vacate hl) id h

/-- The arenas that storing, changing and removing items leads to. -/
inductive Built : Arena → Prop
  | empty : Built .empty
  | insert {a : Arena} (h : Built a) (item : Item) : Built (a.insert item).1
  | modify {a : Arena} (h : Built a) (id : ItemId) (change : Item → Item) : Built (a.modify id change)
  | remove {a : Arena} (h : Built a) (id : ItemId) : Built (a.remove id)

/-- The operations never lose track of a vacant cell. -/
theorem Built.sound (h : a.Built) : a.Sound := by
  induction h with
  | empty => exact sound_empty
  | insert _ item ih => exact ih.insert item
  | modify _ id change ih => exact ih.modify id change
  | remove _ id ih => exact ih.remove id

theorem generations_remove (a : Arena) (id : ItemId) : (a.remove id).generations = a.generations :=
  remove_induction (P := fun b => b.generations = a.generations)
    (fun hl h => (generations_vacate hl).trans h) id rfl

/-- What is left after a removal is as it was. -/
theorem get?_of_get?_remove (h : (a.remove id).get? x = some item) : a.get? x = some item := by
  refine remove_induction (a := a) (P := fun b => ∀ x item, b.get? x = some item →
    a.get? x = some item) ?_ id (fun _ _ h => h) x item h
  intro b id' item' hl hb x item hx
  rw [get?_vacate hl] at hx
  split_ifs at hx
  exact hb x item hx

theorem lists_of_remove {u : ItemId} (h : (a.remove id).Lists u x) : a.Lists u x := by
  obtain ⟨bag, hb, hx⟩ := h
  exact ⟨bag, get?_of_get?_remove hb, hx⟩

theorem tally_remove_le (a : Arena) (id : ItemId) : (a.remove id).tally f ≤ a.tally f := by
  refine remove_induction (P := fun b => b.tally f ≤ a.tally f) ?_ id le_rfl
  intro b id' item' hl hb
  have := tally_vacate (f := f) hl
  omega

/-- An item that lists nothing takes nothing along. -/
theorem remove_eq_vacate (h : a.get? id = some item) (hc : item.contents = []) :
    a.remove id = a.vacate id := by
  obtain ⟨n, hn⟩ := Nat.exists_eq_succ_of_ne_zero (Nat.ne_zero_of_lt (index_lt_of_get? h))
  unfold remove
  rw [hn, removeTree, h]
  simp [hc]

/-! ## What is gone -/

/-- The items of `gone` are not in `b`, and all others are there as they were in `a`. -/
structure Loses (a b : Arena) (gone : ItemId → Prop) : Prop where
  dead : ∀ x, gone x → b.get? x = none
  kept : ∀ x, ¬ gone x → b.get? x = a.get? x

namespace Loses

variable {b : Arena} {gone : ItemId → Prop}

theorem lists_iff (h : Loses a b gone) {u v : ItemId} : b.Lists u v ↔ ¬ gone u ∧ a.Lists u v := by
  unfold Lists
  by_cases hu : gone u
  · rw [h.dead u hu]
    simp [hu]
  · rw [h.kept u hu]
    simp [hu]

theorem reaches (h : Loses a b gone) {root : ItemId} (hr : b.Reaches root x) : a.Reaches root x :=
  hr.mono fun _ _ hl => (h.lists_iff.mp hl).2

/-- A way down survives unless it meets what is gone, and all below that is gone as well. -/
theorem reaches_or {child root : ItemId} (h : Loses a b (a.Reaches child)) (hr : a.Reaches root x) :
    b.Reaches root x ∨ a.Reaches child x := by
  induction hr with
  | refl => exact Or.inl (Reaches.refl b root)
  | @tail u v _ huv ih =>
    by_cases hu : a.Reaches child u
    · exact Or.inr (hu.tail huv)
    · exact Or.inl ((ih.resolve_right hu).tail (h.lists_iff.mpr ⟨hu, huv⟩))

end Loses

theorem loses_vacate (h : a.get? id = some item) : Loses a (a.vacate id) (· = id) where
  dead x hx := by rw [get?_vacate h, if_pos hx]
  kept x hx := by rw [get?_vacate h, if_neg hx]

/-- What lies within an item is the item and what is still within its contents once it is gone. -/
theorem reaches_iff_vacate (h : a.get? id = some item) :
    a.Reaches id x ↔ x = id ∨ ∃ child ∈ item.contents, (a.vacate id).Reaches child x := by
  constructor
  · intro hr
    by_cases hx : x = id
    · exact Or.inl hx
    · obtain ⟨child, -, ⟨bag, hb, hc⟩, hp⟩ := hr.path.exists_child hx
      obtain rfl := Option.some.inj (h.symm.trans hb)
      refine Or.inr ⟨child, hc, Relation.ReflTransGen.mono (fun u v huv => ?_) _ _ hp⟩
      exact (loses_vacate h).lists_iff.mpr ⟨(Finset.mem_erase.mp huv.1).1, huv.2⟩
  · rintro (rfl | ⟨child, hc, hr⟩)
    · exact Reaches.refl a x
    · exact Relation.ReflTransGen.head ⟨item, h, hc⟩ ((loses_vacate h).reaches hr)

theorem size_eq_tally (a : Arena) : a.size = a.tally fun _ => 1 := by
  unfold size tally
  induction a.cells with
  | nil => rfl
  | cons cell rest ih =>
    rw [List.countP_cons, ih, Cell.tallyAll]
    cases cell <;> simp [Cell.isOccupied, Cell.tally, Nat.add_comm]

theorem size_vacate (h : a.get? id = some item) : (a.vacate id).size + 1 = a.size := by
  rw [size_eq_tally, size_eq_tally]
  exact tally_vacate (f := fun _ => 1) h

theorem size_removeTree_le (n : Nat) (a : Arena) (id : ItemId) : (removeTree n a id).size ≤ a.size := by
  refine removeTree_induction (P := fun b => b.size ≤ a.size) (fun hl hb => ?_) n a id le_rfl
  have := size_vacate hl
  omega

/-- Removing one item after another loses what each of them reaches at first. -/
theorem loses_foldl {n : Nat} {remove : Arena → ItemId → Arena}
    (hstep : ∀ a child, a.size ≤ n → Loses a (remove a child) (a.Reaches child))
    (hsize : ∀ a child, (remove a child).size ≤ a.size) :
    ∀ (children : List ItemId) (a : Arena), a.size ≤ n →
      Loses a (children.foldl remove a) fun x => ∃ child ∈ children, a.Reaches child x
  | [], a, _ => ⟨fun x h => by simp at h, fun x _ => rfl⟩
  | child :: children, a, hn => by
    have hfirst := hstep a child hn
    have hrest := loses_foldl hstep hsize children (remove a child) ((hsize a child).trans hn)
    have hsame : ∀ x, ¬ a.Reaches child x → ((∃ c ∈ children, (remove a child).Reaches c x) ↔
        ∃ c ∈ children, a.Reaches c x) := fun x hx =>
      ⟨fun ⟨c, hc, hr⟩ => ⟨c, hc, hfirst.reaches hr⟩,
        fun ⟨c, hc, hr⟩ => ⟨c, hc, (hfirst.reaches_or hr).resolve_right hx⟩⟩
    refine ⟨fun x hx => ?_, fun x hx => ?_⟩
    · by_cases hc : a.Reaches child x
      · -- what is gone after the first removal stays gone
        by_cases hagain : ∃ c ∈ children, (remove a child).Reaches c x
        · exact hrest.dead x hagain
        · exact (hrest.kept x hagain).trans (hfirst.dead x hc)
      · obtain ⟨c, hmem, hr⟩ := hx
        refine hrest.dead x ((hsame x hc).mpr ⟨c, ?_, hr⟩)
        exact (List.mem_cons.mp hmem).resolve_left fun he => hc (he ▸ hr)
    · have hc : ¬ a.Reaches child x := fun hr => hx ⟨child, List.mem_cons_self, hr⟩
      have hothers : ¬ ∃ c ∈ children, a.Reaches c x := fun ⟨c, hmem, hr⟩ =>
        hx ⟨c, List.mem_cons_of_mem _ hmem, hr⟩
      exact (hrest.kept x (mt (hsame x hc).mp hothers)).trans (hfirst.kept x hc)

/-- A dead id lists nothing, so that all it reaches is itself. -/
theorem loses_of_dead (h : a.get? id = none) : Loses a a (a.Reaches id) where
  dead x hr := by
    have hn : ∀ v, ¬ a.Lists id v := fun v ⟨bag, hb, _⟩ => by
      rw [h] at hb
      exact absurd hb (by simp)
    rw [hr.eq_of_not_lists hn]
    exact h
  kept _ _ := rfl

/-- A removal goes deep enough if it goes as deep as there are items. -/
theorem loses_removeTree : ∀ (n : Nat) (a : Arena) (id : ItemId), a.size ≤ n →
    Loses a (removeTree n a id) (a.Reaches id)
  | 0, a, id, hn => by
    refine loses_of_dead ?_
    cases hl : a.get? id with
    | none => rfl
    | some item =>
      have := size_vacate hl
      omega
  | n + 1, a, id, hn => by
    unfold removeTree
    cases hl : a.get? id with
    | none => exact loses_of_dead hl
    | some item =>
      have hsize := size_vacate hl
      have hbelow := loses_foldl (loses_removeTree n) (size_removeTree_le n) item.contents (a.vacate id)
        (by omega)
      have hself := loses_vacate hl
      refine ⟨fun x hr => ?_, fun x hr => ?_⟩
      · by_cases hx : ∃ child ∈ item.contents, (a.vacate id).Reaches child x
        · exact hbelow.dead x hx
        · have hid := ((reaches_iff_vacate hl).mp hr).resolve_right hx
          exact (hbelow.kept x hx).trans (hself.dead x hid)
      · rw [reaches_iff_vacate hl, not_or] at hr
        exact (hbelow.kept x hr.2).trans (hself.kept x hr.1)

/-- Removing an item removes what is within it, and nothing else. -/
theorem get?_remove (a : Arena) (id x : ItemId) :
    (a.remove id).get? x = if a.isWithin id x then none else a.get? x := by
  have h := loses_removeTree a.cells.length a id (List.countP_le_length)
  by_cases hx : a.Reaches id x
  · rw [if_pos (isWithin_iff.mpr hx)]
    exact h.dead x hx
  · rw [if_neg (mt isWithin_iff.mp hx)]
    exact h.kept x hx

theorem get?_remove_self (a : Arena) (id : ItemId) : (a.remove id).get? id = none := by
  rw [get?_remove, if_pos (isWithin_iff.mpr (Reaches.refl a id))]

end Adventurer.Arena
