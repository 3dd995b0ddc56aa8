import Adventurer.Proofs.Arena.Acyclic

/-!
# What a weight depends on

The weight of an item is read off the items that are reached from it, charges apart.  What is inside an item
of unknown type is not looked into, which is to say that the weight is that in the sealed arena, where such
items are empty.  So two arenas that agree below an item give it the same weight, if in the sealed arena
every way down from it ends (`SameBelow.totalWeight_eq`); otherwise there is no weight to speak of.
-/

namespace Adventurer

/-- The item apart from its charges. -/
def Item.uncharged (item : Item) : Item := { item with charges := 0 }

theorem Item.of_uncharged_eq {item held : Item} (h : held.uncharged = item.uncharged) :
    held.type = item.type ∧ held.count = item.count ∧ held.contents = item.contents := by
  obtain ⟨htype, hcount, -, hcontents⟩ := Item.mk.inj h
  exact ⟨htype, hcount, hcontents⟩

/-- The item, empty if its type is unknown. -/
def Item.sealed (types : ItemLookup) (item : Item) : Item :=
  if (types item.type).isSome then item else { item with contents := [] }

/-- The cell with its item sealed. -/
def Cell.sealed (types : ItemLookup) : Cell → Cell
  | occupied generation item => .occupied generation (item.sealed types)
  | vacant generation => .vacant generation

/-- The arena in which the items of unknown type are empty. -/
def Arena.sealed (types : ItemLookup) (a : Arena) : Arena := { a with cells := a.cells.map (·.sealed types) }

theorem Item.uncharged_sealed (types : ItemLookup) (item : Item) :
    (item.sealed types).uncharged = item.uncharged.sealed types := by
  unfold Item.sealed Item.uncharged
  split_ifs <;> rfl

namespace Arena

variable {a b : Arena} {types : ItemLookup} {root x u id : ItemId} {item : Item}

/-! ## Sealed arenas -/

theorem get?_sealed (types : ItemLookup) (a : Arena) (id : ItemId) :
    (a.sealed types).get? id = (a.get? id).map (·.sealed types) := by
  unfold get? sealed
  rw [List.getElem?_map]
  cases a.cells[id.index]? with
  | none => rfl
  | some cell =>
    cases cell with
    | vacant g => rfl
    | occupied g item =>
      simp only [Option.map_some, Option.bind_some, Cell.sealed, Cell.item?]
      split_ifs <;> rfl

theorem lists_of_sealed (h : (a.sealed types).Lists u x) : a.Lists u x := by
  obtain ⟨bag, hb, hx⟩ := h
  rw [get?_sealed] at hb
  obtain ⟨held, hheld, rfl⟩ := Option.map_eq_some_iff.mp hb
  refine ⟨held, hheld, ?_⟩
  unfold Item.sealed at hx
  split_ifs at hx
  · exact hx
  · exact absurd hx List.not_mem_nil

theorem Acyclic.sealed (h : a.Acyclic) (types : ItemLookup) : (a.sealed types).Acyclic :=
  h.of_lists fun _ _ => lists_of_sealed

theorem weightDepth_sealed (types : ItemLookup) (a : Arena) :
    ∀ (n : Nat) (id : ItemId), weightDepth types n (a.sealed types) id = weightDepth types n a id
  | 0, _ => rfl
  | n + 1, id => by
    simp only [weightDepth, get?_sealed]
    cases a.get? id with
    | none => rfl
    | some item =>
      cases htype : types item.type with
      | none => simp [Item.sealed, htype]
      | some type =>
        have hknown : item.sealed types = item := by simp [Item.sealed, htype]
        simp only [Option.map_some, hknown, htype]
        exact List.foldl_ext _ _ _ fun sum c _ => by rw [weightDepth_sealed types a n c]

theorem totalWeight_sealed (types : ItemLookup) (a : Arena) (id : ItemId) :
    (a.sealed types).totalWeight types id = a.totalWeight types id := by
  unfold totalWeight
  rw [weightDepth_sealed]
  unfold Arena.sealed
  rw [List.length_map]

/-! ## Arenas that agree below an item -/

/-- What is reached from `root` is the same in both arenas, charges apart. -/
def SameBelow (a b : Arena) (root : ItemId) : Prop :=
  ∀ x, a.Reaches root x → (b.get? x).map Item.uncharged = (a.get? x).map Item.uncharged

theorem SameBelow.of_lists (h : SameBelow a b root) (hl : a.Lists root x) : SameBelow a b x :=
  fun y hy => h y (Relation.ReflTransGen.head hl hy)

theorem lists_of_same (h : (b.get? u).map Item.uncharged = (a.get? u).map Item.uncharged)
    (hl : b.Lists u x) : a.Lists u x := by
  obtain ⟨bag, hb, hx⟩ := hl
  rw [hb, Option.map_some] at h
  obtain ⟨held, hheld, heq⟩ := Option.map_eq_some_iff.mp h.symm
  obtain ⟨-, -, hcontents⟩ := Item.of_uncharged_eq heq
  exact ⟨held, hheld, hcontents ▸ hx⟩

theorem SameBelow.reaches (h : SameBelow a b root) (hr : b.Reaches root x) : a.Reaches root x := by
  induction hr with
  | refl => exact Reaches.refl a root
  | tail _ hl ih => exact ih.tail (lists_of_same (h _ ih) hl)

theorem SameBelow.symm (h : SameBelow a b root) : SameBelow b a root :=
  fun x hx => (h x (h.reaches hx)).symm

theorem SameBelow.sealed (h : SameBelow a b root) (types : ItemLookup) :
    SameBelow (a.sealed types) (b.sealed types) root := by
  intro x hx
  have hsame := h x (hx.mono fun _ _ => lists_of_sealed)
  have hcommute : Item.uncharged ∘ Item.sealed types = Item.sealed types ∘ Item.uncharged :=
    funext (Item.uncharged_sealed types)
  rw [get?_sealed, get?_sealed, Option.map_map, Option.map_map, hcommute, ← Option.map_map,
    ← Option.map_map, hsame]

theorem SameBelow.grounded (h : SameBelow a b root) (hg : a.Grounded root) : b.Grounded root := by
  induction hg with
  | intro root _ ih =>
    refine Acc.intro root fun x hl => ?_
    have hlist := lists_of_same (h root (Reaches.refl a root)) hl
    exact ih x hlist (h.of_lists hlist)

theorem SameBelow.weightDepth_eq (types : ItemLookup) : ∀ (n : Nat) {root : ItemId}, SameBelow a b root →
    weightDepth types n b root = weightDepth types n a root
  | 0, _, _ => rfl
  | n + 1, root, h => by
    have hroot := h root (Reaches.refl a root)
    simp only [weightDepth]
    cases ha : a.get? root with
    | none =>
      rw [ha] at hroot
      rw [Option.map_eq_none_iff.mp hroot]
    | some item =>
      rw [ha, Option.map_some] at hroot
      obtain ⟨held, hheld, heq⟩ := Option.map_eq_some_iff.mp hroot
      obtain ⟨htype, hcount, hcontents⟩ := Item.of_uncharged_eq heq
      simp only [hheld, htype, hcontents, Item.ownWeight, hcount]
      cases types item.type with
      | none => rfl
      | some type =>
        exact List.foldl_ext _ _ _ fun sum c hc => by rw [(h.of_lists ⟨item, ha, hc⟩).weightDepth_eq types n]

/-- The weight of an item depends only on what is below it, as far as there is one. -/
theorem SameBelow.totalWeight_eq (h : SameBelow a b root) (types : ItemLookup)
    (hg : (a.sealed types).Grounded root) : b.totalWeight types root = a.totalWeight types root := by
  have hsealed := h.sealed types
  have hdepth := hsealed.weightDepth_eq types (max (a.sealed types).cells.length (b.sealed types).cells.length)
  rw [(hsealed.grounded hg).weightDepth_eq types (Nat.le_max_right _ _),
    hg.weightDepth_eq types (Nat.le_max_left _ _)] at hdepth
  rw [← totalWeight_sealed types b, hdepth, totalWeight_sealed types a]

end Arena

end Adventurer
