import Adventurer.Proofs.Arena.Tally
import Mathlib.Data.Finset.Card
import Mathlib.Logic.Relation

/-!
# Containment

`a.Lists box x` is one step of containment and `a.Reaches root x` any number of them.  The searches
below an item go only as deep as there are cells; `isWithin_iff` and `detach?_isSome_iff` say that
this is deep enough on every arena, because a shortest way down visits each live item once.
-/

namespace Adventurer.Arena

variable {a b : Arena} {root box u x id : ItemId} {item : Item}

/-- The item `box` lists `x` among its contents. -/
def Lists (a : Arena) (box x : ItemId) : Prop := ∃ bag, a.get? box = some bag ∧ x ∈ bag.contents

/-- `x` is `root` or lies somewhere inside it. -/
def Reaches (a : Arena) : ItemId → ItemId → Prop := Relation.ReflTransGen a.Lists

theorem Reaches.refl (a : Arena) (x : ItemId) : a.Reaches x x := Relation.ReflTransGen.refl

theorem Reaches.tail (h : a.Reaches root box) (hl : a.Lists box x) : a.Reaches root x :=
  Relation.ReflTransGen.tail h hl

theorem Reaches.mono (h : a.Reaches root x) (hl : ∀ u v, a.Lists u v → b.Lists u v) :
    b.Reaches root x :=
  Relation.ReflTransGen.mono (fun u v => hl u v) _ _ h

/-- What is still reached when only the listings of one item may be gone: each way down now starts at
the root or at that item. -/
theorem Reaches.or_of_except (h : a.Reaches root x)
    (hl : ∀ u v, v ≠ id → a.Lists u v → b.Lists u v) : b.Reaches root x ∨ b.Reaches id x := by
  induction h with
  | refl => exact Or.inl (Reaches.refl b root)
  | @tail u v _ huv ih =>
    by_cases hv : v = id
    · rw [hv]; exact Or.inr (Reaches.refl b id)
    · exact ih.imp (·.tail (hl u v hv huv)) (·.tail (hl u v hv huv))

/-- Nothing but the item itself is reached from an item that lists nothing. -/
theorem Reaches.eq_of_not_lists (h : a.Reaches root x) (hn : ∀ v, ¬ a.Lists root v) : x = root := by
  induction h using Relation.ReflTransGen.head_induction_on with
  | refl => rfl
  | head huv _ _ => exact absurd huv (hn _)

/-- An item other than the root that is reached is listed. -/
theorem Reaches.exists_lists (h : a.Reaches root x) (hne : x ≠ root) :
    ∃ box, a.Reaches root box ∧ a.Lists box x := by
  rcases Relation.ReflTransGen.cases_tail h with heq | ⟨box, h1, h2⟩
  · exact absurd heq hne
  · exact ⟨box, h1, h2⟩

theorem listings_pos_iff : 0 < a.listings x ↔ ∃ box, a.Lists box x := by
  constructor
  · intro h
    obtain ⟨box, bag, hb, hp⟩ := exists_of_tally_pos h
    exact ⟨box, bag, hb, List.count_pos_iff.mp hp⟩
  · rintro ⟨box, bag, hb, hx⟩
    have h1 : 0 < bag.contents.count x := List.count_pos_iff.mpr hx
    have h2 := le_tally (f := fun item => item.contents.count x) hb
    exact lt_of_lt_of_le h1 h2

theorem listings_modify (h : a.get? id = some item) (change : Item → Item) (x : ItemId) :
    (a.modify id change).listings x + item.contents.count x =
      a.listings x + (change item).contents.count x :=
  tally_modify (f := fun item => item.contents.count x) h change

/-- Two containers list an item at least twice. -/
theorem two_le_listings {other : ItemId} (h : a.Lists box x) (ho : a.Lists other x)
    (hne : other ≠ box) : 2 ≤ a.listings x := by
  obtain ⟨bag, hb, hx⟩ := h
  obtain ⟨sack, hs, hy⟩ := ho
  have hleft : (a.vacate box).get? other = some sack := by
    rw [get?_vacate hb, if_neg hne]
    exact hs
  have h1 := tally_vacate (f := fun item => item.contents.count x) hb
  have h2 := le_tally (f := fun item => item.contents.count x) hleft
  have h3 := List.count_pos_iff.mpr hx
  have h4 := List.count_pos_iff.mpr hy
  unfold listings
  omega

/-! ## Listings after a change -/

/-- A container without one of the listings of `x`. -/
def unlist (x : ItemId) (bag : Item) : Item := { bag with contents := bag.contents.erase x }

/-- A container with `x` behind its contents. -/
def enlist (x : ItemId) (bag : Item) : Item := { bag with contents := bag.contents ++ [x] }

/-- A change that leaves contents alone. -/
theorem lists_modify {change : Item → Item} (h : ∀ item, (change item).contents = item.contents) :
    (a.modify id change).Lists box x ↔ a.Lists box x := by
  unfold Lists
  rw [get?_modify]
  split_ifs with hb
  · subst hb
    constructor
    · rintro ⟨bag, hbag, hx⟩
      obtain ⟨old, ho, rfl⟩ := Option.map_eq_some_iff.mp hbag
      exact ⟨old, ho, h old ▸ hx⟩
    · rintro ⟨bag, hbag, hx⟩
      exact ⟨change bag, by rw [hbag]; rfl, (h bag).symm ▸ hx⟩
  · exact Iff.rfl

/-- A new item that holds nothing. -/
theorem Sound.lists_insert (hs : a.Sound) {new : Item} (h : new.contents = []) :
    (a.insert new).1.Lists box x ↔ a.Lists box x := by
  unfold Lists
  rw [hs.get?_insert]
  split_ifs with hb
  · subst hb
    rw [get?_insert_new]
    simp [h]
  · exact Iff.rfl

/-- A new item that holds nothing leads nowhere, wherever it is put. -/
theorem lists_of_insert {new : Item} (hc : new.contents = []) (h : (a.insert new).1.Lists u x) :
    a.Lists u x := by
  obtain ⟨bag, hb, hx⟩ := h
  rcases get?_of_get?_insert hb with ⟨-, rfl⟩ | hold
  · rw [hc] at hx
    exact absurd hx List.not_mem_nil
  · exact ⟨bag, hold, hx⟩

/-- An item that holds nothing, taken out of its cell. -/
theorem lists_vacate (hl : a.get? id = some item) (h : item.contents = []) :
    (a.vacate id).Lists box x ↔ a.Lists box x := by
  unfold Lists
  rw [get?_vacate hl]
  split_ifs with hb
  · subst hb
    rw [hl]
    simp [h]
  · exact Iff.rfl

/-- Everything but `id` is listed where it was after `id` was unlisted once. -/
theorem Lists.unlist (h : a.Lists u x) (hne : x ≠ id) : (a.modify box (unlist id)).Lists u x := by
  obtain ⟨bag, hb, hx⟩ := h
  by_cases hu : u = box
  · subst hu
    exact ⟨_, get?_modify_self hb _, (List.mem_erase_of_ne hne).mpr hx⟩
  · exact ⟨bag, (get?_modify_of_ne hu _).trans hb, hx⟩

theorem lists_of_unlist (h : (a.modify box (unlist id)).Lists u x) : a.Lists u x := by
  obtain ⟨bag, hb, hx⟩ := h
  rw [get?_modify] at hb
  split_ifs at hb with hu
  · obtain ⟨old, ho, rfl⟩ := Option.map_eq_some_iff.mp hb
    exact ⟨old, hu ▸ ho, List.mem_of_mem_erase hx⟩
  · exact ⟨bag, hb, hx⟩

theorem Lists.enlist (h : a.Lists u x) : (a.modify box (enlist id)).Lists u x := by
  obtain ⟨bag, hb, hx⟩ := h
  by_cases hu : u = box
  · subst hu
    exact ⟨_, get?_modify_self hb _, List.mem_append_left _ hx⟩
  · exact ⟨bag, (get?_modify_of_ne hu _).trans hb, hx⟩

theorem lists_of_enlist (h : (a.modify box (enlist id)).Lists u x) : a.Lists u x ∨ u = box ∧ x = id := by
  obtain ⟨bag, hb, hx⟩ := h
  rw [get?_modify] at hb
  split_ifs at hb with hu
  · obtain ⟨old, ho, rfl⟩ := Option.map_eq_some_iff.mp hb
    rcases List.mem_append.mp hx with hx | hx
    · exact .inl ⟨old, hu ▸ ho, hx⟩
    · exact .inr ⟨hu, List.mem_singleton.mp hx⟩
  · exact .inl ⟨bag, hb, hx⟩

theorem lists_enlist_self (h : a.get? box = some item) : (a.modify box (enlist id)).Lists box id :=
  ⟨_, get?_modify_self h _, List.mem_append_right _ List.mem_cons_self⟩

/-! ## Live ids -/

/-- The ids of all items. -/
def ids (a : Arena) : List ItemId :=
  a.cells.zipIdx.filterMap fun e => match e.1 with
    | .occupied g _ => some ⟨e.2, g⟩
    | .vacant _ => none

theorem length_ids_le (a : Arena) : a.ids.length ≤ a.cells.length :=
  (List.length_filterMap_le _ _).trans (by rw [List.length_zipIdx])

theorem mem_ids_of_get? (h : a.get? id = some item) : id ∈ a.ids := by
  rw [get?_eq_some_iff] at h
  refine List.mem_filterMap.mpr ⟨(.occupied id.generation item, id.index), ?_, rfl⟩
  exact List.mem_zipIdx_iff_getElem?.mpr h

theorem card_ids_le (a : Arena) : a.ids.toFinset.card ≤ a.cells.length :=
  (List.toFinset_card_le a.ids).trans (length_ids_le a)

/-! ## Ways down -/

/-- A way down that leaves only from the items of `s`. -/
def Path (a : Arena) (s : Finset ItemId) : ItemId → ItemId → Prop :=
  Relation.ReflTransGen fun u v => u ∈ s ∧ a.Lists u v

theorem Reaches.path (h : a.Reaches root x) : Path a a.ids.toFinset root x :=
  Relation.ReflTransGen.mono (fun u v huv => by
    obtain ⟨bag, hb, hv⟩ := huv
    exact ⟨List.mem_toFinset.mpr (mem_ids_of_get? hb), bag, hb, hv⟩) _ _ h

/-- Any way down either avoids leaving from `x`, or leaves from it for a last time. -/
private theorem path_or_departure {s : Finset ItemId} {u y : ItemId} (x : ItemId)
    (h : Path a s u y) :
    Path a (s.erase x) u y ∨ ∃ c, x ∈ s ∧ a.Lists x c ∧ Path a (s.erase x) c y := by
  induction h using Relation.ReflTransGen.head_induction_on with
  | refl => exact Or.inl Relation.ReflTransGen.refl
  | @head u v huv _ ih =>
    rcases ih with hv | hv
    · by_cases hu : u = x
      · subst hu
        exact Or.inr ⟨v, huv.1, huv.2, hv⟩
      · exact Or.inl (Relation.ReflTransGen.head ⟨Finset.mem_erase.mpr ⟨hu, huv.1⟩, huv.2⟩ hv)
    · exact Or.inr hv

/-- A way down from `root` to another item goes through a child of `root` and never comes back. -/
theorem Path.exists_child {s : Finset ItemId} (h : Path a s root x) (hne : x ≠ root) :
    ∃ c, root ∈ s ∧ a.Lists root c ∧ Path a (s.erase root) c x := by
  rcases path_or_departure root h with h | h
  · rcases Relation.ReflTransGen.cases_head h with heq | ⟨c, hc, -⟩
    · exact absurd heq.symm hne
    · exact absurd rfl (Finset.mem_erase.mp hc.1).1
  · exact h

theorem card_erase_le {s : Finset ItemId} {n : Nat} (hs : s.card ≤ n + 1) (hr : root ∈ s) :
    (s.erase root).card ≤ n := by
  rw [Finset.card_erase_of_mem hr]; omega

/-! ## The searches -/

theorem reaches_of_isWithinDepth :
    ∀ {n : Nat} {root : ItemId}, isWithinDepth n a root x = true → a.Reaches root x
  | 0, root, h => by
    rw [isWithinDepth, decide_eq_true_eq] at h
    rw [h]; exact Reaches.refl a x
  | n + 1, root, h => by
    simp only [isWithinDepth, Bool.or_eq_true, decide_eq_true_eq, Option.any_eq_true,
      List.any_eq_true] at h
    obtain rfl | ⟨bag, hb, c, hc, h⟩ := h
    · exact Reaches.refl a root
    · exact Relation.ReflTransGen.head ⟨bag, hb, hc⟩ (reaches_of_isWithinDepth h)

theorem isWithinDepth_of_path :
    ∀ {n : Nat} {s : Finset ItemId} {root : ItemId}, s.card ≤ n → Path a s root x →
      isWithinDepth n a root x = true
  | 0, s, root, hs, h => by
    by_cases hx : x = root
    · simp [isWithinDepth, hx]
    · obtain ⟨c, hr, -, -⟩ := h.exists_child hx
      exact absurd (Finset.card_pos.mpr ⟨root, hr⟩) (by omega)
  | n + 1, s, root, hs, h => by
    simp only [isWithinDepth, Bool.or_eq_true, decide_eq_true_eq, Option.any_eq_true,
      List.any_eq_true]
    by_cases hx : x = root
    · exact Or.inl hx.symm
    · obtain ⟨c, hr, ⟨bag, hb, hc⟩, hp⟩ := h.exists_child hx
      exact Or.inr ⟨bag, hb, c, hc, isWithinDepth_of_path (card_erase_le hs hr) hp⟩

/-- The search for an item inside another one finds it exactly if it is there. -/
theorem isWithin_iff : a.isWithin root x = true ↔ a.Reaches root x :=
  ⟨reaches_of_isWithinDepth, fun h => isWithinDepth_of_path (card_ids_le a) h.path⟩

theorem exists_of_detachDepth_eq :
    ∀ {n : Nat} {root : ItemId}, detachDepth n a root x = some b →
      ∃ box, a.Reaches root box ∧ a.Lists box x ∧ b = a.modify box (unlist x)
  | 0, root, h => by simp [detachDepth] at h
  | n + 1, root, h => by
    unfold detachDepth at h
    split at h
    · simp at h
    · rename_i bag hb
      split_ifs at h with hx
      · exact ⟨root, Reaches.refl a root, ⟨bag, hb, hx⟩, (Option.some.inj h).symm⟩
      · obtain ⟨c, hc, h⟩ := List.exists_of_findSome?_eq_some h
        obtain ⟨box, h1, h2, h3⟩ := exists_of_detachDepth_eq h
        exact ⟨box, Relation.ReflTransGen.head ⟨bag, hb, hc⟩ h1, h2, h3⟩

theorem isSome_detachDepth_of_path :
    ∀ {n : Nat} {s : Finset ItemId} {root : ItemId}, s.card ≤ n → Path a s root box → box ∈ s →
      a.Lists box x → (detachDepth n a root x).isSome
  | 0, s, root, hs, _, hbox, _ => absurd (Finset.card_pos.mpr ⟨box, hbox⟩) (by omega)
  | n + 1, s, root, hs, h, hbox, hl => by
    by_cases hr : box = root
    · subst hr
      obtain ⟨bag, hb, hx⟩ := hl
      simp [detachDepth, hb, hx]
    · obtain ⟨c, hrs, ⟨bag, hb, hc⟩, hp⟩ := h.exists_child hr
      have ih := isSome_detachDepth_of_path (card_erase_le hs hrs) hp
        (Finset.mem_erase.mpr ⟨hr, hbox⟩) hl
      unfold detachDepth
      rw [hb]
      simp only
      split_ifs with hx
      · rfl
      · exact List.findSome?_isSome_iff.mpr ⟨c, hc, ih⟩

/-- Taking an item out of what lists it inside `root` drops one listing. -/
theorem exists_of_detach?_eq (h : a.detach? root x = some b) :
    ∃ box, a.Reaches root box ∧ a.Lists box x ∧ b = a.modify box (unlist x) :=
  exists_of_detachDepth_eq h

/-- The search for a container that lists an item finds one exactly if there is one. -/
theorem detach?_isSome_iff :
    (a.detach? root x).isSome ↔ ∃ box, a.Reaches root box ∧ a.Lists box x := by
  constructor
  · intro h
    obtain ⟨b, hb⟩ := Option.isSome_iff_exists.mp h
    obtain ⟨box, h1, h2, -⟩ := exists_of_detach?_eq hb
    exact ⟨box, h1, h2⟩
  · rintro ⟨box, h1, bag, hb, hx⟩
    exact isSome_detachDepth_of_path (card_ids_le a) h1.path
      (List.mem_toFinset.mpr (mem_ids_of_get? hb)) ⟨bag, hb, hx⟩

end Adventurer.Arena
