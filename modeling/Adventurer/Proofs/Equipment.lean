import Adventurer.Item.Equipment
import Mathlib.Order.Nat
import Mathlib.Tactic.SplitIfs

/-!
# Worn items

Which ids are worn, how often, and in which slot one is found first.  Filling or emptying a slot
changes the count of an id by what was in the slot and what is now.
-/

namespace Adventurer

theorem Slot.nodup_all : Slot.all.Nodup := by decide

theorem Slot.mem_all (slot : Slot) : slot ∈ Slot.all := Enumerated.mem_all slot

namespace Equipment

variable {e : Equipment} {id : ItemId} {slot : Slot}

theorem mem_items : id ∈ e.items ↔ ∃ slot, e.get slot = some id := by
  simp only [items, List.mem_filterMap, Slot.mem_all, true_and]

/-- The worn items counted slot by slot. -/
theorem count_items (e : Equipment) (id : ItemId) :
    e.items.count id = Slot.all.countP fun slot => e.get slot = some id := by
  unfold items
  rw [List.count, List.countP_filterMap]
  refine List.countP_congr fun slot _ => ?_
  cases e.get slot <;> simp

/-- Two tests that differ at one slot only count alike but for that slot. -/
private theorem countP_except {p q : Slot → Bool} {slot : Slot} (h : ∀ t, t ≠ slot → p t = q t) :
    ∀ {l : List Slot}, l.Nodup → slot ∈ l →
      l.countP p + (q slot).toNat = l.countP q + (p slot).toNat
  | [], _, hm => absurd hm List.not_mem_nil
  | t :: l, hn, hm => by
    rw [List.nodup_cons] at hn
    simp only [List.countP_cons]
    by_cases ht : t = slot
    · subst ht
      have hl : l.countP p = l.countP q :=
        List.countP_congr fun u hu => by rw [h u (fun he => hn.1 (he ▸ hu))]
      rw [hl]
      cases p t <;> cases q t <;> simp
    · have hl : slot ∈ l := (List.mem_cons.mp hm).resolve_left (Ne.symm ht)
      have ih := countP_except h hn.2 hl
      rw [h t ht]
      omega

/-- Two outfits that differ in one slot only wear an id equally often but for that slot. -/
theorem count_items_except (e e' : Equipment) (slot : Slot) (h : ∀ t, t ≠ slot → e'.get t = e.get t)
    (id : ItemId) :
    e'.items.count id + (if e.get slot = some id then 1 else 0) =
      e.items.count id + (if e'.get slot = some id then 1 else 0) := by
  have key := countP_except (p := fun t => decide (e'.get t = some id))
    (q := fun t => decide (e.get t = some id)) (fun t ht => by rw [h t ht]) Slot.nodup_all
    (Slot.mem_all slot)
  rw [count_items, count_items]
  by_cases h1 : e.get slot = some id <;> by_cases h2 : e'.get slot = some id <;>
    simpa [h1, h2] using key

/-- The same told of the lists of what is worn. -/
theorem perm_items_except (e e' : Equipment) (slot : Slot) (h : ∀ t, t ≠ slot → e'.get t = e.get t) :
    (e'.items ++ (e.get slot).toList).Perm (e.items ++ (e'.get slot).toList) := by
  have hcount : ∀ (worn : Option ItemId) (id : ItemId),
      worn.toList.count id = if worn = some id then 1 else 0 := fun worn id => by
    cases worn with
    | none => rfl
    | some other => simp [List.count_singleton]
  refine List.perm_iff_count.mpr fun id => ?_
  rw [List.count_append, List.count_append, hcount, hcount]
  exact count_items_except e e' slot h id

theorem count_items_clear (e : Equipment) (slot : Slot) (id : ItemId) :
    (e.clear slot).items.count id + (if e.get slot = some id then 1 else 0) = e.items.count id := by
  have key := count_items_except e (e.clear slot) slot
    (fun t ht => by rw [get_clear, if_neg (Ne.symm ht)]) id
  rw [get_clear, if_pos rfl] at key
  simpa using key

theorem count_items_wear (e : Equipment) (slot : Slot) (new id : ItemId) :
    (e.wear slot new).items.count id + (if e.get slot = some id then 1 else 0) =
      e.items.count id + (if new = id then 1 else 0) := by
  have key := count_items_except e (e.wear slot new) slot
    (fun t ht => by rw [get_wear, if_neg (Ne.symm ht)]) id
  rw [get_wear, if_pos rfl] at key
  simpa only [Option.some.injEq] using key

theorem count_items_pos_iff : 0 < e.items.count id ↔ ∃ slot, e.get slot = some id :=
  List.count_pos_iff.trans mem_items

/-- What is worn in two slots is worn twice. -/
theorem two_le_count_items {other : Slot} (h : e.get slot = some id) (ho : e.get other = some id)
    (hne : other ≠ slot) : 2 ≤ e.items.count id := by
  have hclear := count_items_clear e slot id
  have hleft : (e.clear slot).get other = some id := by
    rw [get_clear, if_neg (Ne.symm hne)]
    exact ho
  have hpos := count_items_pos_iff.mpr ⟨other, hleft⟩
  rw [if_pos h] at hclear
  omega

theorem get_of_slotOf (h : e.slotOf id = some slot) : e.get slot = some id := by
  have := List.find?_some h
  exact of_decide_eq_true this

theorem slotOf_eq_none (h : ∀ slot, e.get slot ≠ some id) : e.slotOf id = none := by
  cases hs : e.slotOf id with
  | none => rfl
  | some slot => exact absurd (get_of_slotOf hs) (h slot)

theorem get_ne_of_slotOf_eq_none (h : e.slotOf id = none) (slot : Slot) : e.get slot ≠ some id := by
  have := List.find?_eq_none.mp h slot (Slot.mem_all slot)
  exact fun hg => this (decide_eq_true hg)

end Equipment

end Adventurer
