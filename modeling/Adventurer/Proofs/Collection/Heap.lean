import Adventurer.Collection.Heap
import Mathlib.Order.Basic

/-!
# Heap order

A heap is ordered if no key lies below a larger one.  Pushing and popping keep the order, so the top key
of a heap that was built by them is a least one (`Ordered.isLE_of_top?`).
-/

namespace Adventurer.Heap

variable {κ : Type} [Ord κ] {a b h : Heap κ} {key top x : κ}

/-- No key lies below a larger one. -/
def Ordered : Heap κ → Prop
  | empty => True
  | node _ top left right =>
    (∀ key ∈ left.toList ++ right.toList, (compare top key).isLE) ∧ left.Ordered ∧ right.Ordered

theorem ordered_join (htop : ∀ key ∈ a.toList ++ b.toList, (compare top key).isLE) (ha : a.Ordered)
    (hb : b.Ordered) : (join top a b).Ordered := by
  unfold join
  split
  · exact ⟨htop, ha, hb⟩
  · refine ⟨fun key hk => htop key ?_, hb, ha⟩
    exact List.perm_append_comm.mem_iff.mp hk

theorem mem_toList_merge : key ∈ (merge a b).toList ↔ key ∈ a.toList ∨ key ∈ b.toList := by
  rw [(toList_merge a b).mem_iff, List.mem_append]

theorem mem_toList_push : x ∈ (h.push key).toList ↔ x = key ∨ x ∈ h.toList := by
  rw [(toList_push h key).mem_iff, List.mem_cons]

theorem mem_toList_pop (ht : h.top? = some top) : x ∈ h.toList ↔ x = top ∨ x ∈ h.pop.toList := by
  rw [(toList_pop ht).mem_iff, List.mem_cons]

/-- A heap goes below a smaller top together with one side of it. -/
theorem ordered_join_of_node {r : Nat} {left right other merged : Heap κ}
    (ho : (node r top left right).Ordered) (hother : ∀ key ∈ other.toList, (compare top key).isLE)
    (hmem : ∀ key ∈ merged.toList, key ∈ right.toList ∨ key ∈ other.toList) (hm : merged.Ordered) :
    (join top left merged).Ordered := by
  refine ordered_join (fun key hk => ?_) ho.2.1 hm
  rcases List.mem_append.mp hk with hk | hk
  · exact ho.1 key (List.mem_append_left _ hk)
  · rcases hmem key hk with hk | hk
    · exact ho.1 key (List.mem_append_right _ hk)
    · exact hother key hk

section Laws

variable [Std.TransOrd κ]

/-- What is not above the top of an ordered heap is not above any of its keys. -/
theorem isLE_of_node {r : Nat} {left right : Heap κ} (hx : (compare x top).isLE)
    (ho : (node r top left right).Ordered) :
    ∀ key ∈ (node r top left right).toList, (compare x key).isLE := by
  intro key hk
  rcases List.mem_cons.mp hk with rfl | hk
  · exact hx
  · exact Std.TransCmp.isLE_trans hx (ho.1 key hk)

theorem ordered_merge (a b : Heap κ) (ha : a.Ordered) (hb : b.Ordered) : (merge a b).Ordered := by
  fun_induction merge a b with
  | case1 b => exact hb
  | case2 a => exact ha
  | case3 r x left right s y left' right' hlt ih =>
    have hle : (compare y x).isLE := by rw [hlt]; rfl
    exact ordered_join_of_node hb (isLE_of_node hle ha) (fun _ hk => (mem_toList_merge.mp hk).symm)
      (ih ha hb.2.2)
  | case4 r x left right s y left' right' hlt ih =>
    have hle : (compare x y).isLE := by
      rw [Std.OrientedOrd.eq_swap, Ordering.isLE_swap]
      cases hc : compare y x <;> simp_all
    exact ordered_join_of_node ha (isLE_of_node hle hb) (fun _ hk => mem_toList_merge.mp hk)
      (ih ha.2.2 hb)

theorem Ordered.push (ho : h.Ordered) (key : κ) : (h.push key).Ordered :=
  ordered_merge h _ ho ⟨fun _ hk => by simp [toList] at hk, trivial, trivial⟩

theorem Ordered.pop (ho : h.Ordered) : h.pop.Ordered := by
  cases h with
  | empty => trivial
  | node r top left right => exact ordered_merge left right ho.2.1 ho.2.2

/-- The top key is a least one. -/
theorem Ordered.isLE_of_top? (ho : h.Ordered) (ht : h.top? = some top) (hk : key ∈ h.toList) :
    (compare top key).isLE := by
  cases h with
  | empty => simp [top?] at ht
  | node r first left right =>
    obtain rfl := Option.some.inj ht
    exact isLE_of_node (by rw [Std.ReflOrd.compare_self]; rfl) ho key hk

end Laws

end Adventurer.Heap
