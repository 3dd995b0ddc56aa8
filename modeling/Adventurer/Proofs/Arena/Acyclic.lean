import Adventurer.Item.Weight
import Adventurer.Proofs.Arena.Removal
import Mathlib.Order.WellFoundedSet

/-!
# Arenas without cycles

In an acyclic arena no item lies inside itself, so every way down ends, and so does every way up.  The
recursions below an item are cut off at the number of cells; on what is `Grounded` this is never noticed,
since a way down visits each live item once (`Grounded.recursion_eq`).

Storing an item, changing it in place and removing it draw no way to an item but the one that `enlist`
draws, so that a cycle can only come from putting a container into what is inside it.
-/

namespace Adventurer.Arena

variable {a b : Arena} {root box u v x id : ItemId} {item : Item}

/-- Every way down from the item ends. -/
def Grounded (a : Arena) : ItemId → Prop := Acc fun x box => a.Lists box x

/-- No item lies inside itself. -/
def Acyclic (a : Arena) : Prop := ∀ x, ¬ Relation.TransGen a.Lists x x

theorem acyclic_empty : empty.Acyclic := fun x h => by
  obtain ⟨u, ⟨bag, hb, -⟩, -⟩ := Relation.TransGen.head'_iff.mp h
  simp [get?, empty] at hb

theorem Acyclic.of_lists (h : a.Acyclic) (hl : ∀ u v, b.Lists u v → a.Lists u v) : b.Acyclic :=
  fun x hx => h x (Relation.TransGen.mono (fun u v => hl u v) x x hx)

/-- Where whatever is listed lies in an earlier cell there is no cycle. -/
theorem acyclic_of_index_lt (h : ∀ u v, a.Lists u v → v.index < u.index) : a.Acyclic := by
  have hways : ∀ {u v}, Relation.TransGen a.Lists u v → v.index < u.index := by
    intro u v huv
    induction huv with
    | single hl => exact h _ _ hl
    | tail _ hl ih => exact (h _ _ hl).trans ih
  exact fun x hx => Nat.lt_irrefl _ (hways hx)

/-- What an item lists does not lead back to it. -/
theorem Acyclic.not_reaches (h : a.Acyclic) (hl : a.Lists box x) : ¬ a.Reaches x box :=
  fun hr => h box (Relation.TransGen.head' hl hr)

theorem Grounded.not_reaches (h : a.Grounded box) : ∀ {x}, a.Lists box x → ¬ a.Reaches x box := by
  induction h with
  | intro box _ ih =>
    intro x hl hr
    rcases Relation.ReflTransGen.cases_head hr with rfl | ⟨c, hc, hrest⟩
    · exact ih x hl hl (Reaches.refl a x)
    · exact ih x hl hc (hrest.tail hl)

theorem Grounded.of_lists (h : a.Grounded box) (hl : a.Lists box x) : a.Grounded x := h.inv hl

/-! ## Ways end -/

/-- A relation without cycles that leaves only from finitely many things has no endless chain, in either
direction. -/
theorem wellFounded_of_no_cycle {α : Type} {r : α → α → Prop} (hr : ∀ x, ¬ Relation.TransGen r x x)
    {s : Set α} (hfinite : s.Finite) (hs : ∀ u v, r u v → u ∈ s) :
    WellFounded r ∧ WellFounded (flip r) := by
  have hup : s.WellFoundedOn (Relation.TransGen r) :=
    letI : IsStrictOrder α (Relation.TransGen r) :=
      { irrefl := hr, trans := fun _ _ _ => Relation.TransGen.trans }
    hfinite.wellFoundedOn
  have hdown : s.WellFoundedOn (flip (Relation.TransGen r)) :=
    letI : IsStrictOrder α (flip (Relation.TransGen r)) :=
      { irrefl := hr, trans := fun _ _ _ h h' => Relation.TransGen.trans h' h }
    hfinite.wellFoundedOn
  constructor
  · have hacc : ∀ u ∈ s, Acc r u := fun u hu =>
      hup.induction hu fun v _ ih => Acc.intro v fun t ht => ih t (hs t v ht) (.single ht)
    exact ⟨fun v => Acc.intro v fun u hu => hacc u (hs u v hu)⟩
  · have hacc : ∀ u ∈ s, Acc (flip r) u := fun u hu =>
      hdown.induction hu fun v _ ih => Acc.intro v fun t ht => by
        by_cases hts : t ∈ s
        · exact ih t hts (.single ht)
        · exact Acc.intro t fun w hw => absurd (hs t w hw) hts
    refine ⟨fun v => ?_⟩
    by_cases hv : v ∈ s
    · exact hacc v hv
    · exact Acc.intro v fun w hw => absurd (hs v w hw) hv

theorem Acyclic.wellFounded (h : a.Acyclic) :
    WellFounded a.Lists ∧ WellFounded fun x box => a.Lists box x :=
  wellFounded_of_no_cycle h a.ids.toFinset.finite_toSet fun _ _ ⟨_, hb, _⟩ =>
    List.mem_toFinset.mpr (mem_ids_of_get? hb)

theorem Acyclic.grounded (h : a.Acyclic) (id : ItemId) : a.Grounded id := h.wellFounded.2.apply id

/-! ## Recursions below an item -/

/-- No live item lies `n` or more steps below the item. -/
def Shallow (a : Arena) : Nat → ItemId → Prop
  | 0, id => a.get? id = none
  | n + 1, id => ∀ item, a.get? id = some item → ∀ c ∈ item.contents, a.Shallow n c

private theorem shallow_of_card : ∀ {n : Nat} {s : Finset ItemId} {root : ItemId}, s.card ≤ n →
    (∀ u item, a.Reaches root u → a.get? u = some item → u ∈ s) → a.Grounded root → a.Shallow n root
  | 0, s, root, hs, hin, _ => by
    cases hl : a.get? root with
    | none => exact hl
    | some item =>
      have := Finset.card_pos.mpr ⟨root, hin root item (Reaches.refl a root) hl⟩
      omega
  | n + 1, s, root, hs, hin, hg => fun item hl c hc => by
    have hlist : a.Lists root c := ⟨item, hl, hc⟩
    have hroot := hin root item (Reaches.refl a root) hl
    refine shallow_of_card (card_erase_le hs hroot) (fun u held hr hu => ?_) (hg.of_lists hlist)
    refine Finset.mem_erase.mpr ⟨fun he => hg.not_reaches hlist (he ▸ hr), ?_⟩
    exact hin u held (Relation.ReflTransGen.head hlist hr) hu

/-- What is grounded goes no deeper than there are cells. -/
theorem Grounded.shallow (h : a.Grounded id) : a.Shallow a.cells.length id :=
  shallow_of_card (card_ids_le a) (fun _ _ _ hu => List.mem_toFinset.mpr (mem_ids_of_get? hu)) h

section Recursion

variable {β : Type} {f : Nat → ItemId → β} (hdead : ∀ m n id, a.get? id = none → f m id = f n id)
  (hstep : ∀ m n id item, a.get? id = some item → (∀ c ∈ item.contents, f m c = f n c) →
    f (m + 1) id = f (n + 1) id)
include hdead hstep

/-- A recursion from boxes to what they list does not notice a bound that is deep enough. -/
theorem Shallow.recursion_eq : ∀ {n m : Nat} {id : ItemId}, a.Shallow n id → n ≤ m → f m id = f n id
  | 0, m, id, h, _ => hdead m 0 id h
  | n + 1, 0, _, _, hle => absurd hle (by omega)
  | n + 1, m + 1, id, h, hle => by
    cases hl : a.get? id with
    | none => exact hdead _ _ id hl
    | some item =>
      exact hstep m n id item hl fun c hc => Shallow.recursion_eq (h item hl c hc) (by omega)

theorem Grounded.recursion_eq (h : a.Grounded id) {m : Nat} (hm : a.cells.length ≤ m) :
    f m id = f a.cells.length id :=
  h.shallow.recursion_eq hdead hstep hm

end Recursion

/-! ## The searches and the weight -/

theorem weightDepth_dead {types : ItemLookup} (h : a.get? id = none) (n : Nat) :
    weightDepth types n a id = 0 := by
  cases n with
  | zero => rfl
  | succ n => rw [weightDepth, h]

theorem Grounded.weightDepth_eq (h : a.Grounded id) (types : ItemLookup) {depth : Nat}
    (hd : a.cells.length ≤ depth) : weightDepth types depth a id = a.totalWeight types id := by
  refine h.recursion_eq (f := fun n id => weightDepth types n a id) ?_ ?_ hd
  · intro m n id hl
    rw [weightDepth_dead hl, weightDepth_dead hl]
  · intro m n id item hl hsame
    simp only [weightDepth, hl]
    cases types item.type with
    | none => rfl
    | some type => exact List.foldl_ext _ _ _ fun sum c hc => by rw [hsame c hc]

theorem Grounded.isWithinDepth_eq (h : a.Grounded root) (x : ItemId) {depth : Nat}
    (hd : a.cells.length ≤ depth) : isWithinDepth depth a root x = a.isWithin root x := by
  refine h.recursion_eq (f := fun n root => isWithinDepth n a root x) ?_ ?_ hd
  · intro m n root hl
    cases m <;> cases n <;> simp [isWithinDepth, hl]
  · intro m n root item hl hsame
    simp only [isWithinDepth, hl, Option.any_some]
    have hany := congrArg (·.any id) (List.map_congr_left hsame)
    simp only [List.any_map, Function.id_comp] at hany
    rw [hany]

theorem Grounded.detachDepth_eq (h : a.Grounded root) (x : ItemId) {depth : Nat}
    (hd : a.cells.length ≤ depth) : detachDepth depth a root x = a.detach? root x := by
  refine h.recursion_eq (f := fun n root => detachDepth n a root x) ?_ ?_ hd
  · intro m n root hl
    cases m <;> cases n <;> simp [detachDepth, hl]
  · intro m n root item hl hsame
    simp only [detachDepth, hl]
    have hfind := congrArg (·.findSome? id) (List.map_congr_left hsame)
    simp only [List.findSome?_map, Function.id_comp] at hfind
    rw [hfind]

/-! ## Putting an item into a container -/

/-- Putting an item into a container closes a cycle only if the container lies inside the item. -/
theorem Acyclic.enlist (h : a.Acyclic) (hout : ¬ a.Reaches x box) :
    (a.modify box (enlist x)).Acyclic := by
  -- each way that is not an old one uses the new step, for a last time
  have hways : ∀ u v, Relation.TransGen (a.modify box (Arena.enlist x)).Lists u v →
      Relation.TransGen a.Lists u v ∨ a.Reaches u box ∧ a.Reaches x v := by
    intro u v huv
    induction huv with
    | single hl =>
      rcases lists_of_enlist hl with hl | ⟨rfl, rfl⟩
      · exact .inl (.single hl)
      · exact .inr ⟨Reaches.refl a _, Reaches.refl a _⟩
    | tail _ hl ih =>
      rcases lists_of_enlist hl with hl | ⟨rfl, rfl⟩
      · exact ih.imp (·.tail hl) fun ⟨hu, hx⟩ => ⟨hu, hx.tail hl⟩
      · exact .inr ⟨ih.elim (·.to_reflTransGen) (·.1), Reaches.refl a _⟩
  intro y hy
  rcases hways y y hy with hold | ⟨hbox, hitem⟩
  · exact h y hold
  · exact hout (hitem.trans hbox)

end Adventurer.Arena
