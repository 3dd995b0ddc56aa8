import Adventurer.Proofs.Arena.Acyclic
import Mathlib.Algebra.BigOperators.Ring.List
import Mathlib.Algebra.Order.BigOperators.Group.List
import Mathlib.Algebra.Order.Ring.Nat

/-!
# Loads

`a.load f id` adds `f` up over an item and everything inside it, each as often as there are ways down to
it; `a.ways root x` is the number of these ways.  In an acyclic arena the load of an item is `f` of it
together with the loads of what it lists, and only the load has this property (`Acyclic.eq_load`).  So a
change of one item that makes it heavier by `k` makes every load heavier by `k` for each way to that item
(`Acyclic.load_eq_add`).

The weight of an item is a load up to the end of its width (`Acyclic.min_totalWeight`).
-/

namespace Adventurer

namespace Arena

variable {a b : Arena} {f g : ItemId → Item → Nat} {root box x y id : ItemId} {item old new : Item}
  {k : Nat}

/-- The sum of `f` over an item and, up to a depth, what is inside it. -/
def loadDepth (f : ItemId → Item → Nat) : Nat → Arena → ItemId → Nat
  | 0, _, _ => 0
  | depth + 1, a, id =>
    match a.get? id with
    | none => 0
    | some item => f id item + (item.contents.map (loadDepth f depth a)).sum

/-- The sum of `f` over an item and everything inside it. -/
def load (a : Arena) (f : ItemId → Item → Nat) (id : ItemId) : Nat := loadDepth f a.cells.length a id

/-- The number of ways down from `root` to `x`. -/
def ways (a : Arena) (root x : ItemId) : Nat := a.load (fun id _ => if id = x then 1 else 0) root

theorem sum_ite_eq_count (x : ItemId) (l : List ItemId) :
    (l.map fun c => if c = x then 1 else 0).sum = l.count x := by
  induction l with
  | nil => rfl
  | cons c l ih =>
    rw [List.map_cons, List.sum_cons, ih, List.count_cons, Nat.add_comm]
    simp only [beq_iff_eq]

theorem load_dead (h : a.get? id = none) : a.load f id = 0 := by
  unfold load
  cases a.cells.length with
  | zero => rfl
  | succ n => rw [loadDepth, h]

namespace Acyclic

variable (h : a.Acyclic)
include h

theorem load_eq (hl : a.get? id = some item) :
    a.load f id = f id item + (item.contents.map (a.load f)).sum := by
  have hdeeper : loadDepth f (a.cells.length + 1) a id = a.load f id := by
    refine (h.grounded id).recursion_eq (f := fun n id => loadDepth f n a id) ?_ ?_ (Nat.le_succ _)
    · intro m n id hd
      cases m <;> cases n <;> simp [loadDepth, hd]
    · intro m n id item hl hsame
      simp only [loadDepth, hl]
      rw [List.map_congr_left hsame]
  rw [← hdeeper, loadDepth, hl]
  rfl

/-- What adds up like the load is the load. -/
theorem eq_load {s : ItemId → Nat} (hdead : ∀ id, a.get? id = none → s id = 0)
    (hstep : ∀ id item, a.get? id = some item → s id = f id item + (item.contents.map s).sum)
    (id : ItemId) : s id = a.load f id := by
  induction h.grounded id with
  | intro id _ ih =>
    cases hl : a.get? id with
    | none => rw [hdead id hl, load_dead hl]
    | some item =>
      have hsame : ∀ c ∈ item.contents, s c = a.load f c := fun c hc => ih c ⟨item, hl, hc⟩
      rw [hstep id item hl, h.load_eq hl, List.map_congr_left hsame]

/-- What is the same at every item that is reached has the same load. -/
theorem load_congr (hb : b.Acyclic) (hsame : ∀ x, a.Reaches root x → b.get? x = a.get? x ∧
    ∀ item, a.get? x = some item → g x item = f x item) : b.load g root = a.load f root := by
  induction h.grounded root with
  | intro root _ ih =>
    obtain ⟨hroot, hf⟩ := hsame root (Reaches.refl a root)
    cases hl : a.get? root with
    | none => rw [load_dead hl, load_dead (hroot.trans hl)]
    | some item =>
      have hchildren : ∀ c ∈ item.contents, b.load g c = a.load f c := fun c hc =>
        ih c ⟨item, hl, hc⟩ fun x hx => hsame x (Relation.ReflTransGen.head ⟨item, hl, hc⟩ hx)
      rw [h.load_eq hl, hb.load_eq (hroot.trans hl), hf item hl, List.map_congr_left hchildren]

/-- Items that are gone or no heavier make no load heavier. -/
theorem load_le (hb : b.Acyclic) (hle : ∀ x new, b.get? x = some new →
    ∃ old, a.get? x = some old ∧ new.contents = old.contents ∧ f x new ≤ f x old) (root : ItemId) :
    b.load f root ≤ a.load f root := by
  induction h.grounded root with
  | intro root _ ih =>
    cases hl : b.get? root with
    | none => rw [load_dead hl]; exact Nat.zero_le _
    | some new =>
      obtain ⟨old, ho, hc, hf⟩ := hle root new hl
      rw [h.load_eq ho, hb.load_eq hl, hc]
      exact Nat.add_le_add hf (List.sum_le_sum fun c hc => ih c ⟨old, ho, hc⟩)

/-! ## Ways -/

theorem load_eq_zero (hz : ∀ x item, a.Reaches root x → a.get? x = some item → f x item = 0) :
    a.load f root = 0 := by
  induction h.grounded root with
  | intro root _ ih =>
    cases hl : a.get? root with
    | none => exact load_dead hl
    | some item =>
      have hchildren : ∀ c ∈ item.contents, a.load f c = 0 := fun c hc =>
        ih c ⟨item, hl, hc⟩ fun x held hx => hz x held (Relation.ReflTransGen.head ⟨item, hl, hc⟩ hx)
      rw [h.load_eq hl, hz root item (Reaches.refl a root) hl, List.map_congr_left hchildren]
      simp

theorem ways_eq_zero (hn : ¬ a.Reaches root x) : a.ways root x = 0 :=
  h.load_eq_zero fun y _ hy _ => if_neg fun he : y = x => hn (he ▸ hy)

theorem ways_self (hl : a.get? x = some item) : a.ways x x = 1 := by
  have hbelow : ∀ c ∈ item.contents, a.ways c x = 0 := fun c hc =>
    h.ways_eq_zero (h.not_reaches ⟨item, hl, hc⟩)
  have hsum : (item.contents.map fun c => a.ways c x).sum = 0 := by
    rw [List.map_congr_left hbelow]
    simp
  unfold ways at hsum ⊢
  rw [h.load_eq hl, if_pos rfl, hsum]

theorem one_le_ways (hr : a.Reaches root x) (hl : a.get? x = some item) : 1 ≤ a.ways root x := by
  induction hr using Relation.ReflTransGen.head_induction_on with
  | refl => exact (h.ways_self hl).ge
  | @head u v huv _ ih =>
    obtain ⟨bag, hb, hv⟩ := huv
    have hmem := List.le_sum_of_mem (List.mem_map_of_mem (f := fun c => a.ways c x) hv)
    have hsum : (bag.contents.map fun c => a.ways c x).sum ≤ a.ways u x := by
      unfold ways
      rw [h.load_eq hb]
      exact Nat.le_add_left _ _
    exact ih.trans (hmem.trans hsum)

/-- The ways to a live item are those on which something lists it, and the one to itself. -/
theorem ways_eq (hl : a.get? x = some item) (root : ItemId) :
    a.ways root x = (if root = x then 1 else 0) + a.load (fun _ bag => bag.contents.count x) root := by
  induction h.grounded root with
  | intro root _ ih =>
    cases hr : a.get? root with
    | none =>
      have hne : root ≠ x := fun he => by
        rw [he, hl] at hr
        cases hr
      unfold ways
      rw [load_dead hr, load_dead hr, if_neg hne]
    | some bag =>
      have hbelow : (bag.contents.map fun c => a.ways c x).sum = bag.contents.count x +
          (bag.contents.map (a.load fun _ bag => bag.contents.count x)).sum := by
        rw [List.map_congr_left fun c hc => ih c ⟨bag, hr, hc⟩, List.sum_map_add, sum_ite_eq_count]
      have hways : a.ways root x = (if root = x then 1 else 0) +
          (bag.contents.map fun c => a.ways c x).sum := h.load_eq hr
      rw [hways, hbelow, h.load_eq hr]

/-! ## Loads after a change -/

/-- A change of one item that makes it heavier by `k` makes every load heavier by `k` for each way to that
item. -/
theorem load_eq_add (hb : b.Acyclic) (hold : a.get? x = some old) (hnew : b.get? x = some new)
    (hother : ∀ y, y ≠ x → b.get? y = a.get? y) (hout : ∀ c ∈ new.contents, ¬ a.Reaches c x)
    (hk : f x new + (new.contents.map (a.load f)).sum =
      f x old + (old.contents.map (a.load f)).sum + k) (root : ItemId) :
    b.load f root = a.load f root + a.ways root x * k := by
  have hsum : ∀ contents : List ItemId, (contents.map fun c => a.load f c + a.ways c x * k).sum =
      (contents.map (a.load f)).sum + (contents.map fun c => a.ways c x).sum * k := fun contents => by
    rw [List.sum_map_add, List.sum_map_mul_right]
  symm
  refine hb.eq_load (s := fun root => a.load f root + a.ways root x * k) (fun id hd => ?_)
    (fun id item hl => ?_) root
  · by_cases hid : id = x
    · rw [hid, hnew] at hd
      cases hd
    · have hdead := (hother id hid).symm.trans hd
      unfold ways
      simp [load_dead hdead]
  · rw [hsum]
    by_cases hid : id = x
    · subst hid
      obtain rfl := Option.some.inj (hnew.symm.trans hl)
      have hzero : (new.contents.map fun c => a.ways c id).sum = 0 := by
        rw [List.map_congr_left fun c hc => h.ways_eq_zero (hout c hc)]
        simp
      rw [h.ways_self hold, hzero, h.load_eq hold]
      omega
    · have hitem := (hother id hid).symm.trans hl
      have hways : a.ways id x = (item.contents.map fun c => a.ways c x).sum := by
        unfold ways
        rw [h.load_eq hitem, if_neg hid, Nat.zero_add]
      rw [h.load_eq hitem, hways, Nat.add_assoc]

/-- A change that leaves contents alone. -/
theorem load_heavier (hb : b.Acyclic) (hold : a.get? x = some old) (hnew : b.get? x = some new)
    (hother : ∀ y, y ≠ x → b.get? y = a.get? y) (hc : new.contents = old.contents)
    (hk : f x new = f x old + k) (root : ItemId) :
    b.load f root = a.load f root + a.ways root x * k := by
  refine h.load_eq_add hb hold hnew hother (fun c hmem => h.not_reaches ⟨old, hold, hc ▸ hmem⟩) ?_ root
  rw [hc, hk]
  omega

theorem load_enlist (hl : a.get? box = some item) (hout : ¬ a.Reaches x box)
    (hf : ∀ item, f box (Arena.enlist x item) = f box item) (root : ItemId) :
    (a.modify box (Arena.enlist x)).load f root = a.load f root + a.ways root box * a.load f x := by
  refine h.load_eq_add (h.enlist hout) hl (get?_modify_self hl _) (fun y hy => get?_modify_of_ne hy _)
    ?_ ?_ root
  · intro c hc
    rcases List.mem_append.mp hc with hc | hc
    · exact h.not_reaches ⟨item, hl, hc⟩
    · rw [List.mem_singleton.mp hc]
      exact hout
  · rw [hf]
    simp only [Arena.enlist, List.map_append, List.map_singleton, List.sum_append, List.sum_singleton]
    omega

/-- Before it was unlisted, an item was in every load once more for each way to the container. -/
theorem load_unlist (hl : a.get? box = some item) (hx : x ∈ item.contents)
    (hf : ∀ item, f box (Arena.unlist x item) = f box item) (root : ItemId) :
    a.load f root = (a.modify box (Arena.unlist x)).load f root +
      (a.modify box (Arena.unlist x)).ways root box * (a.modify box (Arena.unlist x)).load f x := by
  have hb : (a.modify box (Arena.unlist x)).Acyclic := h.of_lists fun _ _ => lists_of_unlist
  refine hb.load_eq_add h (get?_modify_self hl _) hl (fun y hy => (get?_modify_of_ne hy _).symm) ?_ ?_ root
  · exact fun c hc hr => h.not_reaches ⟨item, hl, hc⟩ (hr.mono fun _ _ => lists_of_unlist)
  · have herase := List.sum_map_erase ((a.modify box (Arena.unlist x)).load f) hx
    rw [hf]
    simp only [Arena.unlist] at herase ⊢
    omega

end Acyclic

end Arena

/-! ## Weight -/

/-- The weight of an item alone, however large; nothing if its type is unknown. -/
def Item.heft (types : ItemLookup) (item : Item) : Nat :=
  (types item.type).elim 0 fun type => if type.stackable then type.weight * item.count else type.weight

/-- Sums that stop at a bound are told apart only below it. -/
theorem min_foldl_addUpTo {bound : Nat} {g s : ItemId → Nat} : ∀ {l : List ItemId} {m n : Nat},
    min bound m = min bound n → (∀ c ∈ l, min bound (g c) = min bound (s c)) →
    min bound (l.foldl (fun sum c => addUpTo bound sum (g c)) m) = min bound (n + (l.map s).sum)
  | [], m, n, hmn, _ => hmn
  | c :: l, m, n, hmn, hl => by
    have hc := hl c List.mem_cons_self
    have hnext : min bound (addUpTo bound m (g c)) = min bound (n + s c) := by
      unfold addUpTo
      omega
    have ih := min_foldl_addUpTo hnext fun c hc => hl c (List.mem_cons_of_mem _ hc)
    rw [List.foldl_cons, ih, List.map_cons, List.sum_cons, Nat.add_assoc]

theorem foldl_addUpTo_le {bound : Nat} {g : ItemId → Nat} : ∀ {l : List ItemId} {m : Nat}, m ≤ bound →
    l.foldl (fun sum c => addUpTo bound sum (g c)) m ≤ bound
  | [], _, h => h
  | c :: l, m, _ => by
    rw [List.foldl_cons]
    exact foldl_addUpTo_le (addUpTo_le bound m (g c))

/-- A weight is a load up to the end of its width. -/
theorem Arena.Acyclic.min_totalWeight {a : Arena} {types : ItemLookup} (h : a.Acyclic)
    (hknown : a.Every fun item => (types item.type).isSome) (id : ItemId) :
    min max32 (a.totalWeight types id) = min max32 (a.load (fun _ item => item.heft types) id) := by
  induction h.grounded id with
  | intro id _ ih =>
    have hdeeper := Grounded.weightDepth_eq (h.grounded id) types (Nat.le_succ a.cells.length)
    cases hl : a.get? id with
    | none =>
      rw [← hdeeper, load_dead hl, weightDepth_dead hl]
    | some item =>
      obtain ⟨type, htype⟩ := Option.isSome_iff_exists.mp (hknown id item hl)
      rw [← hdeeper, h.load_eq hl, weightDepth, hl]
      simp only [htype]
      refine min_foldl_addUpTo ?_ fun c hc => ih c ⟨item, hl, hc⟩
      simp only [Item.ownWeight, Item.heft, htype, Option.elim_some, mulUpTo]
      split_ifs <;> omega

end Adventurer
