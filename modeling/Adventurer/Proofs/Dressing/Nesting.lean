import Adventurer.Proofs.Arena.Acyclic
import Adventurer.Proofs.Dressing.Moves

/-!
# Containers in containers

A move never closes a cycle of containers: what is stored was kept out of the container that is searched
for it, at any depth, and a part of a stack holds nothing.  In an arena without cycles every search that the
rules make comes to its end before its bound is reached (`SearchesEnd`).
-/

namespace Adventurer

open Dressing

variable {σ : Type} {rules : Rules} {hook : EquipHook σ} {w : Wearer} {request : EquipRequest}
  {id box : ItemId} {source : Item} {type : ItemType} {count : Nat} {hand done : Wearer × ItemId}
  {p : Plan} {s : σ}

/-! ## Moves -/

namespace Wearer

theorem Taken.acyclic (ht : Taken w id source count hand) (h : w.arena.Acyclic) :
    hand.1.arena.Acyclic :=
  h.of_lists fun _ _ => ht.lists_of_lists

/-- A live item outside of an item is also outside of what is taken in hand. -/
theorem Taken.not_reaches (ht : Taken w id source count hand) {bag : Item}
    (hbox : w.arena.get? box = some bag) (hout : ¬ w.arena.Reaches id box) :
    ¬ hand.1.arena.Reaches hand.2 box := by
  intro hr
  cases hl : w.arena.get? hand.2 with
  | some item =>
    obtain ⟨hid, -⟩ := ht.whole_of_live hl
    rw [hid] at hr
    exact hout (hr.mono fun _ _ => ht.lists_of_lists)
  | none =>
    -- a part is new, so that it holds nothing and is not the live item
    have heq := hr.eq_of_not_lists fun c hc => by
      obtain ⟨held, hheld, -⟩ := ht.lists_of_lists hc
      exact absurd (hl.symm.trans hheld) (by simp)
    rw [heq, hl] at hbox
    exact absurd hbox (by simp)

theorem lists_of_joinStack {moved stack u c : ItemId}
    (h : (w.joinStack moved stack count).arena.Lists u c) : w.arena.Lists u c :=
  Arena.lists_of_remove ((Arena.lists_modify (Item.contents_grow count)).mp h)

theorem Landed.acyclic (hland : Landed rules w request.item source type count hand p done)
    (ht : Taken w request.item source count hand) (hp : Planned rules w request source type count p)
    (h : w.arena.Acyclic) : done.1.arena.Acyclic := by
  cases hland with
  | worn => exact ht.acyclic h
  | joined => exact (ht.acyclic h).of_lists fun _ _ => lists_of_joinStack
  | listed =>
    cases hp with
    | stow _ hbox hout =>
      obtain ⟨bag, hlive⟩ := exists_of_isContainer hbox
      exact (ht.acyclic h).enlist (ht.not_reaches hlive hout)

end Wearer

namespace Dressing

theorem acyclic_tryEquip (h : w.arena.Acyclic) :
    (tryEquip rules hook w request s).value.1.arena.Acyclic := by
  cases hres : (tryEquip rules hook w request s).value.2.2 with
  | error e =>
    obtain ⟨t, -, heq⟩ := tryEquip_of_error hres
    rw [heq]
    exact h
  | ok outcome =>
    obtain ⟨p, item, type, hand, done, -, -, hplanned, htaken, hlanded, ha, -⟩ :=
      exists_hand_of_tryEquip hres
    rw [ha]
    exact hlanded.acyclic htaken hplanned h

theorem acyclic_tryUnequip {slot : Slot} (h : w.arena.Acyclic) :
    (tryUnequip rules hook w slot count s).value.1.arena.Acyclic := by
  cases hres : (tryUnequip rules hook w slot count s).value.2.2 with
  | error e =>
    obtain ⟨t, -, heq⟩ := tryUnequip_of_error hres
    rw [heq]
    exact h
  | ok taken =>
    obtain ⟨id, item, hand, -, -, htaken, ha, -⟩ := exists_hand_of_tryUnequip hres
    rw [ha]
    exact htaken.acyclic h

/-! ## The container search -/

/-- The containers that the search comes to after those of a level. -/
def nextLevel (rules : Rules) (a : Arena) (id : ItemId) (level : List ItemId) : List ItemId :=
  (level.filter fun box => !a.isWithin id box).flatMap fun box =>
    ((a.get? box).elim [] (·.contents)).filter (isContainer rules a)

variable {a : Arena} {item : Item}

theorem searchContainers_nil : ∀ (depth : Nat) (first : Option ItemId),
    searchContainers rules a id item type depth [] first = first
  | 0, _ => rfl
  | depth + 1, first => by
    rw [searchContainers]
    simp only [List.filter_nil, List.head?_nil, Option.or_none, List.find?_nil, List.flatMap_nil]
    exact searchContainers_nil depth first

/-- Where no level is left, the search goes no deeper. -/
theorem searchContainers_eq : ∀ {n m : Nat} {level : List ItemId} (first : Option ItemId),
    (nextLevel rules a id)^[n] level = [] → n ≤ m →
    searchContainers rules a id item type m level first = searchContainers rules a id item type n level first
  | 0, m, level, first, h, _ => by
    obtain rfl : level = [] := h
    exact searchContainers_nil m first
  | n + 1, 0, _, _, _, hle => absurd hle (by omega)
  | n + 1, m + 1, level, first, h, hle => by
    rw [searchContainers, searchContainers]
    simp only
    split
    · rfl
    · exact searchContainers_eq _ h (by omega)

theorem mem_nextLevel {level : List ItemId} {c : ItemId} : c ∈ nextLevel rules a id level ↔
    isContainer rules a c = true ∧ ∃ box ∈ level, ¬ a.Reaches id box ∧ a.Lists box c := by
  have hlists : ∀ box, c ∈ (a.get? box).elim [] (·.contents) ↔ a.Lists box c := by
    intro box
    unfold Arena.Lists
    cases a.get? box <;> simp
  unfold nextLevel
  simp only [List.mem_flatMap, List.mem_filter, hlists, Bool.not_eq_true', ← Bool.not_eq_true,
    Arena.isWithin_iff]
  constructor
  · rintro ⟨box, ⟨hbox, hout⟩, hl, hc⟩
    exact ⟨hc, box, hbox, hout, hl⟩
  · rintro ⟨hc, box, hbox, hout, hl⟩
    exact ⟨box, ⟨hbox, hout⟩, hl, hc⟩

/-- The levels run out as soon as nothing lies below. -/
theorem iterate_nextLevel_eq_nil : ∀ {n : Nat} {level : List ItemId},
    (∀ box ∈ level, isContainer rules a box = true ∧ a.Shallow n box) →
    (nextLevel rules a id)^[n] level = []
  | 0, level, h => by
    refine List.eq_nil_iff_forall_not_mem.mpr fun box hbox => ?_
    obtain ⟨bag, hbag⟩ := exists_of_isContainer (h box hbox).1
    exact absurd ((h box hbox).2.symm.trans hbag) (by simp)
  | n + 1, level, h => by
    rw [Function.iterate_succ_apply]
    refine iterate_nextLevel_eq_nil fun c hc => ?_
    obtain ⟨hcontainer, box, hbox, -, bag, hbag, hlisted⟩ := mem_nextLevel.mp hc
    exact ⟨hcontainer, (h box hbox).2 bag hbag c hlisted⟩

/-! ## Searches come to an end -/

/-- Every way down the arena ends, and nothing that goes down it is cut off by its bound. -/
structure SearchesEnd (rules : Rules) (w : Wearer) : Prop where
  down : WellFounded fun x box => w.arena.Lists box x
  weight : ∀ types depth id, w.arena.cells.length ≤ depth →
    Arena.weightDepth types depth w.arena id = w.arena.totalWeight types id
  within : ∀ depth root x, w.arena.cells.length ≤ depth →
    Arena.isWithinDepth depth w.arena root x = w.arena.isWithin root x
  detach : ∀ depth root x, w.arena.cells.length ≤ depth →
    Arena.detachDepth depth w.arena root x = w.arena.detach? root x
  levels : ∀ id, (nextLevel rules w.arena id)^[w.arena.cells.length]
    (wornContainers rules w.character w.arena id) = []
  search : ∀ id item type depth, w.arena.cells.length ≤ depth →
    searchContainers rules w.arena id item type depth (wornContainers rules w.character w.arena id) none =
      searchContainers rules w.arena id item type w.arena.cells.length
        (wornContainers rules w.character w.arena id) none

theorem searchesEnd (rules : Rules) (h : w.arena.Acyclic) : SearchesEnd rules w := by
  have hlevels : ∀ id, (nextLevel rules w.arena id)^[w.arena.cells.length]
      (wornContainers rules w.character w.arena id) = [] := by
    refine fun id => iterate_nextLevel_eq_nil fun box hbox => ⟨?_, (h.grounded box).shallow⟩
    have hworn := (List.mem_filter.mp hbox).2
    simp only [Bool.and_eq_true] at hworn
    exact hworn.2
  exact
    { down := h.wellFounded.2
      weight := fun types depth id hd => (h.grounded id).weightDepth_eq types hd
      within := fun depth root x hd => (h.grounded root).isWithinDepth_eq x hd
      detach := fun depth root x hd => (h.grounded root).detachDepth_eq x hd
      levels := hlevels
      search := fun id item type depth hd => searchContainers_eq none (hlevels id) hd }

end Dressing

end Adventurer
