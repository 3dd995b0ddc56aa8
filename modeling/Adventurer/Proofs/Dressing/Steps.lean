import Adventurer.Dressing.Transaction
import Adventurer.Proofs.Arena.Removal
import Adventurer.Proofs.Equipment
import Adventurer.Proofs.Passives.Overlay

/-!
# What one step of dressing does

`Taken` lists the four ways in which an item comes into the hand, with all that is known in each case.
After a move only the arena and the worn slots matter; refreshing and reporting leave them alone.
-/

namespace Adventurer

variable {σ : Type}

/-- The hook's reports leave the worn slots as they are. -/
structure EquipHook.KeepsSlots (hook : EquipHook σ) : Prop where
  onEquip : ∀ c id slot s, (hook.onEquip c id slot s).1.equipment = c.equipment
  onUnequip : ∀ c id slot s, (hook.onUnequip c id slot s).1.equipment = c.equipment

theorem EquipHook.keepsSlots_idle : EquipHook.idle.KeepsSlots := ⟨fun _ _ _ _ => rfl, fun _ _ _ _ => rfl⟩

namespace Wearer

variable {w : Wearer} {id x : ItemId} {source : Item} {count : Nat}

/-- The item is worn or lies inside something worn. -/
def Carries (w : Wearer) (x : ItemId) : Prop :=
  ∃ slot root, w.character.equipment.get slot = some root ∧ w.arena.Reaches root x

theorem isCarried_iff : Dressing.isCarried w.character w.arena x = true ↔ w.Carries x := by
  unfold Dressing.isCarried Carries
  rw [List.any_eq_true]
  constructor
  · rintro ⟨root, hm, hr⟩
    obtain ⟨slot, hs⟩ := Equipment.mem_items.mp hm
    exact ⟨slot, root, hs, Arena.isWithin_iff.mp hr⟩
  · rintro ⟨slot, root, hs, hr⟩
    exact ⟨root, Equipment.mem_items.mpr ⟨slot, hs⟩, Arena.isWithin_iff.mpr hr⟩

theorem arena_refresh (rules : Rules) (w : Wearer) : (w.refresh rules).value.arena = w.arena := rfl

theorem equipment_refresh (rules : Rules) (w : Wearer) :
    (w.refresh rules).value.character.equipment = w.character.equipment := by
  have h := (Passives.onlyPassives_onCombatTick rules w.arena true { w.character with
    inventoryWeight := Dressing.inventoryWeight rules w.character w.arena }).equipment_eq
  exact h

/-! ## Taking an item in hand -/

/-- The wearer without `count` pieces of a stack. -/
def rest (w : Wearer) (id : ItemId) (count : Nat) : Wearer :=
  w.mapArena (·.modify id fun item => { item with count := item.count - count })

/-- The arena after `count` pieces were split off a stack, and the id of the new stack. -/
def split (w : Wearer) (id : ItemId) (source : Item) (count : Nat) : Arena × ItemId :=
  (w.rest id count).arena.insert { type := source.type, count }

/-- The ways in which `count` of an item comes into the hand: what is left, and what is held. -/
inductive Taken (w : Wearer) (id : ItemId) (source : Item) (count : Nat) : Wearer × ItemId → Prop
  | part (h : count < source.count) :
    Taken w id source count ({ w with arena := (w.split id source count).1 },
      (w.split id source count).2)
  | worn {slot : Slot} (h : source.count ≤ count) (hs : w.character.equipment.slotOf id = some slot) :
    Taken w id source count (w.mapEquipment (·.clear slot), id)
  | packed {box : ItemId} (h : source.count ≤ count)
    (hs : ∀ slot, w.character.equipment.get slot ≠ some id) (hc : w.Carries box)
    (hl : w.arena.Lists box id) :
    Taken w id source count (w.mapArena (·.modify box (Arena.unlist id)), id)
  | loose (h : source.count ≤ count) (hs : ∀ slot, w.character.equipment.get slot ≠ some id)
    (hl : ∀ box, w.Carries box → ¬ w.arena.Lists box id) :
    Taken w id source count (w, id)

theorem taken_takeFrom (h : w.arena.get? id = some source) (count : Nat) :
    Taken w id source count (w.takeFrom id count).value := by
  unfold takeFrom
  rw [h]
  simp only
  split_ifs with hlt
  · exact .part hlt
  · rw [Nat.not_lt] at hlt
    simp only [Told.value_bind, Told.value_pure]
    unfold detach
    cases hs : w.character.equipment.slotOf id with
    | some slot => exact .worn hlt hs
    | none =>
      have hne := Equipment.get_ne_of_slotOf_eq_none hs
      simp only [Told.value_pure, mapArena]
      cases hd : w.character.equipment.items.findSome? fun root => w.arena.detach? root id with
      | some a =>
        obtain ⟨root, hm, hr⟩ := List.exists_of_findSome?_eq_some hd
        obtain ⟨slot, hslot⟩ := Equipment.mem_items.mp hm
        obtain ⟨box, h1, h2, rfl⟩ := Arena.exists_of_detach?_eq hr
        exact .packed hlt hne ⟨slot, root, hslot, h1⟩ h2
      | none =>
        refine .loose hlt hne fun box hc hl => ?_
        obtain ⟨slot, root, hslot, h1⟩ := hc
        have := List.findSome?_eq_none_iff.mp hd root (Equipment.mem_items.mpr ⟨slot, hslot⟩)
        have hsome := Arena.detach?_isSome_iff.mpr ⟨box, h1, hl⟩
        rw [this] at hsome
        exact absurd hsome (by simp)

end Wearer

end Adventurer
