import Adventurer.Proofs.Arena.Weight
import Adventurer.Proofs.Dressing.Capacity
import Adventurer.Proofs.Engine.Frame
import Adventurer.Proofs.Engine.Ownership

/-!
# The weight is kept up to date

The weight of the inventory is written whenever a deed has changed what is worn or what lies in it, so that
it is right after every deed (`accurate_perform`).  A hit may spend charges without writing it, since charges
weigh nothing.
-/

namespace Adventurer

open Wearer

variable {σ τ : Type} {rules : Rules} {types : ItemLookup} {hook : EquipHook σ} {w v : Wearer}
  {request : EquipRequest} {slot : Slot} {count : Nat} {t : σ}

namespace Wearer

/-- The weights of everything worn, added up to the end of their width. -/
def wornWeight (types : ItemLookup) (w : Wearer) : Nat :=
  w.character.equipment.items.foldl (fun sum root => addUpTo max32 sum (w.arena.totalWeight types root)) 0

/-- The weight of the inventory is that of everything worn. -/
def Weighed (types : ItemLookup) (w : Wearer) : Prop := w.character.inventoryWeight = w.wornWeight types

/-- Everything worn has a weight: every way down from it ends, as far as it is looked into. -/
def Weighable (types : ItemLookup) (w : Wearer) : Prop :=
  ∀ slot root, w.character.equipment.get slot = some root → (w.arena.sealed types).Grounded root

/-- The weight of the inventory is right, if there is a weight. -/
def Accurate (types : ItemLookup) (w : Wearer) : Prop := w.Weighable types → w.Weighed types

theorem weighable_of_acyclic (types : ItemLookup) (h : w.arena.Acyclic) : w.Weighable types :=
  fun _ root _ => (h.sealed types).grounded root

theorem inventoryWeight_eq_wornWeight (hitems : rules.items = some types) (w : Wearer) :
    Dressing.inventoryWeight rules w.character w.arena = w.wornWeight types := by
  unfold Dressing.inventoryWeight
  rw [hitems]
  rfl

theorem wornWeight_congr (ha : v.arena = w.arena)
    (he : v.character.equipment = w.character.equipment) : v.wornWeight types = w.wornWeight types := by
  unfold wornWeight
  rw [ha, he]

/-- A change that agrees below everything worn leaves the weight right. -/
theorem Accurate.of_sameBelow (h : w.Accurate types)
    (he : v.character.equipment = w.character.equipment)
    (hw : v.character.inventoryWeight = w.character.inventoryWeight)
    (hsame : ∀ slot root, w.character.equipment.get slot = some root →
      Arena.SameBelow w.arena v.arena root) : v.Accurate types := by
  intro hv
  have hbefore : w.Weighable types := fun slot root hslot =>
    ((hsame slot root hslot).sealed types).symm.grounded (hv slot root (by rw [he]; exact hslot))
  unfold Weighed
  rw [hw, h hbefore]
  unfold wornWeight
  rw [he]
  refine List.foldl_ext _ _ _ fun sum root hroot => ?_
  obtain ⟨slot, hslot⟩ := Equipment.mem_items.mp hroot
  rw [(hsame slot root hslot).totalWeight_eq types (hbefore slot root hslot)]

theorem Unmoved.accurate (h : Unmoved w v) (hw : w.Accurate types) : v.Accurate types :=
  hw.of_sameBelow h.equipment h.inventoryWeight fun _ _ _ _ _ => by rw [h.arena]

theorem weighed_refresh (hitems : rules.items = some types) (w : Wearer) :
    (w.refresh rules).value.Weighed types := by
  unfold Weighed
  rw [inventoryWeight_refresh, inventoryWeight_eq_wornWeight hitems]
  exact (wornWeight_congr (arena_refresh rules w) (equipment_refresh rules w)).symm

/-- What is worn in some slots is destroyed, and the weight is written, if there are any. -/
theorem accurate_discard (hitems : rules.items = some types) (slots : List Slot) (hw : w.Accurate types) :
    (w.discard rules slots).value.Accurate types := by
  unfold discard
  split_ifs
  · exact hw
  · rw [Told.value_bind]
    exact fun _ => weighed_refresh hitems _

end Wearer

namespace Dressing

variable (hk : hook.KeepsSlots) (hkw : hook.KeepsWeight) (hitems : rules.items = some types)
include hk hkw hitems

theorem accurate_tryEquip (hw : w.Accurate types) :
    (tryEquip rules hook w request t).value.1.Accurate types := by
  cases hres : (tryEquip rules hook w request t).value.2.2 with
  | error e =>
    obtain ⟨t, -, heq⟩ := tryEquip_of_error hres
    rw [heq]
    exact hw
  | ok outcome =>
    obtain ⟨p, n, t', hplan, ha, he, -⟩ := exists_plan_of_tryEquip hres
    intro _
    unfold Weighed
    rw [inventoryWeight_tryEquip hkw hplan, inventoryWeight_eq_wornWeight hitems]
    exact (wornWeight_congr ha (he hk)).symm

theorem accurate_tryUnequip (hw : w.Accurate types) :
    (tryUnequip rules hook w slot count t).value.1.Accurate types := by
  cases hres : (tryUnequip rules hook w slot count t).value.2.2 with
  | error e =>
    obtain ⟨t, -, heq⟩ := tryUnequip_of_error hres
    rw [heq]
    exact hw
  | ok taken =>
    obtain ⟨id, t', hplan, ha, he, -⟩ := exists_plan_of_tryUnequip hres
    have hweight : (tryUnequip rules hook w slot count t).value.1.character.inventoryWeight =
        ((w.takeFrom id count).value.1.refresh rules).value.character.inventoryWeight := by
      rw [value_tryUnequip_of_plan rules hplan]
      exact hkw.onUnequip _ _ _ _
    intro _
    unfold Weighed
    rw [hweight, inventoryWeight_refresh, inventoryWeight_eq_wornWeight hitems]
    exact (wornWeight_congr ha (he hk)).symm

end Dressing

namespace Engine

variable {e : Engine σ τ} {s : Situation σ τ} {n : Nat} (hitems : e.rules.items = some types)
include hitems

/-- Charges weigh nothing, and what is destroyed is weighed again. -/
theorem accurate_absorb (hs : s.wearer.Accurate types) (hit : Hit) :
    (e.absorb s hit).value.1.wearer.Accurate types := by
  have hspent : ∀ x, ((hit.absorb e.rules s.character s.arena).1.get? x).map Item.uncharged =
      (s.arena.get? x).map Item.uncharged := by
    refine absorbed_induction (P := fun a => ∀ x, (a.get? x).map Item.uncharged =
      (s.arena.get? x).map Item.uncharged) (fun a id spent ha x => ?_) e.rules s.character hit fun _ => rfl
    rw [← ha x, Arena.get?_modify]
    split_ifs with hx
    · rw [hx, Option.map_map]
      rfl
    · rfl
  exact accurate_discard hitems _ (hs.of_sameBelow rfl rfl fun _ _ _ x _ => hspent x)

/-- **The weight is right after every deed.** -/
theorem accurate_perform (hk : e.hook.KeepsSlots) (hkw : e.hook.KeepsWeight) (hs : s.wearer.Accurate types)
    (d : Deed) : (e.perform s d).value.wearer.Accurate types := by
  cases d with
  | absorb hit => exact accurate_absorb hitems hs hit
  | act action =>
    cases action with
    | equip request => exact Dressing.accurate_tryEquip hk hkw hitems hs
    | unequip slot count => exact Dressing.accurate_tryUnequip hk hkw hitems hs
    | forceRefresh =>
      exact (unmoved_of_onlyPassives s.arena
        (Passives.onlyPassives_onCombatTick e.rules s.arena true s.character)).accurate hs

end Engine

end Adventurer
