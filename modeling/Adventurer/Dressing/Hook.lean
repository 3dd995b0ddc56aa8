import Adventurer.Character.Basic
import Adventurer.Item.Kind

/-!
# Equip hooks

A host may veto a move before anything is touched, and hears of every move after the slots have
changed.  A hook keeps a state of its own, which the rules hand on from call to call.
-/

namespace Adventurer

/-- What a host does about moves of items. -/
structure EquipHook (σ : Type) where
  /-- Whether an item may be dressed in a slot. -/
  canEquip : Character → ItemId → ItemType → Slot → σ → Bool × σ
  /-- Whether an item may leave a slot, also when another one pushes it out. -/
  canUnequip : Character → ItemId → Slot → σ → Bool × σ
  onEquip : Character → ItemId → Slot → σ → Character × σ
  onUnequip : Character → ItemId → Slot → σ → Character × σ

/-- The hook that lets everything pass. -/
def EquipHook.idle : EquipHook Unit where
  canEquip _ _ _ _ s := (true, s)
  canUnequip _ _ _ s := (true, s)
  onEquip c _ _ s := (c, s)
  onUnequip c _ _ s := (c, s)

end Adventurer
