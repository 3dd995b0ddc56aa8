import Adventurer.Item.Arena
import Adventurer.Item.Slot

/-!
# Worn equipment

What an adventurer wears: at most one item id per body slot.
-/

namespace Adventurer

/-- The item worn in each slot. -/
structure Equipment where
  slots : Table Slot (Option ItemId) := .replicate none
  deriving DecidableEq

namespace Equipment

instance : Inhabited Equipment := ⟨{}⟩

def empty : Equipment := {}

def get (e : Equipment) (slot : Slot) : Option ItemId := e.slots.get slot

def isFree (e : Equipment) (slot : Slot) : Bool := (e.get slot).isNone

/-- Puts an item into a slot, over whatever was there. -/
def wear (e : Equipment) (slot : Slot) (item : ItemId) : Equipment :=
  ⟨e.slots.set slot (some item)⟩

/-- Empties a slot. -/
def clear (e : Equipment) (slot : Slot) : Equipment := ⟨e.slots.set slot none⟩

/-- The slot in which an item is worn. -/
def slotOf (e : Equipment) (item : ItemId) : Option Slot := e.slots.find? (· = some item)

/-- The filled slots in slot order, with what they hold. -/
def worn (e : Equipment) : List (Slot × ItemId) :=
  Slot.all.filterMap fun slot => (e.get slot).map fun id => (slot, id)

/-- The worn items in slot order. -/
def items (e : Equipment) : List ItemId := Slot.all.filterMap e.get

theorem get_wear (e : Equipment) (slot other : Slot) (item : ItemId) :
    (e.wear slot item).get other = if slot = other then some item else e.get other :=
  Table.get_set _ _ _ _

theorem get_clear (e : Equipment) (slot other : Slot) :
    (e.clear slot).get other = if slot = other then none else e.get other :=
  Table.get_set _ _ _ _

@[simp] theorem get_empty (slot : Slot) : empty.get slot = none := Table.get_replicate _ _

end Equipment

end Adventurer
