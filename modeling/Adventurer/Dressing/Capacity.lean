import Adventurer.Rules

/-!
# What a character carries and can carry

An item is carried if it is worn or lies inside something worn.  Picking up an item that is not yet
carried takes free capacity.
-/

namespace Adventurer.Dressing

/-- Whether an item is worn or lies inside something worn. -/
def isCarried (c : Character) (a : Arena) (id : ItemId) : Bool :=
  c.equipment.items.any fun root => a.isWithin root id

/-- The weight of `count` of an item: a container with its contents, a stack by the piece. -/
def movedWeight (types : ItemLookup) (a : Arena) (id : ItemId) (item : Item) (type : ItemType)
    (count : Nat) : Nat :=
  if type.container then a.totalWeight types id
  else if type.stackable then mulUpTo max32 type.weight (min count item.count)
  else type.weight

/-- Whether a character can carry `count` of an item once `freed` has left the inventory. -/
def hasCapacity (rules : Rules) (c : Character) (a : Arena) (id : ItemId) (count freed : Nat) :
    Bool :=
  if c.flags.has .cannotPickupItems then false
  else if c.flags.has .hasInfiniteCapacity || isCarried c a id then true
  else match rules.items, rules.resolve? a id with
    | some types, some (item, type) =>
      movedWeight types a id item type count ≤ addUpTo max32 c.freeCapacity freed
    | _, _ => false

/-- The weight of everything worn; without a catalog the weight last known. -/
def inventoryWeight (rules : Rules) (c : Character) (a : Arena) : Nat :=
  match rules.items with
  | none => c.inventoryWeight
  | some types =>
    c.equipment.items.foldl (fun sum id => addUpTo max32 sum (a.totalWeight types id)) 0

end Adventurer.Dressing
