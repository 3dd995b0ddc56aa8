import Adventurer.Item.Arena

/-!
# Weight of items

A stack weighs its count times the weight of its type, and a container weighs itself and what it
contains.  Items of unknown type weigh nothing.
-/

namespace Adventurer

/-- What a type id stands for. -/
abbrev ItemLookup := ItemTypeId → Option ItemType

/-- The weight of an item alone: one piece, or every piece of a stack. -/
def Item.ownWeight (item : Item) (type : ItemType) : Nat :=
  if type.stackable then mulUpTo max32 type.weight item.count else type.weight

namespace Arena

/-- The weight of an item and, up to a depth, of what is inside it. -/
def weightDepth (types : ItemLookup) : Nat → Arena → ItemId → Nat
  | 0, _, _ => 0
  | depth + 1, a, id =>
    match a.get? id with
    | none => 0
    | some item =>
      match types item.type with
      | none => 0
      | some type =>
        item.contents.foldl (fun sum child => addUpTo max32 sum (weightDepth types depth a child))
          (item.ownWeight type)

/-- The weight of an item and of everything inside it. -/
def totalWeight (a : Arena) (types : ItemLookup) (id : ItemId) : Nat :=
  weightDepth types a.cells.length a id

end Arena

end Adventurer
