import Adventurer.Collection.Table

/-!
# Body slots

The ten places where an adventurer wears items.  The right hand is the shield hand and the left hand
the weapon hand.
-/

namespace Adventurer

/-- A place on the body where one item is worn. -/
inductive Slot where
  | head
  | necklace
  | backpack
  | armor
  | right
  | left
  | legs
  | feet
  | ring
  | ammo
  deriving DecidableEq, Repr, Inhabited

namespace Slot

/-- The slots in the order in which they are searched. -/
def all : List Slot :=
  [head, necklace, backpack, armor, right, left, legs, feet, ring, ammo]

/-- The slots whose armour counts toward the total. -/
def armored : List Slot := [head, necklace, armor, legs, feet, ring]

instance : Enumerated Slot where
  count := 10
  all := all
  index s := ⟨s.ctorIdx, by cases s <;> decide⟩
  index_injective {a b} h := by cases a <;> cases b <;> revert h <;> decide
  mem_all a := by cases a <;> decide

def isHand : Slot → Bool
  | right | left => true
  | _ => false

/-- The other hand of a hand. -/
def oppositeHand : Slot → Option Slot
  | right => some left
  | left => some right
  | _ => none

end Slot

end Adventurer
