import Adventurer.Creature
import Adventurer.Item.Kind
import Adventurer.Place

/-!
# The world around a character

What the rules may ask about the world: who stands on a tile, what lies there, which zone it is in
and which level an online player has.
-/

namespace Adventurer

/-- The rules in force on a tile. -/
inductive Zone where
  | normal
  | protection
  | noPvp
  | pvp
  deriving DecidableEq, Repr, Inhabited

/-- The answers of a world at one point in time. -/
structure WorldView where
  /-- The topmost creature on a tile. -/
  creatureAt : Place → Option CreatureView
  /-- The number of items of a type on a tile. -/
  groundCount : Place → ItemTypeId → Nat
  zone : Place → Zone
  /-- The level of an online player, none of any other creature. -/
  playerLevel : CreatureId → Option Nat

end Adventurer
