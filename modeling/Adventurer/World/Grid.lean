import Adventurer.Collection.SortedMap
import Adventurer.World.View

/-!
# The grid world

A sparse world kept tile by tile and changed edit by edit.  Tiles that no edit touched are empty
ground of the normal zone.
-/

namespace Adventurer

/-- One change of the world. -/
inductive WorldEdit where
  /-- Puts a creature on top of a tile; a level marks an online player. -/
  | placeCreature (place : Place) (creature : CreatureView) (level : Option Nat)
  | clearTile (place : Place)
  | setZone (place : Place) (zone : Zone)
  | setGroundItems (place : Place) (type : ItemTypeId) (count : Nat)
  deriving DecidableEq, Repr

/-- Creatures, ground items, zones and levels of online players. -/
structure GridWorld where
  creatures : SortedMap Place CreatureView := .empty
  ground : SortedMap (Place × ItemTypeId) Nat := .empty
  zones : SortedMap Place Zone := .empty
  levels : SortedMap CreatureId Nat := .empty

namespace GridWorld

instance : Inhabited GridWorld := ⟨{}⟩

instance : Ord (Place × ItemTypeId) := lexOrd

/-- The world without tiles. -/
def empty : GridWorld := {}

/-- Carries out one edit. -/
def apply (w : GridWorld) : WorldEdit → GridWorld
  | .placeCreature place creature level =>
    { w with
      levels := level.elim w.levels fun l => w.levels.insert creature.id l
      creatures := w.creatures.insert place creature }
  | .clearTile place =>
    match w.creatures.find? place with
    | some creature =>
      { w with creatures := w.creatures.erase place, levels := w.levels.erase creature.id }
    | none => w
  | .setZone place zone =>
    { w with
      zones := if zone = .normal then w.zones.erase place else w.zones.insert place zone }
  | .setGroundItems place type count =>
    { w with
      ground :=
        if count = 0 then w.ground.erase (place, type) else w.ground.insert (place, type) count }

/-- Carries out edits one after the other. -/
def applyAll (w : GridWorld) (edits : List WorldEdit) : GridWorld := edits.foldl apply w

/-- Number of tiles that hold a creature. -/
def creatureCount (w : GridWorld) : Nat := w.creatures.size

/-- The world as the rules see it. -/
def view (w : GridWorld) : WorldView where
  creatureAt := w.creatures.find?
  groundCount place type := (w.ground.find? (place, type)).getD 0
  zone place := (w.zones.find? place).getD .normal
  playerLevel := w.levels.find?

end GridWorld

end Adventurer
