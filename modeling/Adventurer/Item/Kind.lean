import Adventurer.Collection.Table
import Adventurer.Item.Slot

/-!
# Item types

What every item of one type has in common: its weight, its class as a weapon or as ammunition, the
body positions it may take, what it absorbs and how it can be handled.
-/

namespace Adventurer

/-- The number of an item type. -/
structure ItemTypeId where
  number : Nat
  deriving DecidableEq, Repr, Ord, Inhabited

/-- How an item is used in a hand. -/
inductive WeaponType where
  | none
  | sword
  | club
  | axe
  | shield
  | distance
  | wand
  | ammo
  | missile
  deriving DecidableEq, Repr, Inhabited

namespace WeaponType

def all : List WeaponType := [none, sword, club, axe, shield, distance, wand, ammo, missile]

/-- Whether a hand holding such an item holds no weapon. -/
def isOffHand : WeaponType → Bool
  | none | shield | ammo => true
  | _ => false

end WeaponType

/-- What a distance weapon shoots, or what a piece of ammunition is. -/
inductive AmmoType where
  | none
  | bolt
  | arrow
  | spear
  | throwingStar
  | throwingKnife
  | stone
  deriving DecidableEq, Repr, Inhabited

namespace AmmoType

def all : List AmmoType := [none, bolt, arrow, spear, throwingStar, throwingKnife, stone]

/-- Whether such ammunition is drawn from a quiver. -/
def usesQuiver : AmmoType → Bool
  | bolt | arrow => true
  | _ => false

end AmmoType

/-- The element of a hit. -/
inductive CombatType where
  | physical
  | energy
  | earth
  | fire
  | lifeDrain
  | manaDrain
  | healing
  | drown
  | ice
  | holy
  | death
  deriving DecidableEq, Repr, Inhabited

namespace CombatType

def all : List CombatType :=
  [physical, energy, earth, fire, lifeDrain, manaDrain, healing, drown, ice, holy, death]

instance : Enumerated CombatType where
  count := 11
  all := all
  index c := ⟨c.ctorIdx, by cases c <;> decide⟩
  index_injective {a b} h := by cases a <;> cases b <;> revert h <;> decide
  mem_all a := by cases a <;> decide

end CombatType

/-- A set of body positions, one bit for each. -/
structure SlotPositions where
  bits : Nat
  deriving DecidableEq, Repr, Inhabited

namespace SlotPositions

def empty : SlotPositions := ⟨0⟩

/-- The bit of each body slot. -/
def bit : Slot → Nat
  | .head => 0
  | .necklace => 1
  | .backpack => 2
  | .armor => 3
  | .right => 4
  | .left => 5
  | .legs => 6
  | .feet => 7
  | .ring => 8
  | .ammo => 9

/-- The bit of an item that takes both hands. -/
def twoHandBit : Nat := 11

/-- Whether the set names a slot. -/
def allows (p : SlotPositions) (slot : Slot) : Bool := p.bits.testBit (bit slot)

/-- Whether the set asks for both hands. -/
def asksTwoHands (p : SlotPositions) : Bool := p.bits.testBit twoHandBit

/-- Whether the set names some slot of the body other than a hand or the ammunition slot. -/
def namesBody (p : SlotPositions) : Bool :=
  [Slot.head, .necklace, .backpack, .armor, .legs, .feet, .ring].any p.allows

/-- Whether the set names a hand. -/
def namesHand (p : SlotPositions) : Bool := p.allows .left || p.allows .right

end SlotPositions

/-- What all items of one type share. -/
structure ItemType where
  id : ItemTypeId := ⟨0⟩
  name : String := ""
  /-- Weight in hundredths of an ounce. -/
  weight : Nat := 0
  weaponType : WeaponType := .none
  ammoType : AmmoType := .none
  positions : SlotPositions := .empty
  armor : Int := 0
  defense : Int := 0
  extraDefense : Int := 0
  stackable : Bool := false
  pickupable : Bool := true
  moveable : Bool := true
  container : Bool := false
  quiver : Bool := false
  spellbook : Bool := false
  /-- Charges a fresh item starts with, none for unlimited use. -/
  charges : Nat := 0
  absorbPercent : Table CombatType Int := .replicate 0
  fieldAbsorbPercent : Table CombatType Int := .replicate 0
  deriving DecidableEq

namespace ItemType

instance : Inhabited ItemType := ⟨{}⟩

def isTwoHanded (t : ItemType) : Bool := t.positions.asksTwoHands

def isShield (t : ItemType) : Bool := t.weaponType = .shield

/-- Percent of a hit of one element that a worn item takes away. -/
def absorb (t : ItemType) (combat : CombatType) : Int := t.absorbPercent.get combat

/-- Percent it takes away besides when the hit comes from a field. -/
def fieldAbsorb (t : ItemType) (combat : CombatType) : Int := t.fieldAbsorbPercent.get combat

/-- A type with a number and a name, and otherwise a plain thing that can be carried. -/
def plain (id : ItemTypeId) (name : String) : ItemType := { id, name }

def withAbsorb (t : ItemType) (combat : CombatType) (percent : Int) : ItemType :=
  { t with absorbPercent := t.absorbPercent.set combat percent }

def withFieldAbsorb (t : ItemType) (combat : CombatType) (percent : Int) : ItemType :=
  { t with fieldAbsorbPercent := t.fieldAbsorbPercent.set combat percent }

/-- The type as a quiver, which is a container. -/
def asQuiver (t : ItemType) : ItemType := { t with quiver := true, container := true }

/-- The type as part of the scenery: neither taken nor moved. -/
def fixed (t : ItemType) : ItemType := { t with moveable := false, pickupable := false }

end ItemType

end Adventurer
