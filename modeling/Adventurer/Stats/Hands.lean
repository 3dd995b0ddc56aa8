import Adventurer.Rules

/-!
# What the hands hold

The gear in a slot, the shield and the weapon in the hands, the weapon an attack uses and the skills
as they count with every bonus.
-/

namespace Adventurer

/-- A worn item, or a piece of ammunition in a worn quiver, with its type. -/
structure Gear where
  id : ItemId
  slot : Slot
  type : ItemType

namespace Rules

variable (rules : Rules)

/-- What is worn in a slot; an item that is gone or of unknown type counts as nothing. -/
def gear? (c : Character) (a : Arena) (slot : Slot) : Option Gear :=
  (c.equipment.get slot).bind fun id =>
    (rules.resolve? a id).map fun held => ⟨id, slot, held.2⟩

/-- The better shield of two hands: the first, unless the second defends more. -/
def betterShield (held : Option Gear) (other : Gear) : Option Gear :=
  match held with
  | none => some other
  | some shield => if shield.type.defense < other.type.defense then some other else held

/-- Looks at one hand after the other for a shield and a weapon. -/
def sortHand (found : Option Gear × Option Gear) (hand : Option Gear) :
    Option Gear × Option Gear :=
  match hand with
  | none => found
  | some gear => match gear.type.weaponType with
    | .none => found
    | .shield => (betterShield found.1 gear, found.2)
    | _ => (found.1, some gear)

/-- The better shield of both hands, and the weapon, that of the left hand before that of the
right. -/
def shieldAndWeapon (c : Character) (a : Arena) : Option Gear × Option Gear :=
  [Slot.right, .left].foldl (fun found slot => sortHand found (rules.gear? c a slot)) (none, none)

/-- The first piece of some ammunition in the quiver of the right hand. -/
def quiverAmmo? (c : Character) (a : Arena) (ammo : AmmoType) : Option Gear := do
  let quiver ← rules.gear? c a .right
  if quiver.type.quiver then
    let bag ← a.get? quiver.id
    bag.contents.findSome? fun id => do
      let (_, type) ← rules.resolve? a id
      if type.ammoType = ammo then some ⟨id, .right, type⟩ else none
  else none

/-- The weapon that one hand attacks with. -/
def handWeapon? (c : Character) (a : Arena) (ignoreAmmo : Bool) (slot : Slot) : Option Gear := do
  let gear ← rules.gear? c a slot
  if gear.type.weaponType.isOffHand then none
  else if gear.type.weaponType ≠ .distance || ignoreAmmo || !gear.type.ammoType.usesQuiver then
    some gear
  else rules.quiverAmmo? c a gear.type.ammoType

/-- The weapon an attack uses, that of the left hand first.  A distance weapon fed by a quiver
stands for the ammunition in it, unless ammunition does not matter. -/
def attackWeapon? (c : Character) (a : Arena) (ignoreAmmo : Bool) : Option Gear :=
  [Slot.left, .right].findSome? (rules.handWeapon? c a ignoreAmmo)

end Rules

/-- A level as a signed number of thirty-two bits. -/
def signedLevel (level : Nat) : Int := wrapInt32 level

/-- The highest level that bonuses lead to. -/
def effectiveCap : Int := 65535

namespace Character

/-- What the passives add to a skill. -/
def majorBonus (c : Character) : Skill → Int
  | .fist | .club | .sword | .axe => c.passives.majorOf .melee
  | .shield => c.passives.majorOf .shield
  | .distance => c.passives.majorOf .distance
  | .fishing => 0

/-- A skill with everything that adds to it. -/
def effectiveSkill (c : Character) (skill : Skill) : Nat :=
  ((c.combat.skillBonuses.get skill).apply
    (wrapInt32 (signedLevel (c.skill skill).level + c.majorBonus skill)) 0 effectiveCap).toNat

/-- The magic level with everything that adds to it. -/
def effectiveMagicLevel (c : Character) : Nat :=
  (c.combat.magicBonus.apply
    (wrapInt32 (signedLevel c.progress.magicLevel + c.passives.majorOf .magic)) 0 effectiveCap).toNat

end Character

/-- The skill that an attack with a weapon trains, fist fighting without one. -/
def weaponSkill? : Option ItemType → Option Skill
  | none => some .fist
  | some type => match type.weaponType with
    | .sword => some .sword
    | .club => some .club
    | .axe => some .axe
    | .distance => some .distance
    | _ => none

/-- The skill with which a weapon is used, zero for one that needs none. -/
def Character.weaponSkill (c : Character) (weapon : Option ItemType) : Nat :=
  (weaponSkill? weapon).elim 0 c.effectiveSkill

end Adventurer
