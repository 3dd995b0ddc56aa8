import Adventurer.Stats.Hands

/-!
# Derived stats

Mitigation, defense, armour and the factors of the stance, computed from equipment, skills, vocation
and the clock.  An unknown vocation weighs everything with zero.
-/

namespace Adventurer

/-- What a vocation weighs derived stats with. -/
structure Multipliers where
  armor : Float := 0.0
  defense : Float := 0.0
  mitigation : Float := 0.0
  primaryShield : Float := 0.0
  secondaryShield : Float := 0.0
  attackSpeedMillis : Nat := 0

/-- The multipliers of a vocation, all zero without one. -/
def Multipliers.ofVocation : Option Vocation → Multipliers
  | none => {}
  | some v =>
    { armor := v.armorMultiplier
      defense := v.defenseMultiplier
      mitigation := v.mitigationFactor
      primaryShield := v.mitigationPrimaryShield
      secondaryShield := v.mitigationSecondaryShield
      attackSpeedMillis := v.attackSpeedMillis }

namespace FightMode

/-- What the stance makes of attacks. -/
def attackFactor : FightMode → Float
  | attack => 1.0
  | balanced => 0.75
  | defense => 0.5

/-- What the stance makes of mitigation. -/
def mitigationFactor : FightMode → Float
  | attack => 0.67
  | balanced => 0.84
  | defense => 1.0

/-- What the stance leaves of defense while an attack is under way. -/
def swingFactor : FightMode → Float
  | attack => 0.5
  | balanced => 0.75
  | defense => 1.0

/-- The defense of someone without any skill to defend with. -/
def unskilledDefense : FightMode → Int
  | attack | balanced => 1
  | defense => 2

end FightMode

/-- A value rounded up to two decimals; less than a billionth above a hundredth counts as on it. -/
def ceilHundredths (value : Float) : Float := (value * 100.0 - 1e-9).ceil / 100.0

namespace Rules

variable (rules : Rules)

/-- The multipliers of a character's vocation. -/
def multipliers (c : Character) : Multipliers := .ofVocation (rules.vocationOf? c)

/-- The part of mitigation that comes from the hands: the defense value and the weights of shield
and distance. -/
structure Guard where
  defense : Int := 0
  shieldFactor : Float := 1.0
  distanceFactor : Float := 1.0

/-- What the right hand adds to the guard. -/
def guardRight (m : Multipliers) (major : Int) : Option Gear → Guard
  | none => {}
  | some gear =>
    let defense := gear.type.defense
    let guard : Guard :=
      { defense := if 0 < defense then wrapInt32 (defense + major) else defense }
    if gear.type.spellbook || gear.type.quiver then
      { guard with distanceFactor := m.secondaryShield }
    else { guard with shieldFactor := m.primaryShield }

/-- What the left hand makes of the guard. -/
def guardLeft (m : Multipliers) (guard : Guard) : Option Gear → Guard
  | none => guard
  | some gear =>
    if gear.type.ammoType.usesQuiver then { guard with distanceFactor := m.secondaryShield }
    else if gear.type.isTwoHanded then
      { guard with
        defense := wrapInt32 (gear.type.defense + gear.type.extraDefense)
        shieldFactor := m.secondaryShield }
    else
      { guard with
        defense := wrapInt32 (guard.defense + gear.type.extraDefense)
        shieldFactor := m.primaryShield }

/-- The fraction of damage that is mitigated. -/
def mitigation (c : Character) (a : Arena) : Float :=
  let m := rules.multipliers c
  let skill := Binary64.ofNat (c.effectiveSkill .shield)
  let guard := guardLeft m (guardRight m (c.passives.majorOf .defense) (rules.gear? c a .right))
    (rules.gear? c a .left)
  let raw := ((skill * m.mitigation + guard.shieldFactor * Binary64.ofInt guard.defense) / 100.0)
    * c.combat.fightMode.mitigationFactor * guard.distanceFactor
  let rounded := ceilHundredths raw
  rounded + rounded * Binary64.ofInt c.combat.mitigationBonus.increasedTotal / 100.0

/-- What is left of defense while the last attack is still under way. -/
def defenseFactor (c : Character) : Float :=
  if rules.now.since c.combat.lastAttack < (rules.multipliers c).attackSpeedMillis then
    c.combat.fightMode.swingFactor
  else 1.0

/-- The defense value of the hands and the skill that wields it: the shield before the weapon before
bare fists. -/
def defenseSource (c : Character) (a : Arena) : Int × Nat :=
  let (shield, weapon) := rules.shieldAndWeapon c a
  match shield, weapon with
  | some s, _ =>
    let value := wrapInt32 (s.type.defense + weapon.elim 0 fun w => w.type.extraDefense)
    let value := if 0 < value then wrapInt32 (value + c.passives.majorOf .defense) else value
    (value, c.effectiveSkill .shield)
  | none, some w =>
    (wrapInt32 (w.type.defense + w.type.extraDefense), c.weaponSkill (some w.type))
  | none, none => (7, c.effectiveSkill .fist)

/-- The defense of a character. -/
def defense (c : Character) (a : Arena) : Int :=
  let (value, skill) := rules.defenseSource c a
  if skill = 0 then c.combat.fightMode.unskilledDefense
  else
    Binary64.toInt32 ((Binary64.ofNat skill / 4.0 + 2.23) * Binary64.ofInt value * 0.15
      * rules.defenseFactor c * (rules.multipliers c).defense)

/-- The armour of everything worn. -/
def armor (c : Character) (a : Arena) : Int :=
  let total :=
    (Slot.armored.filterMap (rules.gear? c a)).foldl (fun sum g => wrapInt32 (sum + g.type.armor)) 0
  Binary64.toInt32 (Binary64.ofInt total * (rules.multipliers c).armor)

/-- All derived stats at once. -/
def derivedStats (c : Character) (a : Arena) : DerivedStats where
  mitigation := rules.mitigation c a
  defense := rules.defense c a
  attackFactor := c.combat.fightMode.attackFactor
  defenseFactor := rules.defenseFactor c
  armor := rules.armor c a

end Rules

end Adventurer
