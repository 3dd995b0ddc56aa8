import Adventurer.Character.Blessing
import Adventurer.Character.Bonus
import Adventurer.Character.Condition
import Adventurer.Character.Passive
import Adventurer.Character.Reputation
import Adventurer.Character.Skill
import Adventurer.Collection.SortedMap
import Adventurer.Item.Equipment
import Adventurer.Meter
import Adventurer.Place

/-!
# The adventurer

A character is composed of its identity, its meters, its progression ledger, its equipment and what
combat, passives, blessings and reputation keep about it.
-/

namespace Adventurer

/-- The number of a vocation. -/
structure VocationId where
  number : Nat
  deriving DecidableEq, Repr, Ord, Inhabited

/-- The vocation of fresh characters. -/
def VocationId.none : VocationId := ⟨0⟩

def VocationId.isNone (id : VocationId) : Bool := id = .none

/-- An exception from the rules that a character enjoys or suffers. -/
inductive Flag where
  | cannotPickupItems
  | hasInfiniteCapacity
  | notGainMana
  | notGainExperience
  | notGainSkill
  | notGainInFight
  | setMaxSpeed
  deriving DecidableEq, Repr

/-- A set of flags, one bit for each. -/
structure Flags where
  bits : Nat := 0
  deriving DecidableEq, Repr

instance : Inhabited Flags := ⟨{}⟩

/-- The bit of a flag. -/
def Flag.bit (flag : Flag) : Nat := flag.ctorIdx

def Flags.has (f : Flags) (flag : Flag) : Bool := f.bits.testBit flag.bit

/-- The stance in a fight. -/
inductive FightMode where
  | attack
  | balanced
  | defense
  deriving DecidableEq, Repr, Inhabited

/-- Damage received from one attacker, and when it last struck. -/
structure DamageRecord where
  total : Nat
  lastHit : Instant
  deriving DecidableEq, Repr

/-- Numbers computed from equipment, skills, vocation and stance. -/
structure DerivedStats where
  mitigation : Float := 0.0
  defense : Int := 0
  attackFactor : Float := 0.0
  defenseFactor : Float := 0.0
  armor : Int := 0

instance : Inhabited DerivedStats := ⟨{}⟩

/-- What combat keeps about a character. -/
structure CombatProfile where
  fightMode : FightMode := .balanced
  lastAttack : Instant := .zero
  conditions : ConditionSet := {}
  damage : SortedMap CreatureId DamageRecord := .empty
  /-- Whether protection zones are closed to the character. -/
  pzLocked : Bool := false
  /-- Whether the next death costs something; a free death makes the one after it cost again. -/
  skillLoss : Bool := true
  skillBonuses : Table Skill BonusStack := .replicate {}
  magicBonus : BonusStack := {}
  mitigationBonus : BonusStack := {}
  /-- The derived stats as of the last change of the equipment. -/
  cached : DerivedStats := {}
  shieldBlockCount : Nat := 0
  bloodHitCount : Nat := 0
  /-- Whether the last swing earns a try once it lands. -/
  addAttackSkillPoint : Bool := false

instance : Inhabited CombatProfile := ⟨{}⟩

namespace CombatProfile

/-- Adds a hit to what an attacker has dealt. -/
def recordDamage (p : CombatProfile) (attacker : CreatureId) (amount : Nat) (now : Instant) :
    CombatProfile :=
  let dealt := ((p.damage.find? attacker).map (·.total)).getD 0
  { p with damage := p.damage.insert attacker ⟨addUpTo max64 dealt amount, now⟩ }

/-- Forgets the attackers whose last hit is more than `window` milliseconds old. -/
def pruneDamage (p : CombatProfile) (now : Instant) (window : Nat) : CombatProfile :=
  { p with damage := p.damage.filter fun _ record => now.since record.lastHit ≤ window }

end CombatProfile

/-- An adventurer. -/
structure Character where
  id : CreatureId
  name : String
  vocation : VocationId := .none
  place : Place := ⟨0, 0, 0⟩
  temple : Place := ⟨0, 0, 0⟩
  flags : Flags := {}
  health : Meter := .full 150
  mana : Meter := .full 0
  /-- What can be carried, in hundredths of an ounce. -/
  capacity : Nat := 40000
  /-- The weight of everything worn, in the same unit. -/
  inventoryWeight : Nat := 0
  baseSpeed : Nat := 220
  progress : Ledger := {}
  equipment : Equipment := {}
  combat : CombatProfile := {}
  passives : PassiveState := {}
  blessings : Blessings := {}
  reputation : Reputation := {}
  /-- The race whose kills of the character count as blessed. -/
  charmRuneBless : Option Nat := none

instance : Inhabited Character := ⟨{ id := ⟨0⟩, name := "" }⟩

namespace Character

/-- What can still be carried. -/
def freeCapacity (c : Character) : Nat :=
  if c.flags.has .hasInfiniteCapacity then max32 else c.capacity - c.inventoryWeight

def level (c : Character) : Nat := c.progress.level

def skill (c : Character) (skill : Skill) : SkillRecord := c.progress.skills.get skill

/-- Whether the character has attacked or been attacked of late. -/
def isInFight (c : Character) (now : Instant) : Bool := c.combat.conditions.has .inFight now

/-- The character with its passives changed. -/
def mapPassives (c : Character) (change : PassiveState → PassiveState) : Character :=
  { c with passives := change c.passives }

end Character

end Adventurer
