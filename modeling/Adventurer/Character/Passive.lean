import Adventurer.Clock
import Adventurer.Collection.Table

/-!
# Passives and major stats

The passives an adventurer has unlocked and at which stage, the instant at which each is evaluated
next, and the major stats they currently grant.
-/

namespace Adventurer

/-- A passive ability. -/
inductive Passive where
  | battleInstinct
  | positionalTactics
  | ballisticMastery
  | combatMastery
  | divineEmpowerment
  | giftOfLife
  | blessingOfTheGrove
  | twinBurst
  | executionersThrow
  | beamMastery
  | drainBody
  | avatarOfLight
  | avatarOfSteel
  | avatarOfNature
  | avatarOfStorm
  deriving DecidableEq, Repr, Inhabited

namespace Passive

def all : List Passive :=
  [battleInstinct, positionalTactics, ballisticMastery, combatMastery, divineEmpowerment,
    giftOfLife, blessingOfTheGrove, twinBurst, executionersThrow, beamMastery, drainBody,
    avatarOfLight, avatarOfSteel, avatarOfNature, avatarOfStorm]

instance : Enumerated Passive where
  count := 15
  all := all
  index p := ⟨p.ctorIdx, by cases p <;> decide⟩
  index_injective {a b} h := by cases a <;> cases b <;> revert h <;> decide
  mem_all a := by cases a <;> decide

/-- The passives that are evaluated again and again, in the order of evaluation. -/
def periodic : List Passive :=
  [battleInstinct, positionalTactics, ballisticMastery, combatMastery, divineEmpowerment]

def isAvatar : Passive → Bool
  | avatarOfLight | avatarOfSteel | avatarOfNature | avatarOfStorm => true
  | _ => false

/-- The name shown to players. -/
def title : Passive → String
  | battleInstinct => "Battle Instinct"
  | positionalTactics => "Positional Tactics"
  | ballisticMastery => "Ballistic Mastery"
  | combatMastery => "Combat Mastery"
  | divineEmpowerment => "Divine Empowerment"
  | giftOfLife => "Gift of Life"
  | blessingOfTheGrove => "Blessing of the Grove"
  | twinBurst => "Twin Burst"
  | executionersThrow => "Executioner's Throw"
  | beamMastery => "Beam Mastery"
  | drainBody => "Drain Body"
  | avatarOfLight => "Avatar of Light"
  | avatarOfSteel => "Avatar of Steel"
  | avatarOfNature => "Avatar of Nature"
  | avatarOfStorm => "Avatar of Storm"

end Passive

/-- A stat that passives grant. -/
inductive MajorStat where
  | melee
  | shield
  | distance
  | magic
  | criticalDamage
  | masteryCriticalDamage
  | physicalDamage
  | holyDamage
  | defense
  | damage
  deriving DecidableEq, Repr, Inhabited

namespace MajorStat

def all : List MajorStat :=
  [melee, shield, distance, magic, criticalDamage, masteryCriticalDamage, physicalDamage,
    holyDamage, defense, damage]

instance : Enumerated MajorStat where
  count := 10
  all := all
  index s := ⟨s.ctorIdx, by cases s <;> decide⟩
  index_injective {a b} h := by cases a <;> cases b <;> revert h <;> decide
  mem_all a := by cases a <;> decide

end MajorStat

/-- An avatar and the instant at which it ends. -/
structure ActiveAvatar where
  avatar : Passive
  until_ : Instant
  deriving DecidableEq, Repr

/-- Everything passives keep on an adventurer. -/
structure PassiveState where
  unlocked : Table Passive Bool := .replicate false
  stages : Table Passive Nat := .replicate 0
  deadlines : Table Passive Instant := .replicate .zero
  major : Table MajorStat Int := .replicate 0
  /-- Seconds until Gift of Life may save again. -/
  giftOfLifeCooldown : Nat := 0
  /-- The instant up to which that cooldown has been counted. -/
  cooldownClock : Instant := .zero
  avatar : Option ActiveAvatar := none
  /-- Creatures counted when Battle Instinct last applied. -/
  creaturesNearby : Nat := 0
  deriving DecidableEq

namespace PassiveState

instance : Inhabited PassiveState := ⟨{}⟩

/-- The highest stage. -/
def maxStage : Nat := 3

def unlock (p : PassiveState) (passive : Passive) (stage : Nat) : PassiveState :=
  { p with
    unlocked := p.unlocked.set passive true
    stages := p.stages.set passive (min stage maxStage) }

def lock (p : PassiveState) (passive : Passive) : PassiveState :=
  { p with unlocked := p.unlocked.set passive false, stages := p.stages.set passive 0 }

def isUnlocked (p : PassiveState) (passive : Passive) : Bool := p.unlocked.get passive

def stage (p : PassiveState) (passive : Passive) : Nat := p.stages.get passive

def deadline (p : PassiveState) (passive : Passive) : Instant := p.deadlines.get passive

def setDeadline (p : PassiveState) (passive : Passive) (time : Instant) : PassiveState :=
  { p with deadlines := p.deadlines.set passive time }

/-- The value of a major stat. -/
def majorOf (p : PassiveState) (stat : MajorStat) : Int := p.major.get stat

def setMajor (p : PassiveState) (stat : MajorStat) (value : Int) : PassiveState :=
  { p with major := p.major.set stat value }

/-- Compares a major stat with a value and writes it where it differs; says whether it did. -/
def writeMajor (p : PassiveState) (stat : MajorStat) (value : Int) : PassiveState × Bool :=
  if p.majorOf stat = value then (p, false) else (p.setMajor stat value, true)

/-- Every major stat at zero. -/
def resetMajors (p : PassiveState) : PassiveState := { p with major := .replicate 0 }

/-- Whether a major stat is not at zero. -/
def anyMajor (p : PassiveState) : Bool := p.major.toList.any (· ≠ 0)

def anyPeriodicUnlocked (p : PassiveState) : Bool := Passive.periodic.any p.isUnlocked

end PassiveState

end Adventurer
