import Adventurer.Character.Basic
import Adventurer.Number.Binary64

/-!
# Vocations

What a vocation grants with each level, how steep its skill and magic curves are and how it weighs
armour and shields.
-/

namespace Adventurer

/-- The balance data of one vocation. -/
structure Vocation where
  id : VocationId := .none
  name : String := "None"
  /-- The vocation this one is promoted to, none at the top. -/
  promotion : Option VocationId := none
  hpGain : Nat := 5
  manaGain : Nat := 5
  /-- Capacity gained with each level, in hundredths of an ounce. -/
  capGain : Nat := 1000
  baseSpeed : Nat := 220
  attackSpeedMillis : Nat := 2000
  armorMultiplier : Float := 1.0
  defenseMultiplier : Float := 1.0
  mitigationFactor : Float := 1.0
  mitigationPrimaryShield : Float := 1.0
  mitigationSecondaryShield : Float := 1.0
  skillMultipliers : Table Skill Float :=
    ((((((Table.replicate 2.0).set Skill.fist 1.5).set .shield 1.5).set .fishing 1.1)))
  manaMultiplier : Float := 4.0
  /-- The level from which the skill curves are flat. -/
  maxSkillLevel : Nat := 200
  /-- The level from which the magic curve is flat. -/
  maxMagicLevel : Nat := 200

namespace Vocation

instance : Inhabited Vocation := ⟨{}⟩

/-- A vocation with a number and a name, and otherwise the data of fresh characters. -/
def plain (id : VocationId) (name : String) : Vocation := { id, name }

/-- Whether the vocation is at the top of its line; that of fresh characters is not. -/
def isPromoted (v : Vocation) : Bool := v.promotion.isNone && !v.id.isNone

/-- The tries that the first level above the start of each curve asks for. -/
def baseTries : Skill → Nat
  | .fist | .club | .sword | .axe => 50
  | .distance => 30
  | .shield => 100
  | .fishing => 20

/-- The skill level at which the curves have their base value. -/
def skillCurveStart : Int := 11

/-- An exponent of a curve, which counts levels up to the end of the signed range. -/
def curveLevel (level : Nat) : Int := min (level : Int) maxInt32

/-- The tries from the level before `level` to `level`. -/
def skillTries (v : Vocation) (skill : Skill) (level : Nat) : Nat :=
  let exponent := curveLevel (min level v.maxSkillLevel) - skillCurveStart
  Binary64.toCount
    (Binary64.ofNat (baseTries skill) * Binary64.power (v.skillMultipliers.get skill) exponent)

/-- A count rounded to the nearest multiple of twenty, a half upward and in sixty-four bits. -/
def roundToTwenty (n : Nat) : Nat :=
  if n % 20 < 10 then n - n % 20 else wrap max64 (n + (20 - n % 20))

/-- The mana from the magic level before `level` to `level`. -/
def manaRequired (v : Vocation) (level : Nat) : Nat :=
  if level = 0 then 0
  else
    roundToTwenty <| Binary64.toCount <|
      400.0 * Binary64.power v.manaMultiplier (curveLevel (min level v.maxMagicLevel) - 1)

def withSkillMultiplier (v : Vocation) (skill : Skill) (multiplier : Float) : Vocation :=
  { v with skillMultipliers := v.skillMultipliers.set skill multiplier }

end Vocation

end Adventurer
