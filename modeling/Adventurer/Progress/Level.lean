import Adventurer.Notice
import Adventurer.Progress.Curve
import Adventurer.Rules

/-!
# Level gains and losses

Reaching a level grants the gains of the vocation, and leaving one takes gains away.  Up to the last
starter level a character with a vocation still follows the table of fresh characters.
-/

namespace Adventurer

/-- What a level adds to health, mana and capacity. -/
structure LevelGains where
  health : Nat := 0
  mana : Nat := 0
  capacity : Nat := 0
  deriving DecidableEq, Repr

namespace LevelGains

/-- The last level at which the table of fresh characters is used. -/
def lastStarterLevel : Nat := 8

def ofVocation (v : Vocation) : LevelGains := ⟨v.hpGain, v.manaGain, v.capGain⟩

/-- The gains booked at a level.  The starter table applies only where it is asked for. -/
def at_ (rules : Rules) (vocation : Option Vocation) (level : Nat) (starter : Bool) : LevelGains :=
  match vocation with
  | none => {}
  | some v =>
    if starter && !v.id.isNone && level ≤ lastStarterLevel then
      ofVocation ((rules.vocation? .none).getD {})
    else ofVocation v

end LevelGains

namespace Character

/-- The experience that reaches a level under a configuration. -/
def threshold (rules : Rules) (level : Nat) : Nat := experienceFor level rules.config.maxLevel

/-- The speed that fits the level; without a vocation the speed stays as it is. -/
def updateBaseSpeed (c : Character) (vocation : Option Vocation) : Character :=
  if c.flags.has .setMaxSpeed then { c with baseSpeed := maxBaseSpeed }
  else match vocation with
    | some v => { c with baseSpeed := speedAt v.baseSpeed c.level }
    | none => c

/-- The character at another level, nothing else changed. -/
def withLevel (c : Character) (level : Nat) : Character :=
  { c with progress := { c.progress with level } }

def withLevelPercent (c : Character) (percent : Float) : Character :=
  { c with progress := { c.progress with levelPercent := percent } }

def withExperience (c : Character) (experience : Nat) : Character :=
  { c with progress := { c.progress with experience } }

/-- Grows the meters and the capacity. -/
def gain (c : Character) (g : LevelGains) : Character :=
  { c with
    health := c.health.grow g.health
    mana := c.mana.grow g.mana
    capacity := addUpTo max32 c.capacity g.capacity }

/-- Shrinks the meters and the capacity. -/
def ungain (c : Character) (g : LevelGains) : Character :=
  { c with
    health := c.health.shrink g.health
    mana := c.mana.shrink g.mana
    capacity := c.capacity - g.capacity }

/-- One level up, with its gains. -/
def ascend (c : Character) (rules : Rules) (vocation : Option Vocation) : Character :=
  (c.withLevel (c.level + 1)).gain (LevelGains.at_ rules vocation (c.level + 1) true)

/-- One level down, less the gains of the level arrived at. -/
def descend (c : Character) (rules : Rules) (vocation : Option Vocation) (starter : Bool) :
    Character :=
  (c.withLevel (c.level - 1)).ungain (LevelGains.at_ rules vocation (c.level - 1) starter)

@[simp] theorem level_ascend (c : Character) (rules : Rules) (vocation : Option Vocation) :
    (c.ascend rules vocation).level = c.level + 1 := rfl

@[simp] theorem level_descend (c : Character) (rules : Rules) (vocation : Option Vocation)
    (starter : Bool) : (c.descend rules vocation starter).level = c.level - 1 := rfl

/-- Ascends while the experience reaches the next level and the curve grows there. -/
def ascendAll (c : Character) (rules : Rules) (vocation : Option Vocation) : Character :=
  if _ : threshold rules (c.level + 1) ≤ c.progress.experience then
    let up := c.ascend rules vocation
    if _ : threshold rules up.level < threshold rules (up.level + 1) then
      up.ascendAll rules vocation
    else up
  else c
termination_by rules.config.maxLevel - c.level
decreasing_by
  next h =>
    have := lt_of_experienceFor_lt h
    simp only [up, level_ascend] at this ⊢
    omega

/-- Descends while the level asks for more experience than there is. -/
def descendAll (c : Character) (rules : Rules) (vocation : Option Vocation) (starter : Bool) :
    Character :=
  if _ : 1 < c.level ∧ c.progress.experience < threshold rules c.level then
    (c.descend rules vocation starter).descendAll rules vocation starter
  else c
termination_by c.level
decreasing_by
  simp only [level_descend]
  omega

/-- The percent of the way from the current level to the next. -/
def freshLevelPercent (c : Character) (rules : Rules) : Float :=
  let current := threshold rules c.level
  let next := threshold rules (c.level + 1)
  if current < next then percentOf (c.progress.experience - current) (next - current) else 0.0

/-- Gives back the levels that the experience no longer covers, and reads the percent anew. -/
def dropLevels (c : Character) (rules : Rules) (vocation : Option Vocation) (starter : Bool) :
    Character :=
  let down := c.descendAll rules vocation starter
  let down := if down.level = c.level then down else down.updateBaseSpeed vocation
  down.withLevelPercent (down.freshLevelPercent rules)

end Character

end Adventurer
