import Adventurer.Passives.Stage
import Adventurer.Stats.Hands

/-!
# Passives against a target

Bonuses that hang on the target of an attack or a spell, and healing that hangs on the healer's own
health.  These are questions: nothing changes by asking.
-/

namespace Adventurer

/-- What is known about the target of an attack. -/
structure Target where
  id : CreatureId
  health : Meter
  isMonster : Bool
  /-- The damage it takes, in percent of what is normal. -/
  damageReceivedPercent : Int := 100
  /-- The damage it deals, in percent of what is normal. -/
  damageDealtPercent : Int := 100
  deriving DecidableEq, Repr

/-- A meter in percent of its maximum, rounded to the nearest. -/
def Meter.roundedPercent (m : Meter) : Int :=
  if m.maximum = 0 then 0
  else Binary64.toInt32 (Binary64.ofNat m.current * 100.0 / Binary64.ofNat m.maximum).round

/-- The health left to the target. -/
def Target.healthPercent (t : Target) : Int := t.health.roundedPercent

/-- What a leech draws. -/
inductive Leech where
  | mana
  | life
  deriving DecidableEq, Repr

namespace Passives

/-- What a passive grants against a target: nothing while it is locked or against oneself, and
otherwise what the target's state selects. -/
def against (c : Character) (passive : Passive) (target : Option Target)
    (grant : Target → Option ByStage) : Int :=
  match target with
  | none => 0
  | some t =>
    if t.id = c.id || !c.passives.isUnlocked passive then 0
    else (grant t).elim 0 fun values => values.at_ (c.passives.stage passive)

/-- Healing in percent on top for a wounded target. -/
def groveHealing (c : Character) (target : Option Target) : Int :=
  against c .blessingOfTheGrove target fun t =>
    if t.healthPercent ≤ 30 then some ⟨12, 18, 24⟩
    else if t.healthPercent ≤ 60 then some ⟨6, 9, 12⟩
    else none

/-- Damage in percent on top against a healthy target. -/
def twinBurst (c : Character) (target : Option Target) : Int :=
  against c .twinBurst target fun t => if 60 < t.healthPercent then some ⟨20, 40, 60⟩ else none

/-- Damage in percent on top against a target close to death. -/
def executionersThrow (c : Character) (target : Option Target) : Int :=
  against c .executionersThrow target fun t =>
    if t.healthPercent ≤ 30 then some ⟨100, 125, 150⟩ else none

/-- Damage in percent on top against any target. -/
def beamMastery (c : Character) (target : Option Target) : Int :=
  against c .beamMastery target fun _ => some ⟨10, 12, 14⟩

/-- The leech from monsters, in hundredths of a percent: mana from one that takes more damage than
is normal, life from one that deals less. -/
def drainBody (c : Character) (target : Option Target) (leech : Leech) : Int :=
  against c .drainBody target fun t =>
    if !t.isMonster then none
    else match leech with
      | .mana => if 100 < t.damageReceivedPercent then some ⟨100, 200, 300⟩ else none
      | .life => if t.damageDealtPercent < 100 then some ⟨300, 400, 500⟩ else none

/-- What a battle healing spell heals, the more the less health is left. -/
def battleHealing (c : Character) : Nat :=
  let base := Binary64.ofNat (c.effectiveSkill .shield) * 0.2
  let left := c.health.roundedPercent
  let multiplier : Float := if left ≤ 30 then 3.0 else if left ≤ 60 then 2.0 else 1.0
  min max32 (Binary64.toCount (base * multiplier))

end Passives

end Adventurer
