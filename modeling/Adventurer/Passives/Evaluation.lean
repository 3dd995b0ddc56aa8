import Adventurer.Passives.Stage
import Adventurer.Stats.Hands

/-!
# Evaluation of the periodic passives

Each periodic passive grants the major stats it governs by the live situation: the creatures around,
the loaded ammunition, the wielded weapon, the ground under the feet.  What it grants is written
where it differs from what stands, so evaluating twice in one situation changes nothing the second
time and says so.
-/

namespace Adventurer.Passives

/-- Creatures that the Battle Instinct scan counts at most. -/
def instinctCap : Nat := 8

/-- Creatures from which Battle Instinct grants anything. -/
def instinctThreshold : Nat := 5

/-- What a passive grants in a situation. -/
structure Grant where
  majors : List (MajorStat × Int) := []
  /-- The number of creatures counted, of a passive that counts them. -/
  nearby : Option Nat := none

/-- Writes one more major stat; adds to what has been said before whether it has changed. -/
def writeNext (done : PassiveState × Bool) (v : MajorStat × Int) : PassiveState × Bool :=
  let (p, changed) := done.1.writeMajor v.1 v.2
  (p, done.2 || changed)

/-- Writes major stats one after the other; says whether one of them has changed. -/
def writeMajors (p : PassiveState) (values : List (MajorStat × Int)) : PassiveState × Bool :=
  values.foldl writeNext (p, false)

namespace Grant

/-- The passives with the number of creatures noted, if they were counted. -/
def note (g : Grant) (p : PassiveState) : PassiveState :=
  g.nearby.elim p fun n => { p with creaturesNearby := n }

/-- Writes what is granted; says whether a major stat has changed. -/
def write (g : Grant) (c : Character) : Character × Bool :=
  let (passives, changed) := writeMajors (g.note c.passives) g.majors
  ({ c with passives }, changed)

end Grant

/-- Counts the tiles that pass a test on top of those already found, and stops at the cap. -/
def scan (cap : Nat) (test : Place → Bool) (found : Nat) : List Place → Nat
  | [] => found
  | tile :: tiles =>
    if cap ≤ found then found
    else scan cap test (if test tile then found + 1 else found) tiles

/-- Whether a creature other than the character and its summons is on top of a tile. -/
def hasStranger (world : WorldView) (c : Character) (tile : Place) : Bool :=
  (world.creatureAt tile).any fun creature => creature.id ≠ c.id && !creature.isSummonOf c.id

/-- Number of creatures around a character other than itself and its summons, up to the cap. -/
def creaturesAround (world : WorldView) (c : Character) : Nat :=
  scan instinctCap (hasStranger world c) 0 c.place.block

/-- What Battle Instinct grants among a number of creatures: melee and shield. -/
def instinctGrant (nearby : Nat) : Int × Int :=
  if instinctThreshold ≤ nearby then
    let extra : Int := nearby - (instinctThreshold - 1 : Nat)
    (extra, 6 * extra)
  else (0, 0)

/-- Melee and shield for standing among creatures. -/
def battleInstinct (rules : Rules) (c : Character) : Grant :=
  match rules.world with
  | none => {}
  | some world =>
    let nearby := creaturesAround world c
    let (melee, shield) := instinctGrant nearby
    { majors := [(.melee, melee), (.shield, shield)]
      nearby := some (if instinctThreshold ≤ nearby then nearby else 0) }

/-- Whether a monster that no player has summoned is next to a character. -/
def isEngaged (world : WorldView) (c : Character) : Bool :=
  c.place.block.any fun tile =>
    (world.creatureAt tile).any fun creature =>
      creature.id ≠ c.id && creature.kind = .monster && !creature.master.any (·.isPlayer)

/-- Distance while no monster is near, magic otherwise. -/
def positionalTactics (rules : Rules) (c : Character) : Grant :=
  match rules.world with
  | none => {}
  | some world =>
    let (distance, magic) : Int × Int := if isEngaged world c then (0, 3) else (3, 0)
    { majors := [(.distance, distance), (.magic, magic)] }

/-- Critical damage with bolts, physical and holy damage with arrows. -/
def ballisticMastery (rules : Rules) (a : Arena) (c : Character) : Grant :=
  let ammo := (rules.attackWeapon? c a false).elim AmmoType.none fun gear => gear.type.ammoType
  let (critical, physical, holy) : Int × Int × Int := match ammo with
    | .bolt => (10, 0, 0)
    | .arrow => (0, 2, 2)
    | _ => (0, 0, 0)
  { majors := [(.criticalDamage, critical), (.physicalDamage, physical), (.holyDamage, holy)] }

/-- Critical damage with a weapon for both hands, defense otherwise. -/
def combatMastery (rules : Rules) (a : Arena) (c : Character) : Grant :=
  let twoHanded := (rules.attackWeapon? c a true).any fun gear => gear.type.isTwoHanded
  let stage := c.passives.stage .combatMastery
  let (critical, defense) : Int × Int :=
    if twoHanded then ((ByStage.mk 4 8 12).at_ stage, 0) else (0, (ByStage.mk 10 20 30).at_ stage)
  { majors := [(.masteryCriticalDamage, critical), (.defense, defense)] }

/-- Whether the configured item lies under a character's feet. -/
def isEmpowered (rules : Rules) (c : Character) : Bool :=
  rules.config.divineEmpowermentItem.any fun item =>
    rules.world.any fun world => 0 < world.groundCount c.place ⟨item⟩

/-- Damage while standing on an empowered tile. -/
def divineEmpowerment (rules : Rules) (c : Character) : Grant :=
  let damage :=
    if isEmpowered rules c then
      (ByStage.mk 8 10 12).at_ (c.passives.stage .divineEmpowerment)
    else 0
  { majors := [(.damage, damage)] }

/-- What a passive grants; one that is not periodic grants no major stat. -/
def grant (rules : Rules) (a : Arena) (passive : Passive) (c : Character) : Grant :=
  match passive with
  | .battleInstinct => battleInstinct rules c
  | .positionalTactics => positionalTactics rules c
  | .ballisticMastery => ballisticMastery rules a c
  | .combatMastery => combatMastery rules a c
  | .divineEmpowerment => divineEmpowerment rules c
  | _ => {}

/-- Evaluates a passive: writes what it grants; says whether a major stat has changed. -/
def evaluate (rules : Rules) (a : Arena) (passive : Passive) (c : Character) : Character × Bool :=
  (grant rules a passive c).write c

end Adventurer.Passives
