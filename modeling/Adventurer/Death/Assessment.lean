import Adventurer.Number.Binary64
import Adventurer.Rules

/-!
# Assessment of a fight

Who dealt the recent damage decides whether a death is one between players, and whether the fight
was unfair enough to reduce the loss.
-/

namespace Adventurer

/-- Recent damage, that of online players apart from all other, and the sum of the levels of those
players.  All are counted in sixty-four bits and go round. -/
structure DamageTally where
  byPlayers : Nat := 0
  byOthers : Nat := 0
  levels : Nat := 0
  deriving DecidableEq, Repr

/-- Who took part in the fight that killed a character. -/
structure FightAssessment where
  /-- Whether the death is one between players. -/
  pvpDeath : Bool
  /-- The percentage of the normal loss that applies. -/
  unfairFightReduction : Nat
  deriving DecidableEq, Repr

namespace DamageTally

/-- Adds what one attacker has dealt; a level marks an online player. -/
def add (t : DamageTally) (total : Nat) : Option Nat → DamageTally
  | some level =>
    { t with
      byPlayers := wrap max64 (t.byPlayers + total), levels := wrap max64 (t.levels + level) }
  | none => { t with byOthers := wrap max64 (t.byOthers + total) }

def total (t : DamageTally) : Nat := wrap max64 (t.byPlayers + t.byOthers)

/-- Whether the killing is one between players: the last hit or a large enough share of the damage
is theirs. -/
def isPvp (t : DamageTally) (config : GameConfig) (killer : Option CreatureView) : Bool :=
  0 < t.total
    && (killer.any (·.isPlayerControlled)
      || config.pvpDamageShare ≤ Binary64.ofNat t.byPlayers / Binary64.ofNat t.total)

/-- The percentage of the loss that applies against players whose levels outweigh that of the
victim. -/
def reduction (t : DamageTally) (config : GameConfig) (level : Nat) : Nat :=
  let share :=
    min max32 (Binary64.toCount (Binary64.ofNat level / Binary64.ofNat t.levels * 100.0).round)
  min (max share config.unfairFightFloor) 100

end DamageTally

namespace Character

/-- The damage dealt by attackers whose last hit is recent. -/
def damageTally (rules : Rules) (c : Character) : DamageTally :=
  let recent := c.combat.damage.filter fun _ record =>
    rules.now.since record.lastHit ≤ rules.config.inFightWindowMillis
  recent.entries.foldl
    (fun tally e => tally.add e.2.total (rules.world.bind fun world => world.playerLevel e.1)) {}

/-- Assesses the fight that killed a character. -/
def assessFight (rules : Rules) (c : Character) (killer : Option CreatureView) : FightAssessment :=
  let tally := c.damageTally rules
  let pvp := tally.isPvp rules.config killer
  { pvpDeath := pvp
    unfairFightReduction :=
      if pvp && c.level < tally.levels then tally.reduction rules.config c.level else 100 }

end Character

end Adventurer
