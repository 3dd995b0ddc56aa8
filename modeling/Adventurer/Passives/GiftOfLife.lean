import Adventurer.Notice
import Adventurer.Passives.Stage
import Adventurer.Rules

/-!
# Gift of Life

A passive that cancels a lethal hit, heals a share of the maximum and then rests for hours.
-/

namespace Adventurer.Passives

/-- Milliseconds by which a rescue shortens the cooldowns of spells. -/
def giftOfLifeCut : Nat := 60000

/-- Whether Gift of Life would cancel a hit: it is unlocked, rested, and the hit would kill. -/
def giftOfLifeReady (c : Character) (damage : Nat) : Bool :=
  c.passives.isUnlocked .giftOfLife && c.passives.stage .giftOfLife ≠ 0
    && c.passives.giftOfLifeCooldown = 0 && c.health.current ≤ damage

/-- The share of the maximum that a rescue heals, in percent. -/
def giftOfLifeHealing (stage : Nat) : Nat := ((ByStage.mk 20 25 30).at_ stage).toNat

/-- The hours for which Gift of Life rests after a rescue. -/
def giftOfLifeRest (stage : Nat) : Nat := ((ByStage.mk 30 24 18).at_ stage).toNat

/-- Saves the character from a lethal hit if it can; tells whether the hit is to be cancelled. -/
def triggerGiftOfLife (rules : Rules) (c : Character) (damage : Nat) : Told (Character × Bool) :=
  if giftOfLifeReady c damage then do
    let stage := c.passives.stage .giftOfLife
    let heal := c.health.maximum * giftOfLifeHealing stage / 100
    Told.tell (.text .eventAdvance
      "That was close! Fortunately, your were saved by the Gift of Life.")
    Told.tell .stats
    pure ({ c with
      health := c.health.setCurrent (addUpTo max32 c.health.current heal)
      combat :=
        { c.combat with
          conditions := c.combat.conditions.reduceCooldowns giftOfLifeCut rules.now }
      passives :=
        { c.passives with
          giftOfLifeCooldown := giftOfLifeRest stage * 3600
          cooldownClock := rules.now } }, true)
  else pure (c, false)

end Adventurer.Passives
