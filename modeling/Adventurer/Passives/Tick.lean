import Adventurer.Notice
import Adventurer.Passives.Evaluation

/-!
# The combat tick

In a fight the periodic passives are evaluated again when their deadline has come; outside of it
every major stat drops to zero.  The client is told exactly when some major stat has changed.
-/

namespace Adventurer.Passives

/-- Counts the cooldown of Gift of Life down by the whole seconds since it was counted last. -/
def tickGiftOfLife (c : Character) (now : Instant) : Character :=
  c.mapPassives fun p =>
    if p.giftOfLifeCooldown = 0 then { p with cooldownClock := now }
    else
      let seconds := now.since p.cooldownClock / 1000
      { p with
        giftOfLifeCooldown := p.giftOfLifeCooldown - seconds
        cooldownClock := p.cooldownClock.later (seconds * 1000) }

/-- Whether a passive is to be evaluated: it is unlocked, and its deadline has come or does not
matter. -/
def isDue (rules : Rules) (force : Bool) (c : Character) (passive : Passive) : Bool :=
  c.passives.isUnlocked passive && (force || c.passives.deadline passive ≤ rules.now)

/-- Evaluates one passive if it is due, and sets its next deadline; adds to what has been said of the
passives before whether a major stat has changed. -/
def refreshOne (rules : Rules) (a : Arena) (force : Bool) (done : Character × Bool)
    (passive : Passive) : Character × Bool :=
  let (c, moved) := done
  if isDue rules force c passive then
    let (c, changed) := evaluate rules a passive c
    (c.mapPassives (·.setDeadline passive (rules.config.nextPassiveDeadline rules.now)),
      moved || changed)
  else done

/-- Evaluates those of the listed passives that are due; says whether a major stat has
changed. -/
def refresh (rules : Rules) (a : Arena) (passives : List Passive) (force : Bool) (c : Character) :
    Character × Bool :=
  passives.foldl (refreshOne rules a force) (c, false)

/-- Every major stat of a character at zero, and whether one was not. -/
def reset (c : Character) : Character × Bool :=
  (c.mapPassives (·.resetMajors), c.passives.anyMajor)

/-- Tells the client to read skills and stats again if a major stat has changed. -/
def resync (done : Character × Bool) : Told (Character × Bool) := do
  if done.2 then
    Told.tell .skills
    Told.tell .stats
  pure done

/-- Whether the overlay rests: out of a fight, in a protection zone, or with nothing to count or
evaluate. -/
def rests (rules : Rules) (c : Character) : Bool :=
  !c.isInFight rules.now
    || (!c.passives.anyPeriodicUnlocked && c.passives.giftOfLifeCooldown = 0)
    || rules.zoneOf c = .protection

/-- One combat tick: major stats drop to zero while the overlay rests, and are evaluated where due,
or all of them by `force`, while it does not. -/
def onCombatTick (rules : Rules) (a : Arena) (force : Bool) (c : Character) :
    Told (Character × Bool) :=
  let c := tickGiftOfLife c rules.now
  if rests rules c then resync (reset c)
  else resync (refresh rules a Passive.periodic force c)

/-- The passives that every aggressive act refreshes. -/
def inFightPassives : List Passive := [.battleInstinct, .positionalTactics, .ballisticMastery]

/-- An aggressive act: refreshes the passives of the fight, closes protection zones if asked to and
lengthens the fight. -/
def addInFightTicks (rules : Rules) (a : Arena) (pzLock : Bool) (c : Character) :
    Told Character := do
  let (c, _) ← resync (refresh rules a inFightPassives false c)
  if c.flags.has .notGainInFight then pure c
  else
    let p := c.combat
    let ends := rules.now.later rules.config.pzLockedMillis
    pure { c with
      combat :=
        { p with
          pzLocked := p.pzLocked || pzLock
          conditions := p.conditions.add (.timed .inFight ends) } }

end Adventurer.Passives
