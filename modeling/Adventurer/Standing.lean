import Adventurer.Notice
import Adventurer.Rules

/-!
# Standing among players

Unjustified kills raise the skull of the killer: enough of them within a day, a week or a month make
it red, twice as many make it black.  Red and black skulls are borne until their time has run out
outside of a fight; the milder ones end with the fight.
-/

namespace Adventurer

/-- Unjustified kills that are not older than a day, a week and a month. -/
structure WindowKills where
  day : Nat
  week : Nat
  month : Nat
  deriving DecidableEq, Repr

namespace WindowKills

/-- The kills of a record that still count at a time. -/
def count (kills : List UnjustifiedKill) (now : Instant) : WindowKills :=
  let within (span : Nat) : Nat := kills.countP fun kill => now.since kill.time ≤ span
  ⟨within dayMillis, within (7 * dayMillis), within (30 * dayMillis)⟩

/-- Whether some window holds at least `times` the kills that lead to a red skull, the product taken in
thirty-two bits. -/
def reaches (k : WindowKills) (skulls : SkullConfig) (times : Nat) : Bool :=
  wrap max32 (times * skulls.dayKillsToRed) ≤ k.day
    || wrap max32 (times * skulls.weekKillsToRed) ≤ k.week
    || wrap max32 (times * skulls.monthKillsToRed) ≤ k.month

end WindowKills

namespace Character

/-- The character with its reputation changed. -/
def mapReputation (c : Character) (change : Reputation → Reputation) : Character :=
  { c with reputation := change c.reputation }

/-- The unjustified kills of the character that still count. -/
def windowKills (c : Character) (now : Instant) : WindowKills :=
  .count c.reputation.kills now

end Character

namespace Standing

/-- Changes the skull, and tells so if it is another one. -/
def setSkull (c : Character) (skull : Skull) : Told Character :=
  if c.reputation.skull = skull then pure c
  else do
    Told.tell (.skullChanged skull)
    pure (c.mapReputation fun r => { r with skull })

/-- Gives a skull that is borne for some milliseconds. -/
def sentence (c : Character) (skull : Skull) (duration : Nat) : Told Character := do
  let c ← setSkull c skull
  pure (c.mapReputation fun r => { r with skullTicks := duration })

/-- Raises the skull as far as the kills that count ask for; a black one stays. -/
def escalate (rules : Rules) (c : Character) : Told Character :=
  let skulls := rules.config.skulls
  let kills := c.windowKills rules.now
  if c.reputation.skull = .black then pure c
  else if kills.reaches skulls 2 then sentence c .black skulls.blackDuration
  else if kills.reaches skulls 1 then sentence c .red skulls.redDuration
  else pure c

/-- Whether the character takes part in fights between players, and with another than itself. -/
def isInvolved (c : Character) (other : CreatureId) : Bool :=
  !c.flags.has .notGainInFight && other ≠ c.id

/-- Records an unjustified kill and raises the skull. -/
def addUnjustifiedKill (rules : Rules) (c : Character) (target : CreatureId) (name : String) :
    Told Character :=
  if !isInvolved c target || rules.config.worldType = .pvpEnforced then pure c
  else do
    Told.tell (.text .warning ("Warning! The murder of " ++ name ++ " was not justified."))
    let c ← escalate rules (c.mapReputation fun r =>
      { r with kills := r.kills ++ [⟨target, rules.now, true⟩] })
    Told.tell .unjustifiedPoints
    pure c

/-- The victim has had its revenge: the kills of it are settled. -/
def onRetaliation (c : Character) (avenger : CreatureId) : Character :=
  c.mapReputation fun r =>
    { r with
      kills := r.kills.map fun kill =>
        if kill.target = avenger then { kill with unavenged := false } else kill }

/-- Whether a kill is still open: unavenged and young enough to be shown. -/
def isOpen (rules : Rules) (kill : UnjustifiedKill) : Bool :=
  kill.unavenged && rules.now.since kill.time < rules.config.skulls.orangeDuration

/-- Whether the character has an open kill of a creature. -/
def hasKilled (rules : Rules) (c : Character) (target : CreatureId) : Bool :=
  c.reputation.kills.any fun kill => kill.target = target && isOpen rules kill

/-- Whether the character has any open kill. -/
def hasOpenKills (rules : Rules) (c : Character) : Bool := c.reputation.kills.any (isOpen rules)

/-- Remembers a creature as attacked in the current fight. -/
def addAttacked (c : Character) (target : CreatureId) : Character :=
  if isInvolved c target then
    c.mapReputation fun r => { r with attacked := r.attacked.insert target }
  else c

def removeAttacked (c : Character) (target : CreatureId) : Character :=
  c.mapReputation fun r => { r with attacked := r.attacked.erase target }

def clearAttacked (c : Character) : Character := c.mapReputation fun r => { r with attacked := {} }

def hasAttacked (c : Character) (target : CreatureId) : Bool :=
  !c.flags.has .notGainInFight && c.reputation.attacked.contains target

/-- An attack on a player, which makes an unmarked attacker white in an open world unless the victim
is marked or has struck first. -/
def onAttackPlayer (rules : Rules) (c : Character) (target : CreatureId) (targetSkull : Skull)
    (targetStruckFirst : Bool) : Told Character :=
  if !isInvolved c target then pure c
  else
    let c := addAttacked c target
    if rules.config.worldType = .pvp && targetSkull = .none && !targetStruckFirst
        && c.reputation.skull = .none then
      setSkull c .white
    else pure c

/-- Counts the time of the skull down and takes it away once it has run out outside of a fight. -/
def checkSkull (c : Character) (elapsed : Nat) (inFight : Bool) : Told Character :=
  let left := max 0 (clampInt minInt64 maxInt64
    (c.reputation.skullTicks - min (elapsed : Int) maxInt64))
  let c := c.mapReputation fun r => { r with skullTicks := left }
  if c.reputation.skull.isSticky && left < 1 && !inFight then setSkull c .none else pure c

/-- The skull that a viewer sees.  Marks between two players show only on a character without a
skull of its own, and skulls only in open worlds. -/
def clientSkull (rules : Rules) (c : Character) (viewer : CreatureId) (sameParty : Bool) : Skull :=
  if rules.config.worldType ≠ .pvp then .none
  else if c.reputation.skull ≠ .none then c.reputation.skull
  else if (c.id = viewer && hasOpenKills rules c) || hasKilled rules c viewer then .orange
  else if hasAttacked c viewer then .yellow
  else if sameParty then .green
  else .none

/-- The fight is over: protection zones open, attacks are forgotten and mild skulls end. -/
def onFightEnd (c : Character) : Told Character :=
  let c := clearAttacked { c with combat := { c.combat with pzLocked := false } }
  if c.reputation.skull.isSticky then pure c else setSkull c .none

end Standing

end Adventurer
