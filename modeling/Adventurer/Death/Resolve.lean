import Adventurer.Death.Assessment
import Adventurer.Death.Loss
import Adventurer.Progress.Gain

/-!
# Death

A death that costs something takes a share of experience, magic level and skills, takes blessings
and sends the character to its temple with full meters, or with little health under a black skull.
A free death only sends it there and makes the next one cost something.
-/

namespace Adventurer

namespace Footing

/-- Takes `lost` from what has been gathered, and gives back levels while it is not covered; the
lowest level is `floor`. -/
def recede (require : Nat → Nat) (floor : Nat) (f : Footing) (lost : Nat) : Footing :=
  if lost ≤ f.count then ⟨f.level, f.count - lost⟩
  else if _ : f.level ≤ floor then ⟨floor, 0⟩
  else recede require floor ⟨f.level - 1, require f.level⟩ (lost - f.count)
termination_by f.level

/-- All that has been gathered above a level: the requirements of the levels since and the count. -/
def gathered (require : Nat → Nat) (floor : Nat) (f : Footing) : Nat :=
  ((List.range' (floor + 1) (f.level - floor)).map require).foldr (· + ·) f.count

/-- The part of what has been gathered, as far as sixty-four bits hold it, that a loss takes. -/
def lostCount (require : Nat → Nat) (floor : Nat) (f : Footing) (loss : Float) : Nat :=
  Binary64.toCount (Binary64.ofNat (wrap max64 (f.gathered require floor)) * loss)

/-- The footing after a loss. -/
def lose (require : Nat → Nat) (floor : Nat) (f : Footing) (loss : Float) : Footing :=
  f.recede require floor (f.lostCount require floor loss)

end Footing

/-- What a death cost. -/
structure DeathOutcome where
  /-- Whether a corpse is left; loot drops without one where players kill in a zone for it. -/
  corpseDropped : Bool
  lossApplied : Float
  unfairFightReduction : Nat
  pvpDeath : Bool
  levelsLost : Nat

namespace Death

/-- Whether the death leaves a corpse. -/
def dropsCorpse (rules : Rules) (c : Character) (killer : Option CreatureView) : Bool :=
  !(rules.zoneOf c = .pvp && killer.any (·.isPlayerControlled))

/-- The character with its loss of magic booked. -/
def loseMagic (vocation : Vocation) (loss : Float) (c : Character) : Character :=
  let require := vocation.manaRequired
  let f := Footing.lose require 0 ⟨c.progress.magicLevel, c.progress.manaSpent⟩ loss
  { c with
    progress :=
      { c.progress with
        magicLevel := f.level, manaSpent := f.count, magicLevelPercent := f.percent require } }

/-- The record of a skill with its loss booked. -/
def loseSkill (vocation : Vocation) (loss : Float) (skill : Skill) (record : SkillRecord) :
    SkillRecord :=
  let require := vocation.skillTries skill
  let f := Footing.lose require Skill.startingLevel ⟨record.level, record.tries⟩ loss
  ⟨f.level, f.count, percentOf f.count (require (f.level + 1))⟩

/-- The character with the losses of all skills booked. -/
def loseSkills (vocation : Vocation) (loss : Float) (c : Character) : Character :=
  Skill.all.foldl
    (fun c skill =>
      { c with
        progress := c.progress.setSkill skill (loseSkill vocation loss skill (c.skill skill)) })
    c

/-- The last level at which a character with a vocation keeps its experience. -/
def lastShelteredLevel : Nat := 7

/-- Whether a death takes experience: not from a character of low level with a vocation. -/
def losesExperience (c : Character) (vocation : Option Vocation) : Bool :=
  vocation.all (·.id.isNone) || lastShelteredLevel < c.level

/-- Books the loss of experience, with the levels that go with it. -/
def loseExperience {σ : Type} (rules : Rules) (rates : Rates σ) (vocation : Option Vocation)
    (loss : Float) (c : Character) (s : σ) : Told (Booked σ) :=
  let (amount, s) :=
    rates.loss c (Binary64.toCount (Binary64.ofNat c.progress.experience * loss)) s
  if amount = 0 then pure ⟨c, s, 0⟩
  else do
    let before := c.level
    let c :=
      if losesExperience c vocation then c.withExperience (c.progress.experience - amount) else c
    let c := c.dropLevels rules vocation false
    let s ← Progress.reportDowngrade rates c before s
    pure ⟨c, s, before - c.level⟩

/-- Whether the killer is of the race whose kills count as blessed. -/
def isCharmed (c : Character) (killer : Option CreatureView) : Bool :=
  killer.any fun k =>
    k.kind = .monster && k.race.any fun race => c.charmRuneBless = some race

/-- The share lost once an unfair fight and a charm have lowered it. -/
def appliedLoss (rules : Rules) (c : Character) (killer : Option CreatureView)
    (vocation : Option Vocation) (reduction : Nat) : Float :=
  let loss := c.lossShare rules.config vocation * Binary64.ofNat reduction / 100.0
  if isCharmed c killer then loss * 90.0 / 100.0 else loss

/-- The character at its temple, with the fight behind it. -/
def atTemple (c : Character) : Character :=
  { c with
    place := c.temple
    combat :=
      { c.combat with conditions := c.combat.conditions.removePersistent, damage := .empty } }

/-- The meters with which a character wakes up. -/
def wakeUp (config : GameConfig) (c : Character) : Character :=
  if c.reputation.skull = .black then
    { c with
      health := c.health.setCurrent config.blackSkullDeathHealth.toNat
      mana := c.mana.setCurrent 0 }
  else { c with health := c.health.refill, mana := c.mana.refill }

/-- Takes one of each blessing; Twist of Fate guards only against deaths between players. -/
def stripBlessings (config : GameConfig) (pvpDeath : Bool) (c : Character) : Character :=
  let first := if pvpDeath then Blessings.twistOfFate + 1 else Blessings.twistOfFate
  { c with blessings := c.blessings.strip first config.maxBlessing }

/-- A death that costs nothing; the next one does. -/
def free (corpse : Bool) (c : Character) : Told (Character × DeathOutcome) := do
  let c := { c with health := c.health.refill, combat := { c.combat with skillLoss := true } }
  Told.tell (.movedToTemple c.temple)
  Told.tell .stats
  pure (atTemple c, ⟨corpse, 0.0, 100, false, 0⟩)

/-- The death of a character, killed by the last one to strike it. -/
def resolve {σ : Type} (rules : Rules) (rates : Rates σ) (c : Character)
    (killer : Option CreatureView) (s : σ) : Told (Character × σ × DeathOutcome) :=
  let corpse := dropsCorpse rules c killer
  if !c.combat.skillLoss then do
    let (c, outcome) ← free corpse c
    pure (c, s, outcome)
  else do
    let vocation := rules.vocationOf? c
    let fight := c.assessFight rules killer
    let loss := appliedLoss rules c killer vocation fight.unfairFightReduction
    let c := vocation.elim c fun v => loseSkills v loss (loseMagic v loss c)
    let ⟨c, s, levels⟩ ← loseExperience rules rates vocation loss c s
    let c := stripBlessings rules.config fight.pvpDeath c
    Told.tellAll [.stats, .skills, .reLoginWindow fight.unfairFightReduction, .blessStatus]
    pure (atTemple (wakeUp rules.config c), s,
      ⟨corpse, loss, fight.unfairFightReduction, fight.pvpDeath, levels⟩)

end Death

end Adventurer
