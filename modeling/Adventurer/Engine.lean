import Adventurer.Death.Resolve
import Adventurer.Dressing.Transaction
import Adventurer.Passives.GiftOfLife
import Adventurer.Progress.Training
import Adventurer.Schedule
import Adventurer.Standing
import Adventurer.Stats.Absorb

/-!
# The engine of one character

Everything that can happen to a character within one tick: the rules of that tick and the hooks of
the host act on the character, its items and the states of the hooks.
-/

namespace Adventurer

/-- The rules of one tick with the hooks of the host. -/
structure Engine (σ τ : Type) where
  rules : Rules
  hook : EquipHook σ
  rates : Rates τ

/-- What an engine acts on: the wearer and the states of the two hooks. -/
structure Situation (σ τ : Type) where
  wearer : Wearer
  hook : σ
  rates : τ

/-- Work that can be put off. -/
inductive ScheduledAction where
  | equip (request : EquipRequest)
  | unequip (slot : Slot) (count : Nat)
  /-- Evaluate every unlocked passive, whatever its deadline. -/
  | forceRefresh
  deriving DecidableEq, Repr

namespace Situation

variable {σ τ : Type}

def character (s : Situation σ τ) : Character := s.wearer.character

def arena (s : Situation σ τ) : Arena := s.wearer.arena

/-- The situation with another character. -/
def withCharacter (s : Situation σ τ) (c : Character) : Situation σ τ :=
  { s with wearer := { s.wearer with character := c } }

/-- Takes over a booking; what is left is the number of levels. -/
def take (s : Situation σ τ) (booked : Booked τ) : Situation σ τ × Nat :=
  ({ s.withCharacter booked.character with rates := booked.rates }, booked.levels)

end Situation

namespace Engine

/-- The engine of a host without hooks. -/
def plain (rules : Rules) : Engine Unit Unit := ⟨rules, .idle, .base⟩

variable {σ τ : Type} (e : Engine σ τ) (s : Situation σ τ)

/-- The derived stats as they are now. -/
def derivedStats : DerivedStats := e.rules.derivedStats s.character s.arena

/-- Absorbs a hit; items that spend their last charge are destroyed. -/
def absorb (hit : Hit) : Told (Situation σ τ × Absorbed) := do
  let (arena, absorbed) := hit.absorb e.rules s.character s.arena
  let wearer ← Wearer.discard e.rules { s.wearer with arena } absorbed.exhausted
  pure ({ s with wearer }, absorbed)

def equip (request : EquipRequest) : Told (Situation σ τ × Except Refusal EquipOutcome) := do
  let (wearer, hook, result) ← Dressing.tryEquip e.rules e.hook s.wearer request s.hook
  pure ({ s with wearer, hook }, result)

def unequip (slot : Slot) (count : Nat) : Told (Situation σ τ × Except Refusal ItemId) := do
  let (wearer, hook, result) ← Dressing.tryUnequip e.rules e.hook s.wearer slot count s.hook
  pure ({ s with wearer, hook }, result)

/-- Adds experience; the levels gained are returned. -/
def addExperience (amount : Nat) (source : Option CreatureId) (announce : Bool) :
    Told (Situation σ τ × Nat) :=
  s.take <$> Progress.addExperience e.rules e.rates s.character amount source announce s.rates

/-- Takes experience; the levels lost are returned. -/
def removeExperience (amount : Nat) (announce : Bool) : Told (Situation σ τ × Nat) :=
  s.take <$> Progress.removeExperience e.rules e.rates s.character amount announce s.rates

def addSkillTries (skill : Skill) (count : Nat) : Told (Situation σ τ × Nat) :=
  s.take <$> Progress.addSkillTries e.rules e.rates s.character skill count s.rates

def addManaSpent (amount : Nat) : Told (Situation σ τ × Nat) :=
  s.take <$> Progress.addManaSpent e.rules e.rates s.character amount s.rates

def addOfflineTries (track : Track) (tries : Nat) : Told (Situation σ τ × Nat) :=
  s.take <$> Progress.addOfflineTries e.rules e.rates s.character track tries s.rates

/-- The character blocked a hit. -/
def onBlockHit : Told (Situation σ τ) :=
  (fun booked => (s.take booked).1) <$>
    Progress.onBlockHit e.rules e.rates s.character s.arena s.rates

/-- An attack of the character was blocked. -/
def onAttackBlocked (block : BlockType) : Situation σ τ :=
  s.withCharacter (Progress.onAttackBlocked s.character block)

/-- Brings the passive overlay up to date; says whether it changed. -/
def combatTick (force : Bool) : Told (Situation σ τ × Bool) := do
  let (c, changed) ← Passives.onCombatTick e.rules s.arena force s.character
  pure (s.withCharacter c, changed)

/-- An aggressive act of the character. -/
def enterFight (pzLock : Bool) : Told (Situation σ τ) :=
  s.withCharacter <$> Passives.addInFightTicks e.rules s.arena pzLock s.character

/-- Saves the character from a lethal hit if Gift of Life can. -/
def triggerGiftOfLife (damage : Nat) : Told (Situation σ τ × Bool) := do
  let (c, saved) ← Passives.triggerGiftOfLife e.rules s.character damage
  pure (s.withCharacter c, saved)

/-- Takes damage off health unless Gift of Life saves the character; says whether it is alive. -/
def applyDamage (damage : Nat) : Told (Situation σ τ × Bool) := do
  if damage = 0 then pure (s, true)
  else
    let (s, saved) ← e.triggerGiftOfLife s damage
    if saved then pure (s, true)
    else
      let c := s.character
      let health := c.health.setCurrent (c.health.current - damage)
      Told.tell .stats
      pure (s.withCharacter { c with health }, 0 < health.current)

/-- The character dies. -/
def die (killer : Option CreatureView) : Told (Situation σ τ × DeathOutcome) := do
  let (c, rates, outcome) ← Death.resolve e.rules e.rates s.character killer s.rates
  pure ({ s.withCharacter c with rates }, outcome)

def addUnjustifiedKill (target : CreatureId) (name : String) : Told (Situation σ τ) :=
  s.withCharacter <$> Standing.addUnjustifiedKill e.rules s.character target name

/-- A victim of the character has had its revenge. -/
def onRetaliation (avenger : CreatureId) : Situation σ τ :=
  s.withCharacter (Standing.onRetaliation s.character avenger)

/-- The character attacks a player. -/
def onAttackPlayer (target : CreatureId) (targetSkull : Skull) (targetStruckFirst : Bool) :
    Told (Situation σ τ) :=
  s.withCharacter <$>
    Standing.onAttackPlayer e.rules s.character target targetSkull targetStruckFirst

/-- Drops the conditions that have ended, and ends the fight with the last of it. -/
def expire (c : Character) : Told Character :=
  let now := e.rules.now
  let conditions := c.combat.conditions.removeExpired now
  let left := { c with combat := { c.combat with conditions } }
  if .inFight ∈ c.combat.conditions.expired now then do
    let c ← Standing.onFightEnd left
    pure { c with combat := c.combat.pruneDamage now e.rules.config.inFightWindowMillis }
  else pure left

/-- One tick: conditions end, skull time runs and the overlay is brought up to date; says whether
the overlay changed. -/
def tick (elapsed : Nat) : Told (Situation σ τ × Bool) := do
  let c ← e.expire s.character
  let c ← Standing.checkSkull c elapsed (c.isInFight e.rules.now)
  e.combatTick (s.withCharacter c) false

/-- Carries out one scheduled action; a move that is refused changes nothing. -/
def carryOut : ScheduledAction → Told (Situation σ τ)
  | .equip request => Prod.fst <$> e.equip s request
  | .unequip slot count => Prod.fst <$> e.unequip s slot count
  | .forceRefresh => Prod.fst <$> e.combatTick s true

/-- Carries out scheduled actions one after the other. -/
def carryOutAll (actions : List ScheduledAction) : Told (Situation σ τ) :=
  actions.foldlM e.carryOut s

/-- Runs every scheduled action that is due; says how many ran. -/
def runDue (schedule : Schedule ScheduledAction) :
    Told (Situation σ τ × Schedule ScheduledAction × Nat) := do
  let (schedule, due) := schedule.drainDue e.rules.now
  let s ← e.carryOutAll s (due.map (·.2))
  pure (s, schedule, due.length)

end Engine

end Adventurer
