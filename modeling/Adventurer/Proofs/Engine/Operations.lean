import Adventurer.Proofs.Engine.Runs

/-!
# Operations

Everything that an engine can be asked for and that changes something, as data, so that runs of it can be
spoken of.  Questions such as that for the derived stats change nothing and are left out.
-/

namespace Adventurer

variable {σ τ : Type}

namespace Engine

/-- What can be asked of an engine. -/
inductive Operation where
  /-- A move of items, a hit to absorb, or scheduled work that is due. -/
  | call (call : Call)
  | addExperience (amount : Nat) (source : Option CreatureId) (announce : Bool)
  | removeExperience (amount : Nat) (announce : Bool)
  | addSkillTries (skill : Skill) (count : Nat)
  | addManaSpent (amount : Nat)
  | addOfflineTries (track : Track) (tries : Nat)
  | blockHit
  | attackBlocked (block : BlockType)
  | combatTick (force : Bool)
  | enterFight (pzLock : Bool)
  | triggerGiftOfLife (damage : Nat)
  | applyDamage (damage : Nat)
  | die (killer : Option CreatureView)
  | addUnjustifiedKill (target : CreatureId) (name : String)
  | retaliation (avenger : CreatureId)
  | attackPlayer (target : CreatureId) (skull : Skull) (struckFirst : Bool)
  | tick (elapsed : Nat)

/-- Carries out an operation; what it answers besides the state is left out. -/
def operate (e : Engine σ τ) (s : Situation σ τ) : Operation → Told (Situation σ τ)
  | .call call => e.answer s call
  | .addExperience amount source announce => Prod.fst <$> e.addExperience s amount source announce
  | .removeExperience amount announce => Prod.fst <$> e.removeExperience s amount announce
  | .addSkillTries skill count => Prod.fst <$> e.addSkillTries s skill count
  | .addManaSpent amount => Prod.fst <$> e.addManaSpent s amount
  | .addOfflineTries track tries => Prod.fst <$> e.addOfflineTries s track tries
  | .blockHit => e.onBlockHit s
  | .attackBlocked block => pure (onAttackBlocked s block)
  | .combatTick force => Prod.fst <$> e.combatTick s force
  | .enterFight pzLock => e.enterFight s pzLock
  | .triggerGiftOfLife damage => Prod.fst <$> e.triggerGiftOfLife s damage
  | .applyDamage damage => Prod.fst <$> e.applyDamage s damage
  | .die killer => Prod.fst <$> e.die s killer
  | .addUnjustifiedKill target name => e.addUnjustifiedKill s target name
  | .retaliation avenger => pure (onRetaliation s avenger)
  | .attackPlayer target skull struckFirst => e.onAttackPlayer s target skull struckFirst
  | .tick elapsed => Prod.fst <$> e.tick s elapsed

/-- A list of operations, each with the rules and the hooks of its own tick. -/
abbrev Course (σ τ : Type) := List (Engine σ τ × Operation)

/-- The state after one operation of a course. -/
def advance (s : Situation σ τ) (o : Engine σ τ × Operation) : Situation σ τ := (o.1.operate s o.2).value

/-- The state after a course. -/
def arrived (s : Situation σ τ) (course : Course σ τ) : Situation σ τ := course.foldl advance s

end Engine

end Adventurer
