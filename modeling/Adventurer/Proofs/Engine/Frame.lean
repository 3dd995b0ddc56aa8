import Adventurer.Proofs.Dressing.Frame
import Adventurer.Proofs.Dressing.Steps
import Adventurer.Proofs.Engine.Operations
import Adventurer.Proofs.Progress.Frame
import Adventurer.Proofs.Standing.Frame

/-!
# What operations touch

Only moves of items, hits and scheduled work touch what is worn and what lies in the arena; any other
operation leaves them alone, and the weight of the inventory with them (`Wearer.Unmoved`).
-/

namespace Adventurer

variable {σ τ : Type} {w v u : Wearer} {c d : Character}

/-- An aggressive act writes the passives, the lock and the conditions. -/
theorem Passives.value_addInFightTicks (rules : Rules) (a : Arena) (pzLock : Bool) (c : Character) :
    ∃ passives, (addInFightTicks rules a pzLock c).value =
      if c.flags.has .notGainInFight then { c with passives }
      else { c with
        passives
        combat :=
          { c.combat with
            pzLocked := c.combat.pzLocked || pzLock
            conditions :=
              c.combat.conditions.add (.timed .inFight (rules.now.later rules.config.pzLockedMillis)) } } := by
  obtain ⟨p, hp⟩ := onlyPassives_refresh rules a false inFightPassives c
  refine ⟨p, ?_⟩
  unfold addInFightTicks
  rw [Told.value_bind, value_resync]
  simp only [hp]
  split_ifs <;> rfl

/-- A rescue writes the health, the conditions and the passives. -/
theorem Passives.value_triggerGiftOfLife (rules : Rules) (c : Character) (damage : Nat) :
    ∃ health passives, (triggerGiftOfLife rules c damage).value.1 =
      if giftOfLifeReady c damage then { c with
        health
        passives
        combat :=
          { c.combat with
            conditions := c.combat.conditions.reduceCooldowns giftOfLifeCut rules.now } }
      else c := by
  unfold triggerGiftOfLife
  split_ifs
  · exact ⟨_, _, rfl⟩
  · exact ⟨c.health, c.passives, rfl⟩

namespace Wearer

/-- What is worn, what lies in the arena and the weight of the inventory are the same. -/
structure Unmoved (w v : Wearer) : Prop where
  arena : v.arena = w.arena
  equipment : v.character.equipment = w.character.equipment
  inventoryWeight : v.character.inventoryWeight = w.character.inventoryWeight

theorem Unmoved.refl (w : Wearer) : Unmoved w w := ⟨rfl, rfl, rfl⟩

theorem Unmoved.trans (h : Unmoved w v) (h' : Unmoved v u) : Unmoved w u :=
  ⟨h'.arena.trans h.arena, h'.equipment.trans h.equipment, h'.inventoryWeight.trans h.inventoryWeight⟩

theorem unmoved_of_onlyProgress (a : Arena) (h : OnlyProgress c d) : Unmoved ⟨c, a⟩ ⟨d, a⟩ := by
  obtain ⟨_, _, _, _, _, rfl⟩ := h
  exact ⟨rfl, rfl, rfl⟩

theorem unmoved_of_onlyPassives (a : Arena) (h : Passives.OnlyPassives c d) : Unmoved ⟨c, a⟩ ⟨d, a⟩ := by
  obtain ⟨_, rfl⟩ := h
  exact ⟨rfl, rfl, rfl⟩

theorem unmoved_of_onlyReputation (a : Arena) (h : OnlyReputation c d) : Unmoved ⟨c, a⟩ ⟨d, a⟩ := by
  obtain ⟨_, rfl⟩ := h
  exact ⟨rfl, rfl, rfl⟩

end Wearer

namespace Engine

open Wearer

variable {e : Engine σ τ} {s : Situation σ τ}

/-- The combat of a character without what has ended, and without the lock and the old blows of a fight that
has. -/
def combatLeft (e : Engine σ τ) (p : CombatProfile) : CombatProfile :=
  let left := { p with conditions := p.conditions.removeExpired e.rules.now }
  if .inFight ∈ p.conditions.expired e.rules.now then
    { left with pzLocked := false }.pruneDamage e.rules.now e.rules.config.inFightWindowMillis
  else left

/-- Dropping what has ended writes no more of the combat than that, and may end a mild skull. -/
theorem value_expire (e : Engine σ τ) (c : Character) :
    ∃ reputation, (e.expire c).value = { c with combat := e.combatLeft c.combat, reputation } := by
  unfold combatLeft
  by_cases ended : .inFight ∈ c.combat.conditions.expired e.rules.now
  · obtain ⟨r, hr⟩ := Standing.onlyReputation_onFightEnd { c with
      combat := { c.combat with conditions := c.combat.conditions.removeExpired e.rules.now } }
    simp only [expire, if_pos ended, Told.value_bind, Told.value_pure, hr]
    exact ⟨_, rfl⟩
  · simp only [expire, if_neg ended, Told.value_pure]
    exact ⟨_, rfl⟩

theorem combat_expire (e : Engine σ τ) (c : Character) : (e.expire c).value.combat = e.combatLeft c.combat := by
  obtain ⟨_, h⟩ := value_expire e c
  rw [h]

/-- After what has ended is gone, a tick writes the skull and the passives. -/
theorem value_tick (e : Engine σ τ) (s : Situation σ τ) (elapsed : Nat) :
    ∃ reputation passives, (e.tick s elapsed).value.1 =
      s.withCharacter { (e.expire s.character).value with reputation, passives } := by
  obtain ⟨r, hr⟩ := Standing.onlyReputation_checkSkull (e.expire s.character).value elapsed
    ((e.expire s.character).value.isInFight e.rules.now)
  obtain ⟨p, hp⟩ := Passives.onlyPassives_onCombatTick e.rules s.arena false
    (Standing.checkSkull (e.expire s.character).value elapsed
      ((e.expire s.character).value.isInFight e.rules.now)).value
  have hvalue : (e.tick s elapsed).value.1 = s.withCharacter
      (Passives.onCombatTick e.rules s.arena false (Standing.checkSkull (e.expire s.character).value elapsed
        ((e.expire s.character).value.isInFight e.rules.now)).value).value.1 := rfl
  rw [hvalue, hp, hr]
  exact ⟨r, p, rfl⟩

section Calls

variable {P : Character → Prop} (hwear : ∀ c d, OnlyEquipment c d → P c → P d)
  (hpassives : ∀ c d, Passives.OnlyPassives c d → P c → P d)
  (hrefresh : ∀ rules (v : Wearer), P v.character → P (v.refresh rules).value.character)
  (hon : ∀ c id slot t, P c → P (e.hook.onEquip c id slot t).1)
  (hoff : ∀ c id slot t, P c → P (e.hook.onUnequip c id slot t).1)

include hwear hpassives hrefresh hon hoff

/-- What moves, updates, passives and the hook keep, a deed keeps. -/
theorem perform_induction (hs : P s.character) (d : Deed) : P (e.perform s d).value.character := by
  cases d with
  | absorb hit =>
    exact (discard_updates (w := { s.wearer with arena := (hit.absorb e.rules s.character s.arena).1 }) hwear
      (hrefresh e.rules) _ hs).elim And.right id
  | act action =>
    cases action with
    | equip request => exact Dressing.tryEquip_induction hwear (hrefresh e.rules) hon hoff hs request
    | unequip slot count => exact Dressing.tryUnequip_induction hwear (hrefresh e.rules) hoff hs slot count
    | forceRefresh => exact hpassives _ _ (Passives.onlyPassives_onCombatTick e.rules s.arena true s.character) hs

/-- The same of all deeds of a call. -/
theorem answer_induction (hs : P s.character) (call : Call) : P (e.answer s call).value.character := by
  rw [value_answer]
  generalize call.deeds e.rules.now = deeds
  induction deeds generalizing s with
  | nil => exact hs
  | cons d deeds ih => exact ih (perform_induction hwear hpassives hrefresh hon hoff hs d)

end Calls

/-! ## Operations -/

/-- The deeds of an operation, all of which are asked for by a call. -/
def Operation.deeds (now : Instant) : Operation → List Deed
  | .call asked => asked.deeds now
  | _ => []

theorem unmoved_tick (e : Engine σ τ) (s : Situation σ τ) (elapsed : Nat) :
    Unmoved s.wearer (e.tick s elapsed).value.1.wearer := by
  obtain ⟨_, _, htick⟩ := value_tick e s elapsed
  obtain ⟨_, hexpire⟩ := value_expire e s.character
  rw [htick, hexpire]
  exact ⟨rfl, rfl, rfl⟩

theorem unmoved_triggerGiftOfLife (e : Engine σ τ) (s : Situation σ τ) (damage : Nat) :
    Unmoved s.wearer (e.triggerGiftOfLife s damage).value.1.wearer := by
  obtain ⟨_, _, h⟩ := Passives.value_triggerGiftOfLife e.rules s.character damage
  have hvalue : (e.triggerGiftOfLife s damage).value.1 =
      s.withCharacter (Passives.triggerGiftOfLife e.rules s.character damage).value.1 := rfl
  rw [hvalue, h]
  split_ifs <;> exact ⟨rfl, rfl, rfl⟩

/-- What a rescue and another health keep, damage keeps. -/
theorem applyDamage_induction {P : Situation σ τ → Prop} (damage : Nat)
    (hrescue : P s → P (e.triggerGiftOfLife s damage).value.1)
    (hhealth : ∀ t health, P t → P (t.withCharacter { t.character with health })) (hs : P s) :
    P (e.applyDamage s damage).value.1 := by
  unfold applyDamage
  split_ifs
  · exact hs
  · rw [Told.value_bind]
    simp only
    split_ifs
    · exact hrescue hs
    · exact hhealth _ _ (hrescue hs)

theorem unmoved_applyDamage (e : Engine σ τ) (s : Situation σ τ) (damage : Nat) :
    Unmoved s.wearer (e.applyDamage s damage).value.1.wearer :=
  applyDamage_induction (P := fun t => Unmoved s.wearer t.wearer) damage
    (fun _ => unmoved_triggerGiftOfLife e s damage) (fun _ _ ht => ht.trans ⟨rfl, rfl, rfl⟩) (.refl _)

theorem unmoved_blockHit (e : Engine σ τ) (s : Situation σ τ) :
    Unmoved s.wearer (e.onBlockHit s).value.wearer := by
  obtain ⟨_, hblock⟩ := Progress.onlyProgress_onBlockHit e.rules e.rates s.character s.rates s.arena
  have hunmoved := unmoved_of_onlyProgress s.arena hblock
  exact ⟨hunmoved.arena, hunmoved.equipment, hunmoved.inventoryWeight⟩

theorem unmoved_enterFight (e : Engine σ τ) (s : Situation σ τ) (pzLock : Bool) :
    Unmoved s.wearer (e.enterFight s pzLock).value.wearer := by
  obtain ⟨_, h⟩ := Passives.value_addInFightTicks e.rules s.arena pzLock s.character
  have hvalue : (e.enterFight s pzLock).value =
      s.withCharacter (Passives.addInFightTicks e.rules s.arena pzLock s.character).value := rfl
  rw [hvalue, h]
  split_ifs <;> exact ⟨rfl, rfl, rfl⟩

theorem unmoved_die (e : Engine σ τ) (s : Situation σ τ) (killer : Option CreatureView) :
    Unmoved s.wearer (e.die s killer).value.1.wearer := by
  have hvalue : (e.die s killer).value.1.wearer =
      ⟨(Death.resolve e.rules e.rates s.character killer s.rates).value.1, s.arena⟩ := rfl
  rw [hvalue]
  rcases Death.character_resolve e.rules e.rates s.character s.rates killer with
    ⟨-, h⟩ | ⟨d, blessings, hprogress, h⟩
  · rw [h]
    exact ⟨rfl, rfl, rfl⟩
  · rw [h]
    exact (unmoved_of_onlyProgress s.arena hprogress).trans ⟨rfl, rfl, rfl⟩

/-- **What an operation does besides its deeds.**  Nothing to what is worn, to the arena and to the weight
of the inventory. -/
theorem unmoved_operate (e : Engine σ τ) (s : Situation σ τ) (o : Operation) :
    Unmoved (after s ((o.deeds e.rules.now).map (e, ·))).wearer (e.operate s o).value.wearer := by
  cases o with
  | call call =>
    show Unmoved (after s ((call.deeds e.rules.now).map (e, ·))).wearer (e.answer s call).value.wearer
    rw [value_answer]
    exact .refl _
  | addExperience amount source announce =>
    exact unmoved_of_onlyProgress s.arena (Progress.onlyProgress_addExperience _ _ _ _ amount source announce)
  | removeExperience amount announce =>
    exact unmoved_of_onlyProgress s.arena (Progress.onlyProgress_removeExperience _ _ _ _ amount announce)
  | addSkillTries skill count =>
    exact unmoved_of_onlyProgress s.arena (Progress.onlyProgress_addTries _ _ _ _ (.skill skill) count)
  | addManaSpent amount =>
    exact unmoved_of_onlyProgress s.arena (Progress.onlyProgress_addTries _ _ _ _ .magicLevel amount)
  | addOfflineTries track tries =>
    exact unmoved_of_onlyProgress s.arena (Progress.onlyProgress_addOfflineTries _ _ _ _ track tries)
  | blockHit => exact unmoved_blockHit e s
  | attackBlocked block =>
    obtain ⟨_, _, _, hblock⟩ := Progress.character_onAttackBlocked s.character block
    show Unmoved s.wearer ⟨Progress.onAttackBlocked s.character block, s.arena⟩
    rw [hblock]
    exact ⟨rfl, rfl, rfl⟩
  | combatTick force =>
    exact unmoved_of_onlyPassives s.arena (Passives.onlyPassives_onCombatTick _ _ force _)
  | enterFight pzLock => exact unmoved_enterFight e s pzLock
  | triggerGiftOfLife damage => exact unmoved_triggerGiftOfLife e s damage
  | applyDamage damage => exact unmoved_applyDamage e s damage
  | die killer => exact unmoved_die e s killer
  | addUnjustifiedKill target name =>
    exact unmoved_of_onlyReputation s.arena (Standing.onlyReputation_addUnjustifiedKill _ _ target name)
  | retaliation avenger => exact ⟨rfl, rfl, rfl⟩
  | attackPlayer target skull struckFirst =>
    exact unmoved_of_onlyReputation s.arena
      (Standing.onlyReputation_onAttackPlayer _ _ target skull struckFirst)
  | tick elapsed => exact unmoved_tick e s elapsed

end Engine

end Adventurer
