import Adventurer.Proofs.Character.Conditions
import Adventurer.Proofs.Dressing.Frame
import Adventurer.Proofs.Engine.Frame
import Adventurer.Proofs.Engine.Ownership

/-!
# The protection-zone lock

An aggressive act may close protection zones to a character; the tick at which the fight runs out opens them
again.  So a lock should not be borne without a condition that a tick can find ended (`Guarded`).  Every
operation keeps that but two: a death takes the condition and leaves the lock, and an aggressive act locks
although a full set of conditions has no room for the fight (`Operation.Strands`).
-/

namespace Adventurer

variable {σ τ : Type}

/-! ## Guarded locks -/

/-- A lock is borne only in a fight, ended or not: there is a condition at whose end it opens. -/
def Guarded (c : Character) : Prop :=
  c.combat.pzLocked = true → c.combat.conditions.holds .inFight = true

theorem guarded_of_unlocked {c : Character} (h : c.combat.pzLocked = false) : Guarded c := fun hlocked => by
  rw [h] at hlocked
  cases hlocked

/-- The reports of the hook keep locks guarded. -/
structure EquipHook.KeepsGuard (hook : EquipHook σ) : Prop where
  onEquip : ∀ c id slot s, Guarded c → Guarded (hook.onEquip c id slot s).1
  onUnequip : ∀ c id slot s, Guarded c → Guarded (hook.onUnequip c id slot s).1

theorem EquipHook.keepsGuard_idle : EquipHook.idle.KeepsGuard := ⟨fun _ _ _ _ h => h, fun _ _ _ _ h => h⟩

section Frames

variable {c d : Character}

theorem OnlyProgress.guarded (h : OnlyProgress c d) (hc : Guarded c) : Guarded d := by
  obtain ⟨_, _, _, _, _, rfl⟩ := h
  exact hc

theorem OnlyEquipment.guarded (h : OnlyEquipment c d) (hc : Guarded c) : Guarded d := by
  obtain ⟨_, rfl⟩ := h
  exact hc

theorem OnlyReputation.guarded (h : OnlyReputation c d) (hc : Guarded c) : Guarded d := by
  obtain ⟨_, rfl⟩ := h
  exact hc

theorem Passives.OnlyPassives.guarded (h : Passives.OnlyPassives c d) (hc : Guarded c) : Guarded d := by
  obtain ⟨_, rfl⟩ := h
  exact hc

theorem Wearer.guarded_refresh (rules : Rules) (w : Wearer) (hw : Guarded w.character) :
    Guarded (w.refresh rules).value.character := by
  obtain ⟨_, _, _, h⟩ := w.character_refresh rules
  rw [h]
  exact hw

end Frames

namespace Engine

/-- Whether an operation leaves a lock without a fight: a death that takes every condition of it from a
locked character, or an aggressive act that locks while there is no room for the fight. -/
def Operation.Strands (c : Character) : Operation → Prop
  | .die _ => c.combat.pzLocked = true ∧ c.combat.conditions.removePersistent.holds .inFight = false
  | .enterFight pzLock => pzLock = true ∧ c.flags.has .notGainInFight = false ∧
      c.combat.conditions.holds .inFight = false ∧ ConditionSet.capacity ≤ c.combat.conditions.conditions.length
  | _ => False

variable {e : Engine σ τ} {s : Situation σ τ}

/-! ## Single operations -/

theorem guarded_answer (hk : e.hook.KeepsGuard) (hs : Guarded s.character) (call : Call) :
    Guarded (e.answer s call).value.character :=
  answer_induction (fun _ _ h hc => h.guarded hc) (fun _ _ h hc => h.guarded hc)
    (fun rules w h => w.guarded_refresh rules h) hk.onEquip hk.onUnequip hs call

/-- A death keeps the lock and drops the conditions that do not outlive their bearer. -/
theorem guarded_die_iff (killer : Option CreatureView) :
    Guarded (e.die s killer).value.1.character ↔ ¬ (Operation.die killer).Strands s.character := by
  have hcombat : (e.die s killer).value.1.character.combat.pzLocked = s.character.combat.pzLocked ∧
      (e.die s killer).value.1.character.combat.conditions =
        s.character.combat.conditions.removePersistent := by
    have hcharacter : (e.die s killer).value.1.character =
        (Death.resolve e.rules e.rates s.character killer s.rates).value.1 := rfl
    rw [hcharacter]
    rcases Death.character_resolve e.rules e.rates s.character s.rates killer with
      ⟨-, h⟩ | ⟨d, blessings, ⟨_, _, _, _, _, rfl⟩, h⟩
    · rw [h]
      exact ⟨rfl, rfl⟩
    · rw [h]
      exact ⟨rfl, rfl⟩
  unfold Guarded Operation.Strands
  rw [hcombat.1, hcombat.2, not_and, Bool.not_eq_false]

/-- An aggressive act that locks fails to be followed by the fight only where there is no room. -/
theorem guarded_enterFight_iff (hs : Guarded s.character) (pzLock : Bool) :
    Guarded (e.enterFight s pzLock).value.character ↔ ¬ (Operation.enterFight pzLock).Strands s.character := by
  have hcharacter : (e.enterFight s pzLock).value.character =
      (Passives.addInFightTicks e.rules s.arena pzLock s.character).value := rfl
  obtain ⟨p, hp⟩ := Passives.value_addInFightTicks e.rules s.arena pzLock s.character
  rw [hcharacter, hp]
  unfold Operation.Strands
  by_cases exempt : s.character.flags.has .notGainInFight
  · rw [if_pos exempt]
    exact iff_of_true hs fun h => by simp [exempt] at h
  · rw [if_neg exempt]
    simp only [Guarded, Bool.or_eq_true, ConditionSet.holds_add, Condition.timed, true_and]
    cases hfight : s.character.combat.conditions.holds .inFight with
    | true => simp
    | false =>
      have hunlocked : s.character.combat.pzLocked ≠ true := fun h => by
        rw [hs h] at hfight
        cases hfight
      simp [hunlocked, exempt]

/-- What has ended takes the lock with it if it is the fight, and leaves the fight otherwise. -/
theorem lock_combatLeft (e : Engine σ τ) (p : CombatProfile) :
    if .inFight ∈ p.conditions.expired e.rules.now then (e.combatLeft p).pzLocked = false
    else (e.combatLeft p).pzLocked = p.pzLocked ∧
      (e.combatLeft p).conditions.holds .inFight = p.conditions.holds .inFight := by
  unfold combatLeft
  split_ifs with ended
  · rfl
  · exact ⟨rfl, ConditionSet.holds_removeExpired ended⟩

theorem guarded_expire {c : Character} (hc : Guarded c) : Guarded (e.expire c).value := by
  have hlock := e.lock_combatLeft c.combat
  rw [← combat_expire] at hlock
  split_ifs at hlock
  · exact guarded_of_unlocked hlock
  · unfold Guarded
    rw [hlock.1, hlock.2]
    exact hc

/-- After what has ended is gone, a tick leaves the lock and the conditions alone. -/
theorem combat_tick (elapsed : Nat) :
    ((e.tick s elapsed).value.1.character.combat) = (e.expire s.character).value.combat := by
  obtain ⟨_, _, htick⟩ := value_tick e s elapsed
  rw [htick]
  rfl

/-- A tick at which the fight has run out opens the lock. -/
theorem pzLocked_tick (elapsed : Nat) {condition : Condition} {ends : Instant}
    (hc : condition ∈ s.character.combat.conditions.conditions) (hkind : condition.kind = .inFight)
    (hends : condition.expiresAt = some ends) (hle : ends ≤ e.rules.now) :
    (e.tick s elapsed).value.1.character.combat.pzLocked = false := by
  have hover : .inFight ∈ s.character.combat.conditions.expired e.rules.now :=
    hkind ▸ ConditionSet.mem_expired hc hends hle
  have hlock := e.lock_combatLeft s.character.combat
  rw [if_pos hover] at hlock
  rw [combat_tick, combat_expire]
  exact hlock

theorem guarded_triggerGiftOfLife (hs : Guarded s.character) (damage : Nat) :
    Guarded (e.triggerGiftOfLife s damage).value.1.character := by
  have hcharacter : (e.triggerGiftOfLife s damage).value.1.character =
      (Passives.triggerGiftOfLife e.rules s.character damage).value.1 := rfl
  obtain ⟨_, _, h⟩ := Passives.value_triggerGiftOfLife e.rules s.character damage
  rw [hcharacter, h]
  split_ifs
  · exact fun hlocked => (ConditionSet.holds_reduceCooldowns _).trans (hs hlocked)
  · exact hs

theorem guarded_applyDamage (hs : Guarded s.character) (damage : Nat) :
    Guarded (e.applyDamage s damage).value.1.character :=
  applyDamage_induction (P := fun t => Guarded t.character) damage
    (fun hs => guarded_triggerGiftOfLife hs damage) (fun _ _ ht => ht) hs

/-- **What one operation does to a guarded lock.**  It stays guarded exactly if the operation does not
strand it. -/
theorem guarded_operate_iff (hk : e.hook.KeepsGuard) (hs : Guarded s.character) (o : Operation) :
    Guarded (e.operate s o).value.character ↔ ¬ o.Strands s.character := by
  cases o with
  | die killer => exact guarded_die_iff killer
  | enterFight pzLock => exact guarded_enterFight_iff hs pzLock
  | call call => exact iff_of_true (guarded_answer hk hs call) not_false
  | addExperience amount source announce =>
    exact iff_of_true ((Progress.onlyProgress_addExperience _ _ _ _ amount source announce).guarded hs) not_false
  | removeExperience amount announce =>
    exact iff_of_true ((Progress.onlyProgress_removeExperience _ _ _ _ amount announce).guarded hs) not_false
  | addSkillTries skill count =>
    exact iff_of_true ((Progress.onlyProgress_addTries _ _ _ _ (.skill skill) count).guarded hs) not_false
  | addManaSpent amount =>
    exact iff_of_true ((Progress.onlyProgress_addTries _ _ _ _ .magicLevel amount).guarded hs) not_false
  | addOfflineTries track tries =>
    exact iff_of_true ((Progress.onlyProgress_addOfflineTries _ _ _ _ track tries).guarded hs) not_false
  | blockHit =>
    obtain ⟨_, hblock⟩ := Progress.onlyProgress_onBlockHit e.rules e.rates s.character s.rates s.arena
    exact iff_of_true (hblock.guarded hs) not_false
  | attackBlocked block =>
    obtain ⟨_, _, _, hblock⟩ := Progress.character_onAttackBlocked s.character block
    exact iff_of_true (by
      show Guarded (Progress.onAttackBlocked s.character block)
      rw [hblock]
      exact hs) not_false
  | combatTick force =>
    exact iff_of_true ((Passives.onlyPassives_onCombatTick _ _ force _).guarded hs) not_false
  | triggerGiftOfLife damage => exact iff_of_true (guarded_triggerGiftOfLife hs damage) not_false
  | applyDamage damage => exact iff_of_true (guarded_applyDamage hs damage) not_false
  | addUnjustifiedKill target name =>
    exact iff_of_true ((Standing.onlyReputation_addUnjustifiedKill _ _ target name).guarded hs) not_false
  | retaliation avenger => exact iff_of_true hs not_false
  | attackPlayer target skull struckFirst =>
    exact iff_of_true
      ((Standing.onlyReputation_onAttackPlayer _ _ target skull struckFirst).guarded hs) not_false
  | tick elapsed =>
    refine iff_of_true ?_ not_false
    show Guarded (e.tick s elapsed).value.1.character
    unfold Guarded
    rw [combat_tick]
    exact guarded_expire hs

/-! ## Runs -/

/-- **When a lock does not outlive its fight.**  Take a run from a state in which an open lock, or one with
a fight behind it, is borne, with hooks whose reports keep locks guarded.  Every state of the run has its
lock guarded exactly if no operation of the run strands one; and a tick at which a fight has run out opens
the lock in any state. -/
theorem guarded_throughout_iff (course : Course σ τ) (s : Situation σ τ)
    (hk : ∀ o ∈ course, o.1.hook.KeepsGuard) (hs : Guarded s.character) :
    ((∀ before, before <+: course → Guarded (arrived s before).character) ↔
      ∀ before e o, before ++ [(e, o)] <+: course → ¬ Operation.Strands (arrived s before).character o) ∧
    ∀ (e : Engine σ τ) (t : Situation σ τ) (elapsed : Nat) (condition : Condition) (ends : Instant),
      condition ∈ t.character.combat.conditions.conditions → condition.kind = .inFight →
      condition.expiresAt = some ends → ends ≤ e.rules.now →
      (e.tick t elapsed).value.1.character.combat.pzLocked = false := by
  have hiff : (∀ before, before <+: course → Guarded (arrived s before).character) ↔
      ∀ before o, before ++ [o] <+: course → ¬ o.2.Strands (arrived s before).character :=
    Run.throughout_iff (fun o : Engine σ τ × Operation => o.1.hook.KeepsGuard) (fun _ _ => True)
      (fun s => Guarded s.character) (fun _ _ _ _ _ => trivial)
      (fun _ s o hk _ hs => guarded_operate_iff hk hs o.2) course s hk trivial hs
  simp only [Prod.forall] at hiff
  exact ⟨hiff, fun e t elapsed condition ends => pzLocked_tick elapsed⟩

/-! ## A last stand -/

def fighter : Situation Unit Unit where
  wearer := { character := { id := ⟨1⟩, name := "Fighter" }, arena := .empty }
  hook := ()
  rates := ()

/-- The fighter attacks, is locked out of protection zones, and dies. -/
def lastStand : Course Unit Unit := [(.plain {}, .enterFight true), (.plain {}, .die none)]

/-- A fighter under so many spell cooldowns that no condition can be added. -/
def exhausted : Situation Unit Unit :=
  fighter.withCharacter { fighter.character with
    combat := { conditions := ⟨(List.range 32).map fun k => .permanent (.spellCooldown k)⟩ } }

theorem keepsGuard_lastStand : ∀ o ∈ lastStand, o.1.hook.KeepsGuard := by
  intro o ho
  simp only [lastStand, List.mem_cons, List.not_mem_nil, or_false] at ho
  rcases ho with rfl | rfl <;> exact EquipHook.keepsGuard_idle

theorem not_guarded_lastStand : ¬ Guarded (arrived fighter lastStand).character := by
  intro h
  have hlocked : (arrived fighter lastStand).character.combat.pzLocked = true := by decide +kernel
  have hpeace : (arrived fighter lastStand).character.combat.conditions.holds .inFight = false := by
    decide +kernel
  rw [h hlocked] at hpeace
  cases hpeace

theorem guarded_throughout_iff_lastStand :
    Guarded fighter.character ∧ ¬ ∀ before e o, before ++ [(e, o)] <+: lastStand →
      ¬ Operation.Strands (arrived fighter before).character o := by
  have hs : Guarded fighter.character := guarded_of_unlocked rfl
  obtain ⟨hiff, -⟩ := guarded_throughout_iff lastStand fighter keepsGuard_lastStand hs
  exact ⟨hs, fun hnone => not_guarded_lastStand (hiff.mpr hnone lastStand List.prefix_rfl)⟩

/-- After the death the lock is still there and no condition is left; and the exhausted fighter is locked
without ever being in a fight. -/
theorem lock_without_fight :
    fighter.character.combat.pzLocked = false ∧
      (arrived fighter lastStand).character.combat.pzLocked = true ∧
      (arrived fighter lastStand).character.combat.conditions = .empty ∧
    exhausted.character.combat.pzLocked = false ∧
      (arrived exhausted [(.plain {}, .enterFight true)]).character.combat.pzLocked = true ∧
      (arrived exhausted [(.plain {}, .enterFight true)]).character.combat.conditions.holds .inFight =
        false := by
  refine ⟨rfl, ?_, ?_, rfl, ?_, ?_⟩ <;> decide +kernel

end Engine

end Adventurer
