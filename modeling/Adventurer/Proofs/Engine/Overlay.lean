import Adventurer.Proofs.Dressing.Frame
import Adventurer.Proofs.Engine.Frame

/-!
# What operations do to the passives

Bringing the overlay up to date, refreshing the passives of a fight and a rescue by Gift of Life are all that
touches the passives of a character.  So an operation keeps what these three keep (`keeps_operate`), and one
that brings the overlay up to date ends in what that leads to (`updates_operate`).
-/

namespace Adventurer

variable {σ τ : Type} {c d : Character}

/-- The hook's reports keep what holds of the passives. -/
structure EquipHook.KeepsPassives (hook : EquipHook σ) (P : PassiveState → Prop) : Prop where
  onEquip : ∀ c id slot s, P c.passives → P (hook.onEquip c id slot s).1.passives
  onUnequip : ∀ c id slot s, P c.passives → P (hook.onUnequip c id slot s).1.passives

theorem EquipHook.keepsPassives_idle (P : PassiveState → Prop) : EquipHook.idle.KeepsPassives P :=
  ⟨fun _ _ _ _ h => h, fun _ _ _ _ h => h⟩

theorem OnlyProgress.passives_eq (h : OnlyProgress c d) : d.passives = c.passives := by
  obtain ⟨_, _, _, _, _, rfl⟩ := h
  rfl

theorem OnlyReputation.passives_eq (h : OnlyReputation c d) : d.passives = c.passives := by
  obtain ⟨_, rfl⟩ := h
  rfl

theorem OnlyEquipment.passives_eq (h : OnlyEquipment c d) : d.passives = c.passives := by
  obtain ⟨_, rfl⟩ := h
  rfl

namespace Passives

/-- The passives after a rescue at an instant. -/
def rescued (now : Instant) (p : PassiveState) : PassiveState :=
  { p with
    giftOfLifeCooldown := giftOfLifeRest (p.stage .giftOfLife) * 3600
    cooldownClock := now }

theorem passives_triggerGiftOfLife (rules : Rules) (c : Character) (damage : Nat) :
    (triggerGiftOfLife rules c damage).value.1.passives =
      if giftOfLifeReady c damage then rescued rules.now c.passives else c.passives := by
  unfold triggerGiftOfLife
  split_ifs <;> rfl

/-- Under these rules a tick leads from `P` to `R`, which is no less, and the refresh of a fight keeps `P`. -/
structure Upkeep (rules : Rules) (P R : PassiveState → Prop) : Prop where
  tick : ∀ a force c, P c.passives → R (onCombatTick rules a force c).value.1.passives
  fight : ∀ a c, P c.passives → P (refresh rules a inFightPassives false c).1.passives
  weaken : ∀ p, R p → P p

end Passives

namespace Engine

open Passives

variable {e : Engine σ τ} {s : Situation σ τ} {P R : PassiveState → Prop}

/-- Whether an operation saves the character by Gift of Life. -/
def Operation.rescues (c : Character) : Operation → Bool
  | .triggerGiftOfLife damage => giftOfLifeReady c damage
  | .applyDamage damage => damage ≠ 0 && giftOfLifeReady c damage
  | _ => false

/-- Whether an operation brings the overlay up to date: a tick, a move that is not refused, or a hit that
uses an item up.  Scheduled work does so through its parts. -/
def Operation.Ticks (e : Engine σ τ) (s : Situation σ τ) : Operation → Prop
  | .combatTick _ | .tick _ => True
  | .call (.equip request) => ∃ outcome, (e.equip s request).value.2 = .ok outcome
  | .call (.unequip slot count) => ∃ taken, (e.unequip s slot count).value.2 = .ok taken
  | .call (.absorb hit) => (e.absorb s hit).value.2.exhausted ≠ []
  | _ => False

/-! ## Moves and hits -/

theorem updates_refresh (hu : Upkeep e.rules P R) (w : Wearer) (hw : P w.character.passives) :
    R (w.refresh e.rules).value.character.passives :=
  hu.tick w.arena true
    { w.character with inventoryWeight := Dressing.inventoryWeight e.rules w.character w.arena } hw

section Moves

variable (hu : Upkeep e.rules P R) (hk : e.hook.KeepsPassives R) (hs : P s.character.passives)
include hu hk hs

theorem equip_updates (request : EquipRequest) :
    (∃ refusal, (e.equip s request).value.2 = .error refusal) ∧
        P (e.equip s request).value.1.character.passives ∨
      R (e.equip s request).value.1.character.passives := by
  show (∃ refusal, (Dressing.tryEquip e.rules e.hook s.wearer request s.hook).value.2.2 = .error refusal) ∧
      P (Dressing.tryEquip e.rules e.hook s.wearer request s.hook).value.1.character.passives ∨
    R (Dressing.tryEquip e.rules e.hook s.wearer request s.hook).value.1.character.passives
  exact Dressing.tryEquip_updates (P := fun c => P c.passives) (R := fun c => R c.passives)
    (fun c d h hc => by rw [h.passives_eq]; exact hc) (updates_refresh hu)
    hk.onEquip hk.onUnequip hs request

theorem unequip_updates (slot : Slot) (count : Nat) :
    (∃ refusal, (e.unequip s slot count).value.2 = .error refusal) ∧
        P (e.unequip s slot count).value.1.character.passives ∨
      R (e.unequip s slot count).value.1.character.passives := by
  show (∃ refusal, (Dressing.tryUnequip e.rules e.hook s.wearer slot count s.hook).value.2.2 =
        .error refusal) ∧
      P (Dressing.tryUnequip e.rules e.hook s.wearer slot count s.hook).value.1.character.passives ∨
    R (Dressing.tryUnequip e.rules e.hook s.wearer slot count s.hook).value.1.character.passives
  exact Dressing.tryUnequip_updates (P := fun c => P c.passives) (R := fun c => R c.passives)
    (fun c d h hc => by rw [h.passives_eq]; exact hc) (updates_refresh hu)
    hk.onUnequip hs slot count

omit hk in
theorem absorb_updates (hit : Hit) :
    (e.absorb s hit).value.2.exhausted = [] ∧ P (e.absorb s hit).value.1.character.passives ∨
      R (e.absorb s hit).value.1.character.passives :=
  Wearer.discard_updates (P := fun c => P c.passives) (R := fun c => R c.passives)
    (w := { s.wearer with arena := (hit.absorb e.rules s.character s.arena).1 })
    (fun c d h hc => by rw [h.passives_eq]; exact hc) (updates_refresh hu) _ hs

theorem keeps_perform (d : Deed) : P (e.perform s d).value.character.passives := by
  cases d with
  | absorb hit => exact (absorb_updates hu hs hit).elim And.right (hu.weaken _)
  | act action =>
    cases action with
    | equip request => exact (equip_updates hu hk hs request).elim And.right (hu.weaken _)
    | unequip slot count => exact (unequip_updates hu hk hs slot count).elim And.right (hu.weaken _)
    | forceRefresh => exact hu.weaken _ (hu.tick s.arena true s.character hs)

theorem keeps_answer (call : Call) : P (e.answer s call).value.character.passives := by
  rw [value_answer]
  generalize call.deeds e.rules.now = deeds
  induction deeds generalizing s with
  | nil => exact hs
  | cons d deeds ih => exact ih (keeps_perform hu hk hs d)

end Moves

/-! ## Operations -/

theorem passives_expire (e : Engine σ τ) (c : Character) : (e.expire c).value.passives = c.passives := by
  obtain ⟨_, h⟩ := value_expire e c
  rw [h]

theorem updates_tick (hu : Upkeep e.rules P R) (hs : P s.character.passives) (elapsed : Nat) :
    R (e.tick s elapsed).value.1.character.passives := by
  refine hu.tick s.arena false (Standing.checkSkull (e.expire s.character).value elapsed
    ((e.expire s.character).value.isInFight e.rules.now)).value ?_
  rw [(Standing.onlyReputation_checkSkull _ _ _).passives_eq, passives_expire]
  exact hs

theorem passives_die (e : Engine σ τ) (s : Situation σ τ) (killer : Option CreatureView) :
    (e.die s killer).value.1.character.passives = s.character.passives := by
  have hvalue : (e.die s killer).value.1.character =
      (Death.resolve e.rules e.rates s.character killer s.rates).value.1 := rfl
  rw [hvalue]
  rcases Death.character_resolve e.rules e.rates s.character s.rates killer with
    ⟨-, h⟩ | ⟨d, blessings, hprogress, h⟩
  · rw [h]
    rfl
  · rw [h]
    exact hprogress.passives_eq

theorem passives_enterFight (e : Engine σ τ) (s : Situation σ τ) (pzLock : Bool) :
    (e.enterFight s pzLock).value.character.passives =
      (refresh e.rules s.arena inFightPassives false s.character).1.passives := by
  have hvalue : (e.enterFight s pzLock).value.character =
      (addInFightTicks e.rules s.arena pzLock s.character).value := rfl
  rw [hvalue]
  unfold addInFightTicks
  rw [Told.value_bind, value_resync]
  simp only
  split_ifs <;> rfl

theorem passives_applyDamage (e : Engine σ τ) (s : Situation σ τ) (damage : Nat) :
    (e.applyDamage s damage).value.1.character.passives =
      if (Operation.applyDamage damage).rescues s.character then rescued e.rules.now s.character.passives
      else s.character.passives := by
  have hsaved := passives_triggerGiftOfLife e.rules s.character damage
  have hvalue : (e.triggerGiftOfLife s damage).value.1.character =
      (Passives.triggerGiftOfLife e.rules s.character damage).value.1 := rfl
  unfold applyDamage
  by_cases hnone : damage = 0
  · rw [if_pos hnone, hnone]
    rfl
  · have hrescues : (Operation.applyDamage damage).rescues s.character = giftOfLifeReady s.character damage := by
      show (decide (damage ≠ 0) && giftOfLifeReady s.character damage) = _
      rw [decide_eq_true hnone, Bool.true_and]
    rw [hrescues, if_neg hnone, ← hsaved, ← hvalue, Told.value_bind]
    simp only
    split_ifs <;> rfl

/-- **What an operation does to the passives.**  It keeps what ticks, fights and a rescue keep. -/
theorem keeps_operate (hu : Upkeep e.rules P R) (hk : e.hook.KeepsPassives R) (hs : P s.character.passives)
    (o : Operation) (hrescue : o.rescues s.character = true → P (rescued e.rules.now s.character.passives)) :
    P (e.operate s o).value.character.passives := by
  have hsame : ∀ {d : Character}, d.passives = s.character.passives → P d.passives := fun h => by
    rw [h]
    exact hs
  cases o with
  | call call => exact keeps_answer hu hk hs call
  | addExperience amount source announce =>
    exact hsame (Progress.onlyProgress_addExperience _ _ _ _ amount source announce).passives_eq
  | removeExperience amount announce =>
    exact hsame (Progress.onlyProgress_removeExperience _ _ _ _ amount announce).passives_eq
  | addSkillTries skill count =>
    exact hsame (Progress.onlyProgress_addTries _ _ _ _ (.skill skill) count).passives_eq
  | addManaSpent amount => exact hsame (Progress.onlyProgress_addTries _ _ _ _ .magicLevel amount).passives_eq
  | addOfflineTries track tries =>
    exact hsame (Progress.onlyProgress_addOfflineTries _ _ _ _ track tries).passives_eq
  | blockHit =>
    obtain ⟨_, hblock⟩ := Progress.onlyProgress_onBlockHit e.rules e.rates s.character s.rates s.arena
    exact hsame hblock.passives_eq
  | attackBlocked block =>
    obtain ⟨_, _, _, hblock⟩ := Progress.character_onAttackBlocked s.character block
    show P (Progress.onAttackBlocked s.character block).passives
    rw [hblock]
    exact hs
  | combatTick force => exact hu.weaken _ (hu.tick s.arena force s.character hs)
  | enterFight pzLock =>
    show P (e.enterFight s pzLock).value.character.passives
    rw [passives_enterFight]
    exact hu.fight s.arena s.character hs
  | triggerGiftOfLife damage =>
    show P (Passives.triggerGiftOfLife e.rules s.character damage).value.1.passives
    rw [passives_triggerGiftOfLife]
    split_ifs with hready
    · exact hrescue hready
    · exact hs
  | applyDamage damage =>
    show P (e.applyDamage s damage).value.1.character.passives
    rw [passives_applyDamage]
    split_ifs with hready
    · exact hrescue hready
    · exact hs
  | die killer => exact hsame (passives_die e s killer)
  | addUnjustifiedKill target name =>
    exact hsame (Standing.onlyReputation_addUnjustifiedKill _ _ target name).passives_eq
  | retaliation avenger => exact hs
  | attackPlayer target skull struckFirst =>
    exact hsame (Standing.onlyReputation_onAttackPlayer _ _ target skull struckFirst).passives_eq
  | tick elapsed => exact hu.weaken _ (updates_tick hu hs elapsed)

/-- An operation that brings the overlay up to date ends in what that leads to. -/
theorem updates_operate (hu : Upkeep e.rules P R) (hk : e.hook.KeepsPassives R)
    (hs : P s.character.passives) {o : Operation} (ho : o.Ticks e s) :
    R (e.operate s o).value.character.passives := by
  cases o with
  | combatTick force => exact hu.tick s.arena force s.character hs
  | tick elapsed => exact updates_tick hu hs elapsed
  | call call =>
    cases call with
    | equip request =>
      obtain ⟨outcome, hok⟩ := ho
      refine (equip_updates hu hk hs request).resolve_left ?_
      rintro ⟨⟨refusal, herror⟩, -⟩
      rw [hok] at herror
      cases herror
    | unequip slot count =>
      obtain ⟨taken, hok⟩ := ho
      refine (unequip_updates hu hk hs slot count).resolve_left ?_
      rintro ⟨⟨refusal, herror⟩, -⟩
      rw [hok] at herror
      cases herror
    | absorb hit => exact (absorb_updates hu hs hit).resolve_left fun h => ho h.1
    | runDue schedule => exact ho.elim
  | _ => exact ho.elim

/-- After a rescue. -/
theorem passives_operate_of_rescues {o : Operation} (ho : o.rescues s.character = true) :
    (e.operate s o).value.character.passives = rescued e.rules.now s.character.passives := by
  cases o with
  | triggerGiftOfLife damage =>
    exact (passives_triggerGiftOfLife e.rules s.character damage).trans (if_pos ho)
  | applyDamage damage => exact (passives_applyDamage e s damage).trans (if_pos ho)
  | _ => cases ho

end Engine

end Adventurer
