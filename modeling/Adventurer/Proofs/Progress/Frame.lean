import Adventurer.Proofs.Progress.Sheets

/-!
# What progress touches

Experience, training and the losses of a death write the ledger and the meters, the capacity and the speed
that come with a level.  Nothing else of a character changes by them.
-/

namespace Adventurer

variable {σ : Type}

/-- The two characters differ at most in their progress and in what comes with a level. -/
def OnlyProgress (c d : Character) : Prop :=
  ∃ health mana capacity baseSpeed progress, d = { c with health, mana, capacity, baseSpeed, progress }

theorem OnlyProgress.refl (c : Character) : OnlyProgress c c := ⟨_, _, _, _, _, rfl⟩

theorem OnlyProgress.trans {c d f : Character} (h : OnlyProgress c d) (h' : OnlyProgress d f) :
    OnlyProgress c f := by
  obtain ⟨_, _, _, _, _, rfl⟩ := h
  obtain ⟨_, _, _, _, _, rfl⟩ := h'
  exact ⟨_, _, _, _, _, rfl⟩

namespace Character

variable (c : Character) (rules : Rules) (vocation : Option Vocation)

theorem onlyProgress_withExperience (experience : Nat) : OnlyProgress c (c.withExperience experience) :=
  ⟨_, _, _, _, _, rfl⟩

theorem onlyProgress_updateBaseSpeed : OnlyProgress c (c.updateBaseSpeed vocation) := by
  obtain ⟨speed, h⟩ := updateBaseSpeed_eq c vocation
  exact ⟨_, _, _, speed, _, h⟩

theorem onlyProgress_dropLevels (starter : Bool) :
    OnlyProgress c (c.dropLevels rules vocation starter) := by
  have hdown : OnlyProgress c (c.descendAll rules vocation starter) :=
    @descendAll_induction c rules vocation (OnlyProgress c) starter
      (fun _ _ _ h => h.trans ⟨_, _, _, _, _, rfl⟩) (.refl c)
  rw [dropLevels_eq]
  split_ifs
  · exact hdown.trans ⟨_, _, _, _, _, rfl⟩
  · exact (hdown.trans (onlyProgress_updateBaseSpeed _ _)).trans ⟨_, _, _, _, _, rfl⟩

theorem onlyProgress_raised (experience : Nat) : OnlyProgress c (c.raised rules experience) := by
  have hup : OnlyProgress c (c.climbed rules experience) :=
    @ascendAll_induction (c.withExperience experience) rules (rules.vocationOf? c) (OnlyProgress c)
      (fun _ _ h => h.trans ⟨_, _, _, _, _, rfl⟩) ⟨_, _, _, _, _, rfl⟩
  unfold raised
  split_ifs
  · exact hup.trans ⟨_, _, _, _, _, rfl⟩
  · have hrefilled : OnlyProgress c (c.climbed rules experience).refilled :=
      hup.trans ⟨_, _, _, _, _, rfl⟩
    exact (hrefilled.trans (onlyProgress_updateBaseSpeed _ _)).trans ⟨_, _, _, _, _, rfl⟩

end Character

namespace Progress

variable (rules : Rules) (rates : Rates σ) (c : Character) (s : σ)

theorem onlyProgress_addExperience (amount : Nat) (source : Option CreatureId) (announce : Bool) :
    OnlyProgress c (addExperience rules rates c amount source announce s).value.character := by
  generalize hbooked : (addExperience rules rates c amount source announce s).value = booked
  rcases cases_addExperience hbooked with ⟨-, h⟩ | ⟨-, h, -⟩ | ⟨rated, -, h, -⟩
  · rw [h]
    exact .refl c
  · exact ⟨_, _, _, _, _, h⟩
  · rw [h]
    exact Character.onlyProgress_raised c rules _

theorem onlyProgress_removeExperience (amount : Nat) (announce : Bool) :
    OnlyProgress c (removeExperience rules rates c amount announce s).value.character := by
  generalize hbooked : (removeExperience rules rates c amount announce s).value = booked
  rcases cases_removeExperience hbooked with ⟨-, h⟩ | ⟨kept, -, h, -⟩
  · rw [h]
    exact .refl c
  · rw [h]
    exact (Character.onlyProgress_withExperience c kept).trans (Character.onlyProgress_dropLevels _ _ _ _)

/-- Experience leaves the training alone. -/
theorem trainingSheet_addExperience (amount : Nat) (source : Option CreatureId) (announce : Bool) :
    (addExperience rules rates c amount source announce s).value.character.trainingSheet =
      c.trainingSheet := by
  generalize hbooked : (addExperience rules rates c amount source announce s).value = booked
  rcases cases_addExperience hbooked with ⟨-, h⟩ | ⟨-, h, -⟩ | ⟨rated, -, h, -⟩
  · rw [h]
  · rw [h]
    rfl
  · rw [h, Character.trainingSheet_raised]

theorem trainingSheet_removeExperience (amount : Nat) (announce : Bool) :
    (removeExperience rules rates c amount announce s).value.character.trainingSheet =
      c.trainingSheet := by
  generalize hbooked : (removeExperience rules rates c amount announce s).value = booked
  rcases cases_removeExperience hbooked with ⟨-, h⟩ | ⟨kept, -, h, -⟩
  · rw [h]
  · rw [h, Character.trainingSheet_dropLevels]
    rfl

theorem onlyProgress_write (track : TrainedTrack) (f : Footing) (percent : Float) :
    OnlyProgress c (track.write c f percent) := by
  cases track <;> exact ⟨_, _, _, _, _, rfl⟩

theorem onlyProgress_addTries (track : TrainedTrack) (amount : Nat) :
    OnlyProgress c (addTries rules rates c track amount s).value.character := by
  generalize hbooked : (addTries rules rates c track amount s).value = booked
  rcases cases_addTries _ _ _ _ _ hbooked with ⟨h, -⟩ | ⟨v, -, hbooked⟩
  · rw [h]
    exact .refl c
  · rcases cases_bookOn _ _ _ _ _ _ hbooked with ⟨h, -⟩ | ⟨rated, -, -, h, -⟩
    · rw [h]
      exact .refl c
    · rw [h]
      exact onlyProgress_write c track _ _

theorem onlyProgress_addOfflineTries (track : Track) (tries : Nat) :
    OnlyProgress c (addOfflineTries rules rates c track tries s).value.character := by
  rcases character_addOfflineTries rules rates c track tries s with h | ⟨trained, h⟩
  · rw [h]
    exact .refl c
  · rw [h]
    exact onlyProgress_addTries rules rates c s trained tries

/-- A blocked hit takes one off the training window, and may train. -/
theorem onlyProgress_onBlockHit (a : Arena) : ∃ shieldBlockCount,
    OnlyProgress { c with combat := { c.combat with shieldBlockCount } }
      (onBlockHit rules rates c a s).value.character := by
  by_cases closed : c.combat.shieldBlockCount = 0
  · refine ⟨c.combat.shieldBlockCount, ?_⟩
    simp only [onBlockHit, if_pos closed]
    exact .refl c
  · refine ⟨c.combat.shieldBlockCount - 1, ?_⟩
    simp only [onBlockHit, if_neg closed]
    split_ifs
    · exact onlyProgress_addTries rules rates _ s (.skill .shield) 1
    · exact .refl _

/-- A blocked attack writes what is left of the training window. -/
theorem character_onAttackBlocked (block : BlockType) :
    ∃ shieldBlockCount bloodHitCount addAttackSkillPoint, onAttackBlocked c block =
      { c with combat := { c.combat with shieldBlockCount, bloodHitCount, addAttackSkillPoint } } := by
  cases block <;> simp only [onAttackBlocked]
  · exact ⟨_, _, _, rfl⟩
  · split_ifs <;> exact ⟨_, _, _, rfl⟩
  · split_ifs <;> exact ⟨_, _, _, rfl⟩
  · exact ⟨_, _, _, rfl⟩

end Progress

namespace Death

variable (rules : Rules) (rates : Rates σ) (c : Character) (s : σ)

theorem onlyProgress_loseSkills (vocation : Vocation) (loss : Float) :
    OnlyProgress c (loseSkills vocation loss c) := by
  unfold loseSkills
  induction Skill.all generalizing c with
  | nil => exact .refl c
  | cons k skills ih =>
    have hone : OnlyProgress c
      { c with progress := c.progress.setSkill k (loseSkill vocation loss k (c.skill k)) } :=
      ⟨_, _, _, _, _, rfl⟩
    exact hone.trans (ih _)

theorem onlyProgress_paid (killer : Option CreatureView) : OnlyProgress c (paid rules c killer) := by
  unfold paid
  cases rules.vocationOf? c with
  | none => exact .refl c
  | some v =>
    have hmagic : OnlyProgress c (loseMagic v (shareLost rules c killer) c) := by
      unfold loseMagic
      exact ⟨_, _, _, _, _, rfl⟩
    rw [Option.elim_some]
    exact hmagic.trans (onlyProgress_loseSkills _ v _)

theorem onlyProgress_loseExperience (vocation : Option Vocation) (loss : Float) :
    OnlyProgress c (loseExperience rules rates vocation loss c s).value.character := by
  generalize hbooked : (loseExperience rules rates vocation loss c s).value = booked
  rcases cases_loseExperience rules rates c s hbooked with ⟨-, h⟩ | ⟨kept, -, h, -⟩
  · rw [h]
    exact .refl c
  · rw [h]
    exact (Character.onlyProgress_withExperience c kept).trans (Character.onlyProgress_dropLevels _ _ _ _)

theorem onlyProgress_wakeUp (config : GameConfig) : OnlyProgress c (wakeUp config c) := by
  unfold wakeUp
  split_ifs <;> exact ⟨_, _, _, _, _, rfl⟩

theorem wakeUp_withBlessings (config : GameConfig) (blessings : Blessings) :
    wakeUp config { c with blessings } = { wakeUp config c with blessings } := by
  by_cases h : c.reputation.skull = .black <;> simp [wakeUp, h]

/-- A free death only refills health.  Any other one takes from the progress and the blessings; then the
character wakes up at its temple. -/
theorem character_resolve (killer : Option CreatureView) :
    c.combat.skillLoss = false ∧ (resolve rules rates c killer s).value.1 =
        atTemple { c with health := c.health.refill, combat := { c.combat with skillLoss := true } } ∨
      ∃ d blessings, OnlyProgress c d ∧
        (resolve rules rates c killer s).value.1 = atTemple { d with blessings } := by
  by_cases armed : c.combat.skillLoss
  swap
  · left
    simp only [Bool.not_eq_true] at armed
    simp only [resolve, armed, Bool.not_false, if_true, Told.value_bind]
    exact ⟨trivial, rfl⟩
  right
  have hpaid := (onlyProgress_paid rules c killer).trans
    (onlyProgress_loseExperience rules rates (paid rules c killer) s (rules.vocationOf? c)
      (shareLost rules c killer))
  generalize hbooked : (loseExperience rules rates (rules.vocationOf? c) (shareLost rules c killer)
    (paid rules c killer) s).value = booked at hpaid
  have hvalue : ∃ pvp, (resolve rules rates c killer s).value.1 =
      atTemple (wakeUp rules.config (stripBlessings rules.config pvp booked.character)) := by
    subst hbooked
    simp only [resolve, armed, Bool.not_true]
    exact ⟨_, rfl⟩
  obtain ⟨pvp, hvalue⟩ := hvalue
  refine ⟨wakeUp rules.config booked.character,
    (stripBlessings rules.config pvp booked.character).blessings,
    hpaid.trans (onlyProgress_wakeUp _ _), ?_⟩
  rw [hvalue, ← wakeUp_withBlessings]
  rfl

end Death

end Adventurer
