import Adventurer.Death.Resolve
import Adventurer.Proofs.Progress.Booking

/-!
# What changes the progress of a character

A character gains and loses experience, trains and dies.  Each of these is told by what it does to two
sheets: `levelSheet`, the level with all that comes with it, and `trainingSheet`, the skills and the magic.
It either leaves a sheet alone or does to it what one of a few walks does (`cases_addExperience`,
`cases_removeExperience`, `cases_resolve`).
-/

namespace Adventurer

variable {σ : Type}

/-- The rules know the same vocations and end the experience curve at the same level. -/
def Rules.Alike (r r' : Rules) : Prop :=
  r.vocations = r'.vocations ∧ r.config.maxLevel = r'.config.maxLevel

namespace Rules.Alike

variable {r r' : Rules} (h : r.Alike r')
include h

omit h in
theorem symm (h : r.Alike r') : r'.Alike r := ⟨h.1.symm, h.2.symm⟩

theorem threshold_eq : Character.threshold r = Character.threshold r' := by
  funext level
  rw [Character.threshold, Character.threshold, h.2]

theorem vocation?_eq (id : VocationId) : r.vocation? id = r'.vocation? id := by
  rw [Rules.vocation?, Rules.vocation?, h.1]

theorem vocationOf?_eq (c : Character) : r.vocationOf? c = r'.vocationOf? c := h.vocation?_eq _

theorem freshLevelPercent_eq (c : Character) :
    c.freshLevelPercent r = c.freshLevelPercent r' := by
  simp only [Character.freshLevelPercent, h.threshold_eq]

theorem at_eq (vocation : Option Vocation) (level : Nat) (starter : Bool) :
    LevelGains.at_ r vocation level starter = LevelGains.at_ r' vocation level starter := by
  simp only [LevelGains.at_, h.vocation?_eq]

end Rules.Alike

/-! ## Sheets -/

/-- The level of a character and what comes with it. -/
structure LevelSheet where
  vocation : VocationId
  flags : Flags
  level : Nat
  experience : Nat
  percent : Float
  speed : Nat
  health : Nat
  mana : Nat
  capacity : Nat

/-- The skills and the magic of a character. -/
structure TrainingSheet where
  vocation : VocationId
  magicLevel : Nat
  manaSpent : Nat
  magicPercent : Float
  skills : Table Skill SkillRecord

namespace Character

def levelSheet (c : Character) : LevelSheet :=
  ⟨c.vocation, c.flags, c.level, c.progress.experience, c.progress.levelPercent, c.baseSpeed,
    c.health.maximum, c.mana.maximum, c.capacity⟩

def trainingSheet (c : Character) : TrainingSheet :=
  ⟨c.vocation, c.progress.magicLevel, c.progress.manaSpent, c.progress.magicLevelPercent,
    c.progress.skills⟩

variable (c : Character) (rules : Rules) (vocation : Option Vocation)

/-- The speed that goes with a level is all that changes. -/
theorem updateBaseSpeed_eq : ∃ speed, c.updateBaseSpeed vocation = { c with baseSpeed := speed } := by
  unfold updateBaseSpeed
  split_ifs
  · exact ⟨_, rfl⟩
  · cases vocation with
    | none => exact ⟨c.baseSpeed, rfl⟩
    | some v => exact ⟨_, rfl⟩

@[simp] theorem trainingSheet_updateBaseSpeed :
    (c.updateBaseSpeed vocation).trainingSheet = c.trainingSheet := by
  obtain ⟨speed, h⟩ := updateBaseSpeed_eq c vocation
  rw [h]
  rfl

/-! ## The walks over levels -/

/-- What each level up keeps, the climb keeps. -/
theorem ascendAll_induction {P : Character → Prop}
    (hstep : ∀ c : Character, threshold rules (c.level + 1) ≤ c.progress.experience → P c →
      P (c.ascend rules vocation)) (hc : P c) : P (c.ascendAll rules vocation) := by
  fun_induction ascendAll c rules vocation with
  | case1 c reached up grows ih => exact ih (hstep c reached hc)
  | case2 c reached up flat => exact hstep c reached hc
  | case3 c short => exact hc

/-- What each level down keeps, the descent keeps. -/
theorem descendAll_induction {P : Character → Prop} (starter : Bool)
    (hstep : ∀ c : Character, 1 < c.level → c.progress.experience < threshold rules c.level → P c →
      P (c.descend rules vocation starter)) (hc : P c) : P (c.descendAll rules vocation starter) := by
  fun_induction descendAll c rules vocation starter with
  | case1 c high ih => exact ih (hstep c high.1 high.2 hc)
  | case2 c low => exact hc

/-- What a walk over levels leaves as it is. -/
structure Walked (c d : Character) : Prop where
  vocation : d.vocation = c.vocation
  flags : d.flags = c.flags
  speed : d.baseSpeed = c.baseSpeed
  experience : d.progress.experience = c.progress.experience

theorem walked_ascendAll : Walked c (c.ascendAll rules vocation) :=
  @ascendAll_induction c rules vocation (Walked c)
    (fun _ _ h => ⟨h.vocation, h.flags, h.speed, h.experience⟩) ⟨rfl, rfl, rfl, rfl⟩

theorem walked_descendAll (starter : Bool) : Walked c (c.descendAll rules vocation starter) :=
  @descendAll_induction c rules vocation (Walked c) starter
    (fun _ _ _ h => ⟨h.vocation, h.flags, h.speed, h.experience⟩) ⟨rfl, rfl, rfl, rfl⟩

theorem le_level_ascendAll : c.level ≤ (c.ascendAll rules vocation).level :=
  @ascendAll_induction c rules vocation (fun d => c.level ≤ d.level)
    (fun _ _ h => Nat.le_succ_of_le h) (Nat.le_refl _)

theorem level_descendAll_le (starter : Bool) : (c.descendAll rules vocation starter).level ≤ c.level :=
  @descendAll_induction c rules vocation (fun d => d.level ≤ c.level) starter
    (fun _ _ _ h => Nat.le_trans (Nat.sub_le _ _) h) (Nat.le_refl _)

@[simp] theorem trainingSheet_ascendAll :
    (c.ascendAll rules vocation).trainingSheet = c.trainingSheet :=
  @ascendAll_induction c rules vocation (fun d => d.trainingSheet = c.trainingSheet)
    (fun _ _ h => h) rfl

@[simp] theorem trainingSheet_descendAll (starter : Bool) :
    (c.descendAll rules vocation starter).trainingSheet = c.trainingSheet :=
  @descendAll_induction c rules vocation (fun d => d.trainingSheet = c.trainingSheet) starter
    (fun _ _ _ h => h) rfl

/-! ## Levels reached and levels lost -/

/-- The character with the percent of its level read anew. -/
def readPercent : Character := c.withLevelPercent (c.freshLevelPercent rules)

/-- The character with full meters. -/
def refilled : Character := { c with health := c.health.refill, mana := c.mana.refill }

/-- The character at another amount of experience and the levels that it reaches. -/
def climbed (experience : Nat) : Character :=
  (c.withExperience experience).ascendAll rules (rules.vocationOf? c)

/-- The character with all that comes with the levels reached. -/
def raised (experience : Nat) : Character :=
  (if (c.climbed rules experience).level = c.level then c.climbed rules experience
    else (c.climbed rules experience).refilled.updateBaseSpeed (rules.vocationOf? c)).readPercent rules

theorem dropLevels_eq (starter : Bool) :
    c.dropLevels rules vocation starter =
      (if (c.descendAll rules vocation starter).level = c.level then c.descendAll rules vocation starter
        else (c.descendAll rules vocation starter).updateBaseSpeed vocation).readPercent rules := rfl

/-- Past the climb only the speed and the percent change. -/
theorem levelSheet_raised (experience : Nat) :
    ∃ speed percent, (c.raised rules experience).levelSheet =
      { (c.climbed rules experience).levelSheet with speed, percent } := by
  unfold raised
  split_ifs
  · exact ⟨_, _, rfl⟩
  · obtain ⟨speed, h⟩ := updateBaseSpeed_eq (c.climbed rules experience).refilled (rules.vocationOf? c)
    rw [h]
    exact ⟨_, _, rfl⟩

/-- Past the descent only the speed and the percent change. -/
theorem levelSheet_dropLevels (starter : Bool) :
    ∃ speed percent, (c.dropLevels rules vocation starter).levelSheet =
      { (c.descendAll rules vocation starter).levelSheet with speed, percent } := by
  rw [dropLevels_eq]
  split_ifs
  · exact ⟨_, _, rfl⟩
  · obtain ⟨speed, h⟩ := updateBaseSpeed_eq (c.descendAll rules vocation starter) vocation
    rw [h]
    exact ⟨_, _, rfl⟩

theorem level_raised (experience : Nat) :
    (c.raised rules experience).level = (c.climbed rules experience).level := by
  obtain ⟨_, _, h⟩ := levelSheet_raised c rules experience
  exact congrArg LevelSheet.level h

theorem level_dropLevels (starter : Bool) :
    (c.dropLevels rules vocation starter).level = (c.descendAll rules vocation starter).level := by
  obtain ⟨_, _, h⟩ := levelSheet_dropLevels c rules vocation starter
  exact congrArg LevelSheet.level h

theorem le_level_climbed (experience : Nat) : c.level ≤ (c.climbed rules experience).level :=
  le_level_ascendAll (c.withExperience experience) rules _

theorem level_dropLevels_le (starter : Bool) :
    (c.dropLevels rules vocation starter).level ≤ c.level := by
  rw [level_dropLevels]
  exact level_descendAll_le c rules vocation starter

@[simp] theorem trainingSheet_dropLevels (starter : Bool) :
    (c.dropLevels rules vocation starter).trainingSheet = c.trainingSheet := by
  have hdown := trainingSheet_descendAll c rules vocation starter
  rw [dropLevels_eq]
  split_ifs
  · exact hdown
  · exact (trainingSheet_updateBaseSpeed _ _).trans hdown

@[simp] theorem trainingSheet_raised (experience : Nat) :
    (c.raised rules experience).trainingSheet = c.trainingSheet := by
  have hup : (c.climbed rules experience).trainingSheet = c.trainingSheet :=
    trainingSheet_ascendAll (c.withExperience experience) rules _
  unfold raised
  split_ifs
  · exact hup
  · exact (trainingSheet_updateBaseSpeed _ _).trans hup

theorem vocation_raised (experience : Nat) : (c.raised rules experience).vocation = c.vocation :=
  congrArg TrainingSheet.vocation (trainingSheet_raised c rules experience)

theorem vocation_dropLevels (starter : Bool) :
    (c.dropLevels rules vocation starter).vocation = c.vocation :=
  congrArg TrainingSheet.vocation (trainingSheet_dropLevels c rules vocation starter)

end Character

/-! ## Experience gained and lost -/

namespace Progress

variable {rules : Rules} {rates : Rates σ} {c : Character} {s : σ} {booked : Booked σ}

/-- Where the curve goes on, experience that the rates leave something of raises the character. -/
theorem exists_value_addExperience {amount rated : Nat} {source : Option CreatureId} {t : σ}
    (announce : Bool) (barred : ¬ c.flags.has .notGainExperience)
    (grows : Character.threshold rules c.level < Character.threshold rules (c.level + 1))
    (hrated : rates.experience c source amount s = (rated, t)) (hne : rated ≠ 0) :
    ∃ u, (addExperience rules rates c amount source announce s).value =
      ⟨c.raised rules (addUpTo max64 c.progress.experience rated), u,
        (c.climbed rules (addUpTo max64 c.progress.experience rated)).level - c.level⟩ := by
  simp only [addExperience, if_neg barred, if_pos grows, hrated, if_neg hne, Told.value_bind]
  by_cases same : (c.climbed rules (addUpTo max64 c.progress.experience rated)).level = c.level
  · rw [Character.raised, if_pos same, same, Nat.sub_self]
    exact ⟨_, congrArg Told.value (if_pos same)⟩
  · rw [Character.raised, if_neg same]
    exact ⟨_, congrArg Told.value (if_neg same)⟩

/-- Experience is refused, or met by a flat curve, or raises the character. -/
theorem cases_addExperience {amount : Nat} {source : Option CreatureId} {announce : Bool}
    (h : (addExperience rules rates c amount source announce s).value = booked) :
    booked.levels = 0 ∧ booked.character = c ∨
      booked.levels = 0 ∧ booked.character = c.withLevelPercent 0.0 ∧
        ¬ Character.threshold rules c.level < Character.threshold rules (c.level + 1) ∨
      ∃ rated, Character.threshold rules c.level < Character.threshold rules (c.level + 1) ∧
        booked.character = c.raised rules (addUpTo max64 c.progress.experience rated) ∧
        booked.levels = (c.climbed rules (addUpTo max64 c.progress.experience rated)).level - c.level := by
  subst h
  by_cases barred : c.flags.has .notGainExperience
  · exact .inl (by simp [addExperience, barred, unchanged])
  by_cases grows : Character.threshold rules c.level < Character.threshold rules (c.level + 1)
  swap
  · exact .inr (.inl (by simp [addExperience, barred, grows]))
  obtain ⟨⟨rated, t⟩, hrated⟩ : ∃ x, rates.experience c source amount s = x := ⟨_, rfl⟩
  by_cases cancelled : rated = 0
  · exact .inl (by simp [addExperience, barred, grows, hrated, cancelled, unchanged])
  obtain ⟨u, hvalue⟩ := exists_value_addExperience announce barred grows hrated cancelled
  rw [hvalue]
  exact .inr (.inr ⟨rated, grows, rfl, rfl⟩)

/-- Experience is not taken, or the levels that what is left does not cover are dropped. -/
theorem cases_removeExperience {amount : Nat} {announce : Bool}
    (h : (removeExperience rules rates c amount announce s).value = booked) :
    booked.levels = 0 ∧ booked.character = c ∨
      ∃ kept ≤ c.progress.experience,
        booked.character = (c.withExperience kept).dropLevels rules (rules.vocationOf? c) true ∧
        booked.levels = c.level - booked.character.level := by
  subst h
  by_cases nothing : c.progress.experience = 0 || amount = 0
  · exact .inl (by simp [removeExperience, nothing, unchanged])
  obtain ⟨⟨rated, t⟩, hrated⟩ : ∃ x, rates.loss c amount s = x := ⟨_, rfl⟩
  by_cases cancelled : rated = 0
  · exact .inl (by simp [removeExperience, nothing, hrated, cancelled, unchanged])
  refine .inr ⟨c.progress.experience - rated, Nat.sub_le _ _, ?_⟩
  simp only [removeExperience, if_neg nothing, hrated, if_neg cancelled, Told.value_bind]
  exact ⟨rfl, rfl⟩

/-! ## Training -/

@[simp] theorem levelSheet_write (track : TrainedTrack) (c : Character) (f : Footing) (p : Float) :
    (track.write c f p).levelSheet = c.levelSheet := by cases track <;> rfl

theorem levelSheet_addTries {track : TrainedTrack} {amount : Nat}
    (h : (addTries rules rates c track amount s).value = booked) :
    booked.character.levelSheet = c.levelSheet := by
  rcases cases_addTries _ _ _ _ _ h with ⟨hc, -⟩ | ⟨vocation, -, h⟩
  · rw [hc]
  · rcases cases_bookOn _ _ _ _ _ _ h with ⟨hc, -⟩ | ⟨rated, -, -, hc, -⟩
    · rw [hc]
    · rw [hc, levelSheet_write]

/-- Tries gathered while logged out are nothing, or are tries. -/
theorem character_addOfflineTries (rules : Rules) (rates : Rates σ) (c : Character) (track : Track)
    (tries : Nat) (s : σ) :
    (addOfflineTries rules rates c track tries s).value.character = c ∨
      ∃ trained : TrainedTrack, (addOfflineTries rules rates c track tries s).value =
        (addTries rules rates c trained tries s).value := by
  unfold addOfflineTries
  split
  · next trained vocation _ _ =>
    simp only []
    split_ifs
    · exact .inl rfl
    · exact .inr ⟨trained, by cases trained <;> rfl⟩
  · exact .inl rfl

/-- A blocked hit takes one off the window, and may be a try for the shield. -/
theorem character_onBlockHit (rules : Rules) (rates : Rates σ) (c : Character) (a : Arena) (s : σ) :
    ∃ c', c'.levelSheet = c.levelSheet ∧ c'.trainingSheet = c.trainingSheet ∧
      ((onBlockHit rules rates c a s).value.character = c' ∨
        (onBlockHit rules rates c a s).value = (addTries rules rates c' (.skill .shield) 1 s).value) := by
  by_cases closed : c.combat.shieldBlockCount = 0
  · exact ⟨c, rfl, rfl, .inl (by simp [onBlockHit, closed, unchanged])⟩
  · refine ⟨{ c with combat :=
      { c.combat with shieldBlockCount := c.combat.shieldBlockCount - 1 } }, rfl, rfl, ?_⟩
    simp only [onBlockHit, if_neg closed]
    split_ifs
    · exact .inr rfl
    · exact .inl rfl

end Progress

/-! ## Deaths -/

namespace Death

variable (rules : Rules) (rates : Rates σ) (c : Character) (killer : Option CreatureView) (s : σ)

/-- The share of all progress that a death takes. -/
def shareLost : Float :=
  appliedLoss rules c killer (rules.vocationOf? c) (c.assessFight rules killer).unfairFightReduction

/-- The character whose magic and skills have paid for a death. -/
def paid : Character :=
  let loss := shareLost rules c killer
  (rules.vocationOf? c).elim c fun v => loseSkills v loss (loseMagic v loss c)

theorem levelSheet_loseSkills (vocation : Vocation) (loss : Float) :
    (loseSkills vocation loss c).levelSheet = c.levelSheet := by
  unfold loseSkills
  induction Skill.all generalizing c with
  | nil => rfl
  | cons k skills ih =>
    rw [List.foldl_cons, ih]
    rfl

@[simp] theorem levelSheet_paid : (paid rules c killer).levelSheet = c.levelSheet := by
  unfold paid
  cases rules.vocationOf? c with
  | none => rfl
  | some v =>
    rw [Option.elim_some, levelSheet_loseSkills]
    rfl

theorem vocation_paid : (paid rules c killer).vocation = c.vocation :=
  congrArg LevelSheet.vocation (levelSheet_paid rules c killer)

/-- Experience is not taken, or the levels that what is left does not cover are dropped. -/
theorem cases_loseExperience {vocation : Option Vocation} {loss : Float} {booked : Booked σ}
    (h : (loseExperience rules rates vocation loss c s).value = booked) :
    booked.levels = 0 ∧ booked.character = c ∨
      ∃ kept ≤ c.progress.experience,
        booked.character = (c.withExperience kept).dropLevels rules vocation false ∧
        booked.levels = c.level - booked.character.level := by
  subst h
  obtain ⟨⟨rated, t⟩, hrated⟩ : ∃ x, rates.loss c
    (Binary64.toCount (Binary64.ofNat c.progress.experience * loss)) s = x := ⟨_, rfl⟩
  by_cases cancelled : rated = 0
  · exact .inl (by simp [loseExperience, hrated, cancelled])
  right
  simp only [loseExperience, hrated, if_neg cancelled, Told.value_bind]
  by_cases taken : losesExperience c vocation
  · refine ⟨c.progress.experience - rated, Nat.sub_le _ _, ?_⟩
    simp only [if_pos taken]
    exact ⟨rfl, rfl⟩
  · refine ⟨c.progress.experience, Nat.le_refl _, ?_⟩
    simp only [if_neg taken]
    exact ⟨rfl, rfl⟩

@[simp] theorem levelSheet_wakeUp (config : GameConfig) :
    (wakeUp config c).levelSheet = c.levelSheet := by
  unfold wakeUp
  split_ifs <;> rfl

@[simp] theorem trainingSheet_wakeUp (config : GameConfig) :
    (wakeUp config c).trainingSheet = c.trainingSheet := by
  unfold wakeUp
  split_ifs <;> rfl

/-- A free death leaves both sheets alone.  Any other one is paid for in training, and experience may be
taken with the levels that what is left does not cover. -/
theorem cases_resolve {after : Character × σ × DeathOutcome}
    (h : (resolve rules rates c killer s).value = after) :
    c.combat.skillLoss = false ∧ after.1.levelSheet = c.levelSheet ∧
        after.1.trainingSheet = c.trainingSheet ∧ after.2.2.levelsLost = 0 ∨
      c.combat.skillLoss = true ∧ after.1.trainingSheet = (paid rules c killer).trainingSheet ∧
        (after.1.levelSheet = c.levelSheet ∧ after.2.2.levelsLost = 0 ∨
          ∃ kept ≤ c.progress.experience,
            after.1.levelSheet = (((paid rules c killer).withExperience kept).dropLevels rules
              (rules.vocationOf? c) false).levelSheet ∧
            after.2.2.levelsLost = c.level - after.1.level) := by
  subst h
  by_cases armed : c.combat.skillLoss
  swap
  · left
    simp only [Bool.not_eq_true] at armed
    simp only [resolve, armed, Bool.not_false, if_true, Told.value_bind]
    exact ⟨trivial, rfl, rfl, rfl⟩
  right
  obtain ⟨booked, hbooked⟩ : ∃ b, (loseExperience rules rates (rules.vocationOf? c)
    (shareLost rules c killer) (paid rules c killer) s).value = b := ⟨_, rfl⟩
  have hvalue : ∃ config pvp,
      (resolve rules rates c killer s).value.1 =
        atTemple (wakeUp config (stripBlessings config pvp booked.character)) ∧
      (resolve rules rates c killer s).value.2.2.levelsLost = booked.levels := by
    subst hbooked
    simp only [resolve, armed, Bool.not_true]
    exact ⟨_, _, rfl, rfl⟩
  obtain ⟨config, pvp, hcharacter, hlevels⟩ := hvalue
  have hsheet : (resolve rules rates c killer s).value.1.levelSheet = booked.character.levelSheet := by
    rw [hcharacter]
    exact levelSheet_wakeUp _ config
  have htraining :
      (resolve rules rates c killer s).value.1.trainingSheet = booked.character.trainingSheet := by
    rw [hcharacter]
    exact trainingSheet_wakeUp _ config
  have hlevel : (resolve rules rates c killer s).value.1.level = booked.character.level :=
    congrArg LevelSheet.level hsheet
  rw [hsheet, htraining, hlevels, hlevel]
  rcases cases_loseExperience _ _ _ _ hbooked with ⟨hzero, hc⟩ | ⟨kept, hkept, hc, hlost⟩
  · rw [hc, hzero, levelSheet_paid]
    exact ⟨armed, rfl, .inl ⟨rfl, rfl⟩⟩
  · have hexperience : (paid rules c killer).progress.experience = c.progress.experience :=
      congrArg LevelSheet.experience (levelSheet_paid rules c killer)
    have hlevel : (paid rules c killer).level = c.level :=
      congrArg LevelSheet.level (levelSheet_paid rules c killer)
    rw [hlevel] at hlost
    rw [hexperience] at hkept
    refine ⟨armed, ?_, .inr ⟨kept, hkept, by rw [hc], hlost⟩⟩
    rw [hc]
    exact Character.trainingSheet_dropLevels _ _ _ _

end Death

end Adventurer
