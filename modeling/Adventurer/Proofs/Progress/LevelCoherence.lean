import Adventurer.Proofs.Progress.Deeds

/-!
# The level agrees with the experience

A character is level coherent when its experience lies between the thresholds of its level and of the next
one, and the percent and the speed shown are those of its level.  Gaining experience, losing it and dying
each restore this, whatever the amounts (`levelCoherent_throughout`).
-/

namespace Adventurer

open Character Progress

variable {σ : Type} {rules rules' : Rules} {c d : Character}

/-- The level fits the experience: it is covered, and the next one is not reached or the curve is flat
there. -/
structure LevelFits (rules : Rules) (c : Character) : Prop where
  covered : threshold rules c.level ≤ c.progress.experience
  short : c.progress.experience < threshold rules (c.level + 1) ∨
    threshold rules (c.level + 1) ≤ threshold rules c.level

/-- The level, the experience and what comes with them fit together. -/
structure LevelCoherent (rules : Rules) (c : Character) : Prop extends LevelFits rules c where
  /-- The percent is that of the way from the level to the next, zero where the curve is flat. -/
  percent : c.progress.levelPercent = c.freshLevelPercent rules
  /-- The speed is that of the level, if the vocation is known and no flag sets it. -/
  speed : ∀ v, rules.vocationOf? c = some v → ¬ c.flags.has .setMaxSpeed →
    c.baseSpeed = speedAt v.baseSpeed c.level

namespace LevelCoherent

/-- Coherence is read off the sheet. -/
theorem congr (h : LevelCoherent rules c) (hsheet : d.levelSheet = c.levelSheet) :
    LevelCoherent rules d := by
  have hlevel : d.level = c.level := congrArg LevelSheet.level hsheet
  have hexperience : d.progress.experience = c.progress.experience :=
    congrArg LevelSheet.experience hsheet
  have hpercent : d.progress.levelPercent = c.progress.levelPercent :=
    congrArg LevelSheet.percent hsheet
  have hfresh : d.freshLevelPercent rules = c.freshLevelPercent rules := by
    simp only [freshLevelPercent, hlevel, hexperience]
  have hvocation : rules.vocationOf? d = rules.vocationOf? c :=
    congrArg rules.vocation? (congrArg LevelSheet.vocation hsheet)
  have hflags : d.flags = c.flags := congrArg LevelSheet.flags hsheet
  have hspeed : d.baseSpeed = c.baseSpeed := congrArg LevelSheet.speed hsheet
  refine ⟨⟨?_, ?_⟩, ?_, ?_⟩
  · rw [hlevel, hexperience]
    exact h.covered
  · rw [hlevel, hexperience]
    exact h.short
  · rw [hpercent, hfresh]
    exact h.percent
  · rw [hvocation, hflags, hspeed, hlevel]
    exact h.speed

theorem alike (h : LevelCoherent rules c) (ha : rules.Alike rules') : LevelCoherent rules' c := by
  refine ⟨⟨?_, ?_⟩, ?_, ?_⟩
  · rw [← ha.threshold_eq]
    exact h.covered
  · rw [← ha.threshold_eq]
    exact h.short
  · rw [← ha.freshLevelPercent_eq]
    exact h.percent
  · rw [← ha.vocationOf?_eq]
    exact h.speed

end LevelCoherent

/-! ## The speed of a level -/

namespace Character

variable (c : Character) (vocation : Option Vocation)

theorem baseSpeed_updateBaseSpeed {v : Vocation} (h : ¬ c.flags.has .setMaxSpeed) :
    (c.updateBaseSpeed (some v)).baseSpeed = speedAt v.baseSpeed c.level := by
  rw [updateBaseSpeed, if_neg h]

theorem updateBaseSpeed_refilled :
    c.refilled.updateBaseSpeed vocation = (c.updateBaseSpeed vocation).refilled := by
  unfold updateBaseSpeed refilled
  split_ifs
  · rfl
  · cases vocation <;> rfl

end Character

/-! ## The walks over levels -/

theorem threshold_le_max64 (rules : Rules) (level : Nat) : threshold rules level ≤ max64 :=
  Nat.min_le_left _ _

/-- The first level is covered by any experience. -/
theorem threshold_of_le_one (rules : Rules) {level : Nat} (h : level ≤ 1) :
    threshold rules level = 0 := by
  have hzero : min level rules.config.maxLevel - 1 = 0 := by omega
  simp [threshold, experienceFor, hzero]

section Walks

variable (vocation : Option Vocation)

/-- A climb ends short of the next level or where the curve is flat. -/
theorem levelFits_ascendAll (h : threshold rules c.level ≤ c.progress.experience) :
    LevelFits rules (c.ascendAll rules vocation) := by
  fun_induction ascendAll c rules vocation with
  | case1 c reached up grows ih => exact ih reached
  | case2 c reached up flat => exact ⟨reached, .inr (Nat.le_of_not_lt flat)⟩
  | case3 c short => exact ⟨h, .inl (Nat.lt_of_not_le short)⟩

/-- A descent ends at a level that is covered, at the latest at the first one, and each level that it
leaves is one that is not. -/
theorem levelFits_descendAll (starter : Bool)
    (h : c.progress.experience < threshold rules (c.level + 1) ∨
      threshold rules (c.level + 1) ≤ threshold rules c.level) :
    LevelFits rules (c.descendAll rules vocation starter) := by
  fun_induction descendAll c rules vocation starter with
  | case1 c high ih =>
    have hlevel : c.level - 1 + 1 = c.level := by omega
    refine ih (.inl ?_)
    show c.progress.experience < threshold rules (c.level - 1 + 1)
    rw [hlevel]
    exact high.2
  | case2 c low =>
    refine ⟨?_, h⟩
    by_cases first : c.level ≤ 1
    · rw [threshold_of_le_one rules first]
      exact Nat.zero_le _
    · omega

end Walks

/-- After a walk to a level that fits the new experience, a coherent character is coherent again once
its percent is read anew and, at another level than before, its speed. -/
theorem levelCoherent_walked {experience : Nat} (hw : Walked (c.withExperience experience) d)
    (hd : LevelFits rules d) (h : LevelCoherent rules c) :
    LevelCoherent rules
      ((if d.level = c.level then d else d.updateBaseSpeed (rules.vocationOf? c)).readPercent
        rules) := by
  have hknown : rules.vocationOf? d = rules.vocationOf? c := congrArg rules.vocation? hw.vocation
  by_cases same : d.level = c.level
  · rw [if_pos same]
    refine ⟨⟨hd.covered, hd.short⟩, rfl, fun v hv hflag => ?_⟩
    have hspeed : c.baseSpeed = speedAt v.baseSpeed c.level :=
      h.speed v (hknown.symm.trans hv) (hw.flags ▸ hflag)
    show d.baseSpeed = speedAt v.baseSpeed d.level
    rw [same, ← hspeed]
    exact hw.speed
  · rw [if_neg same]
    have hspeed (v : Vocation) (hv : rules.vocationOf? c = some v)
        (hflag : ¬ d.flags.has .setMaxSpeed) :
        (d.updateBaseSpeed (rules.vocationOf? c)).baseSpeed = speedAt v.baseSpeed d.level := by
      rw [hv]
      exact baseSpeed_updateBaseSpeed d hflag
    obtain ⟨speed, hu⟩ := updateBaseSpeed_eq d (rules.vocationOf? c)
    rw [hu] at hspeed ⊢
    exact ⟨⟨hd.covered, hd.short⟩, rfl, fun v hv hflag => hspeed v (hknown.symm.trans hv) hflag⟩

/-! ## Experience gained and lost -/

/-- The levels that more experience reaches fit it. -/
theorem levelFits_climbed (h : LevelFits rules c) (rated : Nat) :
    LevelFits rules (c.climbed rules (addUpTo max64 c.progress.experience rated)) := by
  refine levelFits_ascendAll _ ?_
  have hbound : threshold rules c.level ≤ max64 := threshold_le_max64 rules c.level
  have hcovered : threshold rules c.level ≤ c.progress.experience := h.covered
  show threshold rules c.level ≤ addUpTo max64 c.progress.experience rated
  unfold addUpTo
  omega

theorem levelCoherent_raised (h : LevelCoherent rules c) (rated : Nat) :
    LevelCoherent rules (c.raised rules (addUpTo max64 c.progress.experience rated)) := by
  set e := addUpTo max64 c.progress.experience rated
  have hclimbed : LevelCoherent rules
      ((if (c.climbed rules e).level = c.level then c.climbed rules e
        else (c.climbed rules e).updateBaseSpeed (rules.vocationOf? c)).readPercent rules) :=
    levelCoherent_walked (walked_ascendAll _ _ _) (levelFits_climbed h.toLevelFits rated) h
  refine hclimbed.congr ?_
  unfold raised
  split_ifs
  · rfl
  · rw [updateBaseSpeed_refilled]
    rfl

theorem levelCoherent_dropLevels (h : LevelCoherent rules c) {kept : Nat}
    (hkept : kept ≤ c.progress.experience) (starter : Bool) :
    LevelCoherent rules
      ((c.withExperience kept).dropLevels rules (rules.vocationOf? c) starter) := by
  have hfits : LevelFits rules
      ((c.withExperience kept).descendAll rules (rules.vocationOf? c) starter) :=
    levelFits_descendAll _ starter (h.short.imp_left (Nat.lt_of_le_of_lt hkept))
  exact @levelCoherent_walked rules c _ kept (walked_descendAll _ _ _ starter) hfits h

namespace Progress

variable {rates : Rates σ} {s : σ} {booked : Booked σ}

/-- Experience gained keeps the level coherent, whatever the rates make of the amount. -/
theorem levelCoherent_addExperience {amount : Nat} {source : Option CreatureId} {announce : Bool}
    (hbooked : (addExperience rules rates c amount source announce s).value = booked)
    (h : LevelCoherent rules c) :
    LevelCoherent rules booked.character ∧ c.level + booked.levels = booked.character.level := by
  rcases cases_addExperience hbooked with
    ⟨hlevels, hc⟩ | ⟨hlevels, hc, flat⟩ | ⟨rated, -, hc, hlevels⟩
  · rw [hlevels, hc]
    exact ⟨h, rfl⟩
  · -- where the curve is flat the percent is set to what it already is
    have hpercent : c.withLevelPercent 0.0 = c.readPercent rules := by
      rw [readPercent, freshLevelPercent, if_neg flat]
    rw [hlevels, hc, hpercent]
    exact ⟨⟨⟨h.covered, h.short⟩, rfl, h.speed⟩, rfl⟩
  · rw [hlevels, hc, level_raised]
    exact ⟨levelCoherent_raised h rated, Nat.add_sub_cancel' (le_level_climbed _ _ _)⟩

/-- Experience taken keeps the level coherent. -/
theorem levelCoherent_removeExperience {amount : Nat} {announce : Bool}
    (hbooked : (removeExperience rules rates c amount announce s).value = booked)
    (h : LevelCoherent rules c) :
    LevelCoherent rules booked.character ∧ booked.character.level + booked.levels = c.level := by
  rcases cases_removeExperience hbooked with ⟨hlevels, hc⟩ | ⟨kept, hkept, hc, hlevels⟩
  · rw [hlevels, hc]
    exact ⟨h, rfl⟩
  · rw [hlevels, hc]
    exact ⟨levelCoherent_dropLevels h hkept true, Nat.add_sub_cancel' (level_dropLevels_le _ _ _ _)⟩

/-- A death keeps the level coherent: what it takes of the training is no part of it, and the experience
it takes is taken with the levels. -/
theorem levelCoherent_resolve {killer : Option CreatureView} {died : Character × σ × DeathOutcome}
    (hdied : (Death.resolve rules rates c killer s).value = died) (h : LevelCoherent rules c) :
    LevelCoherent rules died.1 ∧ died.1.level + died.2.2.levelsLost = c.level := by
  have hpaid : LevelCoherent rules (Death.paid rules c killer) := h.congr (Death.levelSheet_paid _ _ _)
  have hlevel : (Death.paid rules c killer).level = c.level :=
    congrArg LevelSheet.level (Death.levelSheet_paid rules c killer)
  have hkeep (hsheet : died.1.levelSheet = c.levelSheet) (hlost : died.2.2.levelsLost = 0) :
      LevelCoherent rules died.1 ∧ died.1.level + died.2.2.levelsLost = c.level := by
    rw [hlost]
    exact ⟨h.congr hsheet, congrArg LevelSheet.level hsheet⟩
  rcases Death.cases_resolve _ _ _ _ _ hdied with
    ⟨-, hsheet, -, hlost⟩ | ⟨-, -, ⟨hsheet, hlost⟩ | ⟨kept, hkept, hsheet, hlost⟩⟩
  · exact hkeep hsheet hlost
  · exact hkeep hsheet hlost
  · have hknown : rules.vocationOf? (Death.paid rules c killer) = rules.vocationOf? c :=
      congrArg rules.vocation? (Death.vocation_paid rules c killer)
    have hexperience : (Death.paid rules c killer).progress.experience = c.progress.experience :=
      congrArg LevelSheet.experience (Death.levelSheet_paid rules c killer)
    have hdropped := levelCoherent_dropLevels hpaid (hexperience ▸ hkept) false
    rw [hknown] at hdropped
    have hle : died.1.level ≤ c.level := by
      rw [← hlevel]
      exact Nat.le_trans (Nat.le_of_eq (congrArg LevelSheet.level hsheet))
        (level_dropLevels_le _ _ _ _)
    exact ⟨hdropped.congr hsheet, hlost ▸ Nat.add_sub_cancel' hle⟩

end Progress

/-! ## Deeds -/

namespace Progress

variable (a : Act σ) {x : Career σ}

/-- The levels that a deed tells lie between the level before and the level after. -/
def LevelsTold (x : Career σ) : Prop :=
  let booked := a.perform x
  match a.deed with
  | .gainExperience .. => x.1.level + booked.levels = booked.character.level
  | .loseExperience .. | .die _ => booked.character.level + booked.levels = x.1.level
  | .train .. | .trainOffline .. | .blockHit _ => booked.character.level = x.1.level

/-- One deed keeps a coherent character coherent and tells the levels that it gained or lost. -/
theorem levelCoherent_perform (h : LevelCoherent a.rules x.1) :
    LevelCoherent a.rules (a.perform x).character ∧ LevelsTold a x := by
  have hkeep (hsheet : (a.perform x).character.levelSheet = x.1.levelSheet) :
      LevelCoherent a.rules (a.perform x).character ∧ (a.perform x).character.level = x.1.level :=
    ⟨h.congr hsheet, congrArg LevelSheet.level hsheet⟩
  unfold LevelsTold
  obtain ⟨rules, rates, deed⟩ := a
  cases deed with
  | gainExperience amount source announce => exact levelCoherent_addExperience rfl h
  | loseExperience amount announce => exact levelCoherent_removeExperience rfl h
  | die killer => exact levelCoherent_resolve rfl h
  | train track amount => exact hkeep (levelSheet_perform _ _ rfl)
  | trainOffline track tries => exact hkeep (levelSheet_perform _ _ rfl)
  | blockHit arena => exact hkeep (levelSheet_perform _ _ rfl)

/-- **A level always fits its experience.**  Under one table of vocations and one last level, whatever the
rates of each tick make of the amounts and whoever kills the character: if it starts coherent then every
state of the run is coherent, the levels that each deed tells are those between before and after, and
experience covers the level it raises to, so what it exceeds that level by is a true difference. -/
theorem levelCoherent_throughout {base : Rules} {acts : List (Act σ)}
    (hlike : ∀ a ∈ acts, base.Alike a.rules) {x : Career σ} (hx : LevelCoherent base x.1) :
    (∀ before, before <+: acts → LevelCoherent base (after x before).1) ∧
      ∀ before a, before ++ [a] <+: acts →
        LevelsTold a (after x before) ∧
        ∀ rated, let c := (after x before).1
          threshold a.rules (c.climbed a.rules (addUpTo max64 c.progress.experience rated)).level ≤
            addUpTo max64 c.progress.experience rated := by
  have hall {before : List (Act σ)} (hp : before <+: acts) : LevelCoherent base (after x before).1 :=
    @Run.throughout _ _ step (fun a => base.Alike a.rules) (fun x => LevelCoherent base x.1)
      (fun x a ha hx => (levelCoherent_perform a (hx.alike ha)).1.alike ha.symm) acts hlike x hx before hp
  refine ⟨fun before hp => hall hp, fun before a hp => ?_⟩
  have hnow : LevelCoherent a.rules (after x before).1 :=
    (hall ((List.prefix_append before [a]).trans hp)).alike
      (hlike a (hp.subset (List.mem_append_right before List.mem_cons_self)))
  refine ⟨(levelCoherent_perform a hnow).2, fun rated => ?_⟩
  exact Nat.le_trans (levelFits_climbed hnow.toLevelFits rated).covered
    (Nat.le_of_eq (walked_ascendAll _ _ _).experience)

theorem levelCoherent_knight : LevelCoherent knightRules knight where
  covered := by decide
  short := .inl (by decide)
  percent := by decide +kernel
  speed v hv _ := by
    cases hv
    rfl

theorem levelCoherent_throughout_knight :
    (∀ a ∈ fallAndRise, knightRules.Alike a.rules) ∧ LevelCoherent knightRules knight ∧
      ∀ before, before <+: fallAndRise → LevelCoherent knightRules (after (knight, ()) before).1 := by
  refine ⟨alike_fallAndRise, levelCoherent_knight, ?_⟩
  exact (levelCoherent_throughout alike_fallAndRise levelCoherent_knight).1

end Progress

end Adventurer
