import Adventurer.Proofs.Progress.Deeds

/-!
# What a deed does to a track

Whatever happens to a character, of the magic and of each skill only three things can become: the track
stays as it is, or it has been walked up its curve, or a death has taken a share of all that was gathered
on it (`cases_track`).
-/

namespace Adventurer

open Progress

variable {σ : Type}

namespace Progress.TrainedTrack

/-- The level below which the track does not fall. -/
def floor : TrainedTrack → Nat
  | .magicLevel => 0
  | .skill _ => Skill.startingLevel

/-- The level from which the curve of the track is meant to be flat. -/
def last (v : Vocation) : TrainedTrack → Nat
  | .magicLevel => v.maxMagicLevel
  | .skill _ => v.maxSkillLevel

/-- The percent that a death writes; that of a skill is read whether or not its curve grows. -/
def percentAfterLoss (v : Vocation) (f : Footing) : TrainedTrack → Float
  | .magicLevel => f.percent v.manaRequired
  | .skill k => percentOf f.count (v.skillTries k (f.level + 1))

/-- The track is as it was. -/
def Kept (track : TrainedTrack) (c d : Character) : Prop :=
  track.footing d = track.footing c ∧ track.shown d = track.shown c

/-- The track has been walked up from where its curve grows. -/
def Trained (track : TrainedTrack) (v : Vocation) (c d : Character) : Prop :=
  track.require v (track.footing c).level < track.require v ((track.footing c).level + 1) ∧
    (∃ rated, track.footing d = (track.footing c).advance (track.require v) rated) ∧
    track.shown d = (track.footing d).percent (track.require v)

/-- A share of all that was gathered on the track has been taken. -/
def Lost (track : TrainedTrack) (v : Vocation) (loss : Float) (c d : Character) : Prop :=
  track.footing d = (track.footing c).lose (track.require v) track.floor loss ∧
    track.shown d = track.percentAfterLoss v (track.footing d)

variable {track : TrainedTrack} {v : Vocation} {loss : Float} {c d e : Character}

theorem kept_of_sheet (h : d.trainingSheet = c.trainingSheet) : track.Kept c d := by
  cases track with
  | magicLevel =>
    have hlevel : d.progress.magicLevel = c.progress.magicLevel := congrArg TrainingSheet.magicLevel h
    have hcount : d.progress.manaSpent = c.progress.manaSpent := congrArg TrainingSheet.manaSpent h
    refine ⟨?_, congrArg TrainingSheet.magicPercent h⟩
    simp only [footing, hlevel, hcount]
  | skill k =>
    have hskill : d.skill k = c.skill k := congrArg (fun s => s.skills.get k) h
    exact ⟨by simp only [footing, hskill], by simp only [shown, hskill]⟩

theorem kept_write_of_ne {other : TrainedTrack} (h : other ≠ track) (f : Footing) (p : Float) :
    track.Kept c (other.write c f p) := by
  cases other with
  | magicLevel =>
    cases track with
    | magicLevel => exact absurd rfl h
    | skill k => exact ⟨rfl, rfl⟩
  | skill j =>
    cases track with
    | magicLevel => exact ⟨rfl, rfl⟩
    | skill k =>
      have hskill : ((skill j).write c f p).skill k = c.skill k := by
        rw [write, Character.skill_setSkill, if_neg fun hj => h (congrArg _ hj)]
      exact ⟨by simp only [footing, hskill], by simp only [shown, hskill]⟩

theorem Kept.trained (h : track.Kept c d) (ht : track.Trained v d e) : track.Trained v c e := by
  unfold Trained at ht ⊢
  rwa [h.1] at ht

theorem Kept.trans (h : track.Kept c d) (h' : track.Kept d e) : track.Kept c e :=
  ⟨h'.1.trans h.1, h'.2.trans h.2⟩

end Progress.TrainedTrack

/-! ## Training -/

namespace Progress

variable {rules : Rules} {rates : Rates σ} {c : Character} {v : Vocation} {s : σ}

/-- Tries train the track they are for, or nothing. -/
theorem track_addTries (hv : rules.vocationOf? c = some v) (other track : TrainedTrack) (amount : Nat) :
    track.Kept c (addTries rules rates c other amount s).value.character ∨
      track.Trained v c (addTries rules rates c other amount s).value.character := by
  rcases cases_addTries _ _ _ _ _ rfl with ⟨hc, -⟩ | ⟨w, hw, hbook⟩
  · exact .inl (by rw [hc]; exact ⟨rfl, rfl⟩)
  obtain rfl : w = v := Option.some.inj (hw.symm.trans hv)
  rcases cases_bookOn _ _ _ _ _ _ hbook with ⟨hc, -⟩ | ⟨rated, -, grows, hc, -⟩
  · exact .inl (by rw [hc]; exact ⟨rfl, rfl⟩)
  by_cases h : other = track
  · subst h
    refine .inr ⟨grows, ⟨rated, ?_⟩, ?_⟩
    · rw [hc, TrainedTrack.footing_write]
    · rw [hc, TrainedTrack.shown_write, TrainedTrack.footing_write]
  · rw [hc]
    exact .inl (TrainedTrack.kept_write_of_ne h _ _)

end Progress

/-! ## Deaths -/

/-- Rewriting the records of some skills, each once, rewrites each of them by itself. -/
theorem Character.skill_foldl (f : Skill → SkillRecord → SkillRecord) (k : Skill) {skills : List Skill}
    (hnodup : skills.Nodup) (c : Character) :
    (skills.foldl (fun c j =>
        { c with progress := c.progress.setSkill j (f j (c.skill j)) }) c).skill k =
      if k ∈ skills then f k (c.skill k) else c.skill k := by
  induction skills generalizing c with
  | nil => rfl
  | cons j skills ih =>
    obtain ⟨hj, hrest⟩ := List.nodup_cons.mp hnodup
    rw [List.foldl_cons, ih hrest, Character.skill_setSkill]
    by_cases hk : j = k
    · subst hk
      simp [hj]
    · simp [hk, Ne.symm hk]

namespace Death

variable {rules : Rules} {v : Vocation} (loss : Float) (c : Character)

/-- Each skill pays for itself. -/
theorem skill_loseSkills (k : Skill) :
    (loseSkills v loss c).skill k = loseSkill v loss k (c.skill k) := by
  have hall : k ∈ Skill.all := Enumerated.mem_all k
  have hnodup : Skill.all.Nodup := by decide
  rw [loseSkills, Character.skill_foldl (loseSkill v loss) k hnodup, if_pos hall]

theorem magic_loseSkills :
    TrainedTrack.magicLevel.Kept c (loseSkills v loss c) := by
  unfold loseSkills
  induction Skill.all generalizing c with
  | nil => exact ⟨rfl, rfl⟩
  | cons k skills ih => exact TrainedTrack.Kept.trans ⟨rfl, rfl⟩ (ih _)

/-- A death takes its share of what is gathered on each track. -/
theorem lost_paid (hv : rules.vocationOf? c = some v) (killer : Option CreatureView)
    (track : TrainedTrack) :
    track.Lost v (shareLost rules c killer) c (paid rules c killer) := by
  rw [paid, hv, Option.elim_some]
  cases track with
  | magicLevel =>
    obtain ⟨hfooting, hshown⟩ := @magic_loseSkills v (shareLost rules c killer)
      (loseMagic v (shareLost rules c killer) c)
    unfold TrainedTrack.Lost
    rw [hfooting, hshown]
    exact ⟨rfl, rfl⟩
  | skill k =>
    have hskill := @skill_loseSkills v (shareLost rules c killer)
      (loseMagic v (shareLost rules c killer) c) k
    unfold TrainedTrack.Lost
    simp only [TrainedTrack.footing, TrainedTrack.shown, hskill]
    exact ⟨rfl, rfl⟩

end Death

/-! ## Deeds -/

namespace Progress

/-- The share of all that was gathered that a deed takes, if it is a death that costs something. -/
def Act.shareTaken (a : Act σ) (x : Career σ) : Option Float :=
  match a.deed with
  | .die killer => if x.1.combat.skillLoss then some (Death.shareLost a.rules x.1 killer) else none
  | _ => none

/-- What becomes of a track by one deed. -/
theorem cases_track (a : Act σ) (x : Career σ) {v : Vocation}
    (hv : a.rules.vocationOf? x.1 = some v) (track : TrainedTrack) :
    a.shareTaken x = none ∧
        (track.Kept x.1 (a.perform x).character ∨ track.Trained v x.1 (a.perform x).character) ∨
      ∃ loss, a.shareTaken x = some loss ∧ track.Lost v loss x.1 (a.perform x).character := by
  obtain ⟨rules, rates, deed⟩ := a
  cases deed with
  | gainExperience amount source announce =>
    left
    refine ⟨rfl, .inl (TrainedTrack.kept_of_sheet ?_)⟩
    rcases cases_addExperience rfl with ⟨-, hc⟩ | ⟨-, hc, -⟩ | ⟨rated, -, hc, -⟩
    · exact congrArg Character.trainingSheet hc
    · exact (congrArg Character.trainingSheet hc).trans rfl
    · exact (congrArg Character.trainingSheet hc).trans (Character.trainingSheet_raised _ _ _)
  | loseExperience amount announce =>
    left
    refine ⟨rfl, .inl (TrainedTrack.kept_of_sheet ?_)⟩
    rcases cases_removeExperience rfl with ⟨-, hc⟩ | ⟨kept, -, hc, -⟩
    · exact congrArg Character.trainingSheet hc
    · exact (congrArg Character.trainingSheet hc).trans (Character.trainingSheet_dropLevels _ _ _ _)
  | train other amount => exact .inl ⟨rfl, track_addTries hv other track amount⟩
  | trainOffline other tries =>
    left
    refine ⟨rfl, ?_⟩
    rcases character_addOfflineTries rules rates x.1 other tries x.2 with hc | ⟨trained, hc⟩
    · exact .inl (TrainedTrack.kept_of_sheet (congrArg Character.trainingSheet hc))
    · have htrack := @track_addTries _ rules rates x.1 v x.2 hv trained track tries
      rwa [← hc] at htrack
  | blockHit arena =>
    left
    refine ⟨rfl, ?_⟩
    obtain ⟨c, -, hsheet, hc | hc⟩ := character_onBlockHit rules rates x.1 arena x.2
    · exact .inl (TrainedTrack.kept_of_sheet ((congrArg Character.trainingSheet hc).trans hsheet))
    · have hvocation : c.vocation = x.1.vocation := congrArg TrainingSheet.vocation hsheet
      have hvc : rules.vocationOf? c = some v := (congrArg rules.vocation? hvocation).trans hv
      have htrack := @track_addTries _ rules rates c v x.2 hvc (.skill .shield) track 1
      rw [← hc] at htrack
      have hkept : track.Kept x.1 c := TrainedTrack.kept_of_sheet hsheet
      exact htrack.imp hkept.trans hkept.trained
  | die killer =>
    rcases Death.cases_resolve rules rates x.1 killer x.2 rfl with
      ⟨hfree, -, hsheet, -⟩ | ⟨harmed, hsheet, -⟩
    · refine .inl ⟨?_, .inl (TrainedTrack.kept_of_sheet hsheet)⟩
      exact if_neg (by simp [hfree])
    · refine .inr ⟨Death.shareLost rules x.1 killer, if_pos harmed, ?_⟩
      have hkept := @TrainedTrack.kept_of_sheet track _ _ hsheet
      have hpaid := Death.lost_paid x.1 hv killer track
      unfold TrainedTrack.Lost at hpaid ⊢
      rw [← hkept.1, ← hkept.2] at hpaid
      exact hpaid

end Progress

end Adventurer
