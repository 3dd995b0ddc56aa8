import Adventurer.Proofs.Progress.Tracks

/-!
# Skills and magic agree with what was gathered

A track is coherent when its level lies on its curve, what was gathered since does not reach the next
requirement, and the percent shown is that of the count, zero where the curve ends.  Training keeps every
track coherent, and so does a death, which walks back down, but for two slips: tries gathered at the last
level of a skill are shown as a percent once a death has taken some of them, and a magic curve that ends
at level zero still grows there.  `trainingCoherent_throughout_iff` says that nothing else goes wrong.
-/

namespace Adventurer

open Progress

variable {σ : Type}

/-! ## Nothing gathered -/

/-- Zero over anything is a zero of either sign or not a number. -/
theorem zero_div (x : Float) : 0.0 / x = 0.0 ∨ 0.0 / x = -0.0 ∨ 0.0 / x = 0.0 / 0.0 := by
  have hzero : (0.0 : Float).toModel.unpack = .zero .positive := by rfl
  have hdiv : (0.0 : Float) / x =
      ⟨.pack (Float.Model.UnpackedFloat.div Float.Model.Format.binary64 (.zero .positive)
        x.toModel.unpack)⟩ := by
    rw [← hzero]
    rfl
  rw [hdiv]
  cases x.toModel.unpack with
  | notANumber => exact .inr (.inr (by decide +kernel))
  | infinity sign =>
    cases sign with
    | positive => exact .inl (by decide +kernel)
    | negative => exact .inr (.inl (by decide +kernel))
  | zero sign => cases sign <;> exact .inr (.inr (by decide +kernel))
  | finite sign m e h =>
    cases sign with
    | positive =>
      left
      change (⟨.pack (.zero .positive)⟩ : Float) = 0.0
      decide +kernel
    | negative =>
      right; left
      change (⟨.pack (.zero .negative)⟩ : Float) = -0.0
      decide +kernel

/-- Of nothing gathered the percent is zero, whatever the requirement. -/
theorem percentOf_zero (next : Nat) : percentOf 0 next = 0.0 := by
  unfold percentOf
  split
  · rfl
  · have hzero : Binary64.ofNat 0 * 100.0 = 0.0 := by decide +kernel
    rw [hzero]
    rcases zero_div (Binary64.ofNat next) with h | h | h <;> rw [h] <;> decide +kernel

/-! ## Footings on a curve -/

namespace Footing

/-- The curve grows from one level up to another. -/
def Rising (require : Nat → Nat) (floor last : Nat) : Prop :=
  ∀ l, floor ≤ l → l < last → require l < require (l + 1)

/-- The curve is flat from a level on. -/
def Ends (require : Nat → Nat) (last : Nat) : Prop := ∀ l, last ≤ l → require (l + 1) ≤ require l

/-- The level lies on the curve, and what was gathered since does not reach the next. -/
structure Coherent (require : Nat → Nat) (floor last : Nat) (f : Footing) : Prop where
  lower : floor ≤ f.level
  upper : f.level ≤ last
  short : f.count < require (f.level + 1) ∨ f.level = last ∧ f.count = 0

/-- The percent that belongs to a footing on a curve that ends at `last`. -/
def freshPercent (require : Nat → Nat) (last : Nat) (f : Footing) : Float :=
  if f.level = last then 0.0 else percentOf f.count (require (f.level + 1))

variable {require : Nat → Nat} {floor last : Nat} {f : Footing}

theorem Coherent.percent_eq (h : f.Coherent require floor last) (hrise : Rising require floor last)
    (hend : Ends require last) : f.percent require = f.freshPercent require last := by
  unfold percent trackPercent freshPercent
  by_cases top : f.level = last
  · rw [if_pos top, if_neg (Nat.not_lt.mpr (hend f.level (Nat.le_of_eq top.symm)))]
  · rw [if_neg top, if_pos (hrise f.level h.lower (Nat.lt_of_le_of_ne h.upper top))]

theorem Coherent.advance (h : f.Coherent require floor last) (hrise : Rising require floor last)
    (hend : Ends require last) (grows : require f.level < require (f.level + 1)) (amount : Nat) :
    (f.advance require amount).Coherent require floor last := by
  have hlower : floor ≤ (f.advance require amount).level :=
    Nat.le_trans h.lower (le_advance_level require f amount)
  have hupper : (f.advance require amount).level ≤ last := advance_level_le hend h.upper grows amount
  refine ⟨hlower, hupper, ?_⟩
  rcases rests_advance grows amount with ⟨-, short⟩ | ⟨flat, none⟩
  · exact .inl short
  · refine .inr ⟨Nat.le_antisymm hupper (Nat.le_of_not_lt fun below => ?_), none⟩
    exact Nat.not_lt.mpr flat (hrise _ hlower below)

/-! ### Walking back -/

theorem recede_of_le {lost : Nat} (h : lost ≤ f.count) :
    f.recede require floor lost = ⟨f.level, f.count - lost⟩ := by
  rw [recede, if_pos h]

theorem recede_level_le {lost : Nat} (h : floor ≤ f.level) :
    (f.recede require floor lost).level ≤ f.level := by
  fun_induction recede require floor f lost with
  | case1 => exact Nat.le_refl _
  | case2 => exact h
  | case3 f lost _ high ih =>
    have hlower : floor ≤ f.level - 1 := by omega
    exact Nat.le_trans (ih hlower) (Nat.sub_le _ _)

/-- A loss of more than was gathered since the level leaves the level, unless it is the lowest one. -/
theorem recede_of_lt {lost : Nat} (hlost : f.count < lost) :
    (f.recede require floor lost).level < f.level ∨ f.recede require floor lost = ⟨floor, 0⟩ := by
  rw [recede, if_neg (Nat.not_le.mpr hlost)]
  split_ifs with low
  · exact .inr rfl
  · have hlower : floor ≤ f.level - 1 := by omega
    have hle := @recede_level_le require floor ⟨f.level - 1, require f.level⟩ (lost - f.count) hlower
    left
    simp only at hle
    omega

/-- The walk back ends on the curve.  It starts from a coherent footing, or from the requirement of a
level just left, of which something is yet to be taken. -/
theorem coherent_recede {lost : Nat} (hrise : Rising require floor last) (lower : floor ≤ f.level)
    (upper : f.level ≤ last)
    (h : (f.count < require (f.level + 1) ∨ f.level = last ∧ f.count = 0) ∨
      f.count = require (f.level + 1) ∧ 0 < lost) :
    (f.recede require floor lost).Coherent require floor last := by
  fun_induction recede require floor f lost with
  | case1 f lost enough =>
    refine ⟨lower, upper, ?_⟩
    simp only
    omega
  | case2 f lost more low =>
    have hpositive (hlast : floor < last) : 0 < require (floor + 1) :=
      Nat.lt_of_le_of_lt (Nat.zero_le _) (hrise floor (Nat.le_refl _) hlast)
    refine ⟨Nat.le_refl _, Nat.le_trans lower upper, ?_⟩
    rcases Nat.lt_or_eq_of_le (Nat.le_trans lower upper) with hlast | hlast
    · exact .inl (hpositive hlast)
    · exact .inr ⟨hlast, rfl⟩
  | case3 f lost more high ih =>
    have hlevel : f.level - 1 + 1 = f.level := by omega
    refine ih ?_ ?_ (.inr ⟨?_, ?_⟩)
    · show floor ≤ f.level - 1
      omega
    · show f.level - 1 ≤ last
      omega
    · show require f.level = require (f.level - 1 + 1)
      rw [hlevel]
    · omega

theorem Coherent.recede (h : f.Coherent require floor last) (hrise : Rising require floor last)
    (lost : Nat) : (f.recede require floor lost).Coherent require floor last :=
  coherent_recede hrise h.lower h.upper (.inl h.short)

/-- If nothing was gathered at the end of the curve then nothing is after a loss. -/
theorem count_recede_of_top {lost : Nat} (upper : f.level ≤ last)
    (h : f.level = last → f.count = 0) (top : (f.recede require floor lost).level = last) :
    (f.recede require floor lost).count = 0 := by
  by_cases enough : lost ≤ f.count
  · rw [recede_of_le enough] at top ⊢
    have hnone : f.count = 0 := h top
    simp only
    omega
  · rcases recede_of_lt (Nat.lt_of_not_le enough) with down | low
    · exact absurd top (Nat.ne_of_lt (Nat.lt_of_lt_of_le down upper))
    · rw [low]

/-- The percent read without regard to the end of the curve is the right one after a loss, unless
the footing stays at the end with something gathered that counts. -/
theorem Coherent.percentOf_recede (h : f.Coherent require floor last) (lost : Nat) :
    percentOf (f.recede require floor lost).count
          (require ((f.recede require floor lost).level + 1)) =
        (f.recede require floor lost).freshPercent require last ↔
      ¬ (f.level = last ∧ lost ≤ f.count ∧ percentOf (f.count - lost) (require (last + 1)) ≠ 0.0) := by
  by_cases enough : lost ≤ f.count
  · rw [recede_of_le enough, freshPercent]
    by_cases top : f.level = last
    · simp [top, enough]
    · simp [top]
  · simp only [enough, false_and, and_false, not_false_iff, iff_true, freshPercent]
    rcases recede_of_lt (Nat.lt_of_not_le enough) with down | low
    · rw [if_neg (Nat.ne_of_lt (Nat.lt_of_lt_of_le down h.upper))]
    · rw [low, percentOf_zero, ite_self]

end Footing

/-! ## Tracks -/

namespace Progress.TrainedTrack

/-- The track lies on its curve and shows the percent that belongs there. -/
def Coherent (track : TrainedTrack) (v : Vocation) (c : Character) : Prop :=
  (track.footing c).Coherent (track.require v) track.floor (track.last v) ∧
    track.shown c = (track.footing c).freshPercent (track.require v) (track.last v)

/-- The curve of the track grows up to its last level. -/
def Rises (track : TrainedTrack) (v : Vocation) : Prop :=
  Footing.Rising (track.require v) track.floor (track.last v)

variable {track : TrainedTrack} {v : Vocation} {loss : Float} {c d : Character}

theorem ends_skill (v : Vocation) (k : Skill) : Footing.Ends (v.skillTries k) v.maxSkillLevel := by
  intro l hl
  have hnext : v.maxSkillLevel ≤ l + 1 := Nat.le_succ_of_le hl
  simp only [Vocation.skillTries, Nat.min_eq_right hl, Nat.min_eq_right hnext, Nat.le_refl]

/-- The curve of the magic ends as it should if it does not end at level zero. -/
theorem ends_magic (h : 0 < v.maxMagicLevel) : Footing.Ends v.manaRequired v.maxMagicLevel := by
  intro l hl
  have hnext : v.maxMagicLevel ≤ l + 1 := Nat.le_succ_of_le hl
  have hzero : l ≠ 0 := by omega
  simp only [Vocation.manaRequired, Nat.min_eq_right hl, Nat.min_eq_right hnext, hzero,
    Nat.succ_ne_zero, if_false, Nat.le_refl]

theorem Coherent.kept (h : track.Coherent v c) (hd : track.Kept c d) : track.Coherent v d := by
  unfold Coherent
  rw [hd.1, hd.2]
  exact h

theorem Coherent.trained (h : track.Coherent v c) (hrise : track.Rises v)
    (hend : Footing.Ends (track.require v) (track.last v)) (hd : track.Trained v c d) :
    track.Coherent v d := by
  obtain ⟨grows, ⟨rated, hfooting⟩, hshown⟩ := hd
  have hcoherent := h.1.advance hrise hend grows rated
  rw [← hfooting] at hcoherent
  exact ⟨hcoherent, hshown.trans (hcoherent.percent_eq hrise hend)⟩

/-- A death leaves tries at the end of the curve of a skill that make a percent. -/
def SkillSlip (v : Vocation) (loss : Float) (c : Character) (k : Skill) : Prop :=
  let record := c.skill k
  let lost := Footing.lostCount (v.skillTries k) Skill.startingLevel ⟨record.level, record.tries⟩ loss
  record.level = v.maxSkillLevel ∧ lost ≤ record.tries ∧
    percentOf (record.tries - lost) (v.skillTries k (v.maxSkillLevel + 1)) ≠ 0.0

/-- The magic has been trained past an end at level zero. -/
def MagicSlip (v : Vocation) (c : Character) : Prop :=
  v.maxMagicLevel = 0 ∧ (c.progress.magicLevel ≠ 0 ∨ c.progress.magicLevelPercent ≠ 0.0)

theorem coherent_skill_lost {k : Skill} (h : (skill k).Coherent v c) (hrise : (skill k).Rises v)
    (hd : (skill k).Lost v loss c d) : (skill k).Coherent v d ↔ ¬ SkillSlip v loss c k := by
  obtain ⟨hfooting, hshown⟩ := hd
  have hcoherent := h.1.recede hrise
    (((skill k).footing c).lostCount ((skill k).require v) (skill k).floor loss)
  have hpercent := h.1.percentOf_recede
    (((skill k).footing c).lostCount ((skill k).require v) (skill k).floor loss)
  unfold Footing.lose at hfooting
  rw [← hfooting] at hcoherent hpercent
  refine Iff.trans ?_ hpercent
  rw [Coherent, hshown]
  exact ⟨fun hboth => hboth.2, fun hfresh => ⟨hcoherent, hfresh⟩⟩

theorem coherent_magic_lost (h : magicLevel.Coherent v c) (hrise : magicLevel.Rises v)
    (hend : Footing.Ends v.manaRequired v.maxMagicLevel) (hd : magicLevel.Lost v loss c d) :
    magicLevel.Coherent v d := by
  obtain ⟨hfooting, hshown⟩ := hd
  have hcoherent := h.1.recede hrise
    ((magicLevel.footing c).lostCount (magicLevel.require v) magicLevel.floor loss)
  unfold Footing.lose at hfooting
  rw [← hfooting] at hcoherent
  exact ⟨hcoherent, hshown.trans (hcoherent.percent_eq hrise hend)⟩

/-- On a curve that ends at level zero the magic is coherent exactly if it has not slipped. -/
theorem coherent_magic_zero (hzero : v.maxMagicLevel = 0)
    (hshort : (magicLevel.footing d).count < v.manaRequired ((magicLevel.footing d).level + 1) ∨
      (magicLevel.footing d).count = 0) :
    magicLevel.Coherent v d ↔ ¬ MagicSlip v d := by
  have hshown : magicLevel.shown d = d.progress.magicLevelPercent := rfl
  have hlevel : (magicLevel.footing d).level = d.progress.magicLevel := rfl
  unfold MagicSlip Coherent Footing.freshPercent
  rw [hshown]
  constructor
  · rintro ⟨hfooting, hpercent⟩ ⟨-, hslip⟩
    have hnone : (magicLevel.footing d).level = magicLevel.last v := by
      have hupper : (magicLevel.footing d).level ≤ v.maxMagicLevel := hfooting.upper
      show (magicLevel.footing d).level = v.maxMagicLevel
      omega
    rw [if_pos hnone] at hpercent
    rcases hslip with hslip | hslip
    · rw [hlevel] at hnone
      exact hslip (hnone.trans hzero)
    · exact hslip hpercent
  · intro hno
    have hnone : d.progress.magicLevel = 0 := by
      by_contra hne
      exact hno ⟨hzero, .inl hne⟩
    have hpercent : d.progress.magicLevelPercent = 0.0 := by
      by_contra hne
      exact hno ⟨hzero, .inr hne⟩
    have htop : (magicLevel.footing d).level = magicLevel.last v := hnone.trans hzero.symm
    rw [if_pos htop]
    refine ⟨⟨Nat.zero_le _, Nat.le_of_eq htop, ?_⟩, hpercent⟩
    exact hshort.imp_right fun hcount => ⟨htop, hcount⟩

/-- Whatever becomes of a track, what was gathered is short of the next requirement or nothing. -/
theorem short_of_cases (h : track.Coherent v c) (hrise : track.Rises v)
    (hd : track.Kept c d ∨ track.Trained v c d ∨ ∃ loss, track.Lost v loss c d) :
    (track.footing d).count < track.require v ((track.footing d).level + 1) ∨
      (track.footing d).count = 0 := by
  rcases hd with hkept | ⟨grows, ⟨rated, hfooting⟩, -⟩ | ⟨loss, hfooting, -⟩
  · rw [hkept.1]
    exact h.1.short.imp_right And.right
  · rw [hfooting]
    exact (Footing.rests_advance grows rated).imp And.right And.right
  · rw [hfooting]
    exact (h.1.recede hrise _).short.imp_right And.right

end Progress.TrainedTrack

/-! ## Deeds -/

namespace Progress

open TrainedTrack

/-- Every track is coherent. -/
def TrainingCoherent (v : Vocation) (c : Character) : Prop := ∀ track, Coherent track v c

/-- A deed after which a percent is shown at the end of a skill, or the magic is past its end. -/
def Slips (v : Vocation) (a : Act σ) (x : Career σ) : Prop :=
  (∃ loss k, a.shareTaken x = some loss ∧ SkillSlip v loss x.1 k) ∨
    MagicSlip v (a.perform x).character

variable {v : Vocation} {a : Act σ} {x : Career σ}

theorem coherent_skill_perform (hv : a.rules.vocationOf? x.1 = some v) {k : Skill}
    (hrise : (skill k).Rises v) (h : (skill k).Coherent v x.1) :
    (skill k).Coherent v (a.perform x).character ↔
      ∀ loss, a.shareTaken x = some loss → ¬ SkillSlip v loss x.1 k := by
  rcases cases_track a x hv (skill k) with ⟨hnone, hkept | htrained⟩ | ⟨loss, hloss, hlost⟩
  · refine iff_of_true (h.kept hkept) fun loss hloss => ?_
    rw [hnone] at hloss
    cases hloss
  · refine iff_of_true (h.trained hrise (ends_skill v k) htrained) fun loss hloss => ?_
    rw [hnone] at hloss
    cases hloss
  · rw [coherent_skill_lost h hrise hlost, hloss]
    constructor
    · rintro hno _ ⟨⟩
      exact hno
    · exact fun hall => hall loss rfl

theorem coherent_magic_perform (hv : a.rules.vocationOf? x.1 = some v)
    (hrise : magicLevel.Rises v) (h : magicLevel.Coherent v x.1) :
    magicLevel.Coherent v (a.perform x).character ↔ ¬ MagicSlip v (a.perform x).character := by
  have hcases := cases_track a x hv magicLevel
  by_cases hzero : v.maxMagicLevel = 0
  · refine coherent_magic_zero hzero ?_
    rcases hcases with ⟨-, hkept | htrained⟩ | ⟨loss, -, hlost⟩
    · exact short_of_cases h hrise (.inl hkept)
    · exact short_of_cases h hrise (.inr (.inl htrained))
    · exact short_of_cases h hrise (.inr (.inr ⟨loss, hlost⟩))
  · have hend := ends_magic (Nat.pos_of_ne_zero hzero)
    refine iff_of_true ?_ fun hslip => hzero hslip.1
    rcases hcases with ⟨-, hkept | htrained⟩ | ⟨loss, -, hlost⟩
    · exact h.kept hkept
    · exact h.trained hrise hend htrained
    · exact coherent_magic_lost h hrise hend hlost

/-- One deed keeps the training coherent exactly if it does not slip. -/
theorem trainingCoherent_perform (hv : a.rules.vocationOf? x.1 = some v)
    (hrise : ∀ track, Rises track v) (h : TrainingCoherent v x.1) :
    TrainingCoherent v (a.perform x).character ↔ ¬ Slips v a x := by
  have hskill (k : Skill) := coherent_skill_perform hv (hrise (skill k)) (h (skill k))
  have hmagic := coherent_magic_perform hv (hrise magicLevel) (h magicLevel)
  constructor
  · rintro hcoherent (⟨loss, k, hloss, hslip⟩ | hslip)
    · exact (hskill k).mp (hcoherent (skill k)) loss hloss hslip
    · exact hmagic.mp (hcoherent magicLevel) hslip
  · intro hno track
    cases track with
    | magicLevel => exact hmagic.mpr fun hslip => hno (.inr hslip)
    | skill k => exact (hskill k).mpr fun loss hloss hslip => hno (.inl ⟨loss, k, hloss, hslip⟩)

/-- Nothing is gathered at the last level of any skill. -/
def Settled (v : Vocation) (c : Character) : Prop :=
  ∀ k, (c.skill k).level = v.maxSkillLevel → (c.skill k).tries = 0

theorem not_slips_of_settled (hmagic : 0 < v.maxMagicLevel) (hsettled : Settled v x.1) :
    ¬ Slips v a x := by
  rintro (⟨loss, k, -, htop, -, hshown⟩ | ⟨hzero, -⟩)
  · rw [hsettled k htop, Nat.zero_sub, percentOf_zero] at hshown
    exact hshown rfl
  · omega

theorem settled_perform (hv : a.rules.vocationOf? x.1 = some v) (h : TrainingCoherent v x.1)
    (hsettled : Settled v x.1) : Settled v (a.perform x).character := by
  intro k htop
  have hbefore : ((skill k).footing x.1).level = v.maxSkillLevel → ((skill k).footing x.1).count = 0 :=
    hsettled k
  show ((skill k).footing (a.perform x).character).count = 0
  replace htop : ((skill k).footing (a.perform x).character).level = v.maxSkillLevel := htop
  rcases cases_track a x hv (skill k) with
    ⟨-, hkept | ⟨grows, ⟨rated, hfooting⟩, -⟩⟩ | ⟨loss, -, hfooting, -⟩
  · rw [hkept.1] at htop ⊢
    exact hbefore htop
  · rw [hfooting] at htop ⊢
    rcases Footing.rests_advance grows rated with ⟨hgrows, -⟩ | ⟨-, hnone⟩
    · exact absurd hgrows (Nat.not_lt.mpr (ends_skill v k _ (Nat.le_of_eq htop.symm)))
    · exact hnone
  · rw [hfooting] at htop ⊢
    exact Footing.count_recede_of_top (h (skill k)).1.upper hbefore htop

/-! ## Runs -/

/-- **Training stays coherent, but for two slips.**  Under one table of vocations, for a known vocation
whose curves grow up to their last levels: if it starts coherent then every state of a run is coherent
exactly if no deed of the run slips, that is leaves tries at the last level of a skill that show as a
percent, or trains a magic that should end at level zero.  If the magic does not end there and nothing
is gathered at the last level of a skill to begin with, then no deed slips. -/
theorem trainingCoherent_throughout_iff {base : Rules} {acts : List (Act σ)}
    (hlike : ∀ a ∈ acts, base.Alike a.rules) (hv : base.vocationOf? x.1 = some v)
    (hrise : ∀ track, Rises track v) (hx : TrainingCoherent v x.1) :
    ((∀ before, before <+: acts → TrainingCoherent v (after x before).1) ↔
        ∀ before a, before ++ [a] <+: acts → ¬ Slips v a (after x before)) ∧
      (0 < v.maxMagicLevel → Settled v x.1 →
        ∀ before, before <+: acts → TrainingCoherent v (after x before).1) := by
  have hknown (x : Career σ) (a : Act σ) (ha : base.Alike a.rules)
      (hx : base.vocationOf? x.1 = some v) :
      a.rules.vocationOf? x.1 = some v ∧ base.vocationOf? (step x a).1 = some v := by
    rw [← ha.vocationOf?_eq]
    exact ⟨hx, (congrArg base.vocation? (vocation_perform a x)).trans hx⟩
  constructor
  · exact Run.throughout_iff (fun a : Act σ => base.Alike a.rules)
      (fun _ x => base.vocationOf? x.1 = some v) (fun x => TrainingCoherent v x.1)
      (fun _ x a ha hx => (hknown x a ha hx).2)
      (fun _ x a ha hx h => trainingCoherent_perform (hknown x a ha hx).1 hrise h) acts x hlike hv hx
  · intro hmagic hsettled before hp
    have hkeep : ∀ (x : Career σ) (a : Act σ), base.Alike a.rules →
        base.vocationOf? x.1 = some v ∧ TrainingCoherent v x.1 ∧ Settled v x.1 →
        base.vocationOf? (step x a).1 = some v ∧ TrainingCoherent v (step x a).1 ∧
          Settled v (step x a).1 := by
      rintro x a ha ⟨hx, hcoherent, hsettled⟩
      obtain ⟨hnow, hnext⟩ := hknown x a ha hx
      exact ⟨hnext,
        (trainingCoherent_perform hnow hrise hcoherent).mpr (not_slips_of_settled hmagic hsettled),
        settled_perform hnow hcoherent hsettled⟩
    exact (Run.throughout hkeep hlike ⟨hv, hx, hsettled⟩ hp).2.1

/-! ## At school -/

/-- A knight whose skills end at level twelve and whose magic ends at level two. -/
def shortLearner : Vocation := { id := ⟨4⟩, name := "Knight", maxSkillLevel := 12, maxMagicLevel := 2 }

def schoolRules : Rules := { vocations := some fun _ => some shortLearner }

/-- Training past the end of the sword, a death and some more training. -/
def schooling : List (Act Unit) :=
  [⟨schoolRules, .base, .train (.skill .sword) 200⟩, ⟨schoolRules, .base, .die none⟩,
    ⟨schoolRules, .base, .trainOffline .magicLevel 500⟩]

/-- The knight with tries at the last level of the sword. -/
def fencer : Character := TrainedTrack.write knight (.skill .sword) ⟨12, 50⟩ 0.0

theorem rises_shortLearner (track : TrainedTrack) : Rises track shortLearner := by
  intro l hlow hhigh
  cases track with
  | magicLevel =>
    have hl : l = 0 ∨ l = 1 := by
      simp only [last, shortLearner] at hhigh
      omega
    rcases hl with rfl | rfl <;> decide +kernel
  | skill k =>
    have hl : l = 10 ∨ l = 11 := by
      simp only [floor, Skill.startingLevel, last, shortLearner] at hlow hhigh
      omega
    rcases hl with rfl | rfl <;> cases k <;> decide +kernel

theorem trainingCoherent_knight : TrainingCoherent shortLearner knight := by
  intro track
  cases track with
  | magicLevel => exact ⟨⟨by decide, by decide, .inl (by decide +kernel)⟩, by decide +kernel⟩
  | skill k =>
    cases k <;> exact ⟨⟨by decide, by decide, .inl (by decide +kernel)⟩, by decide +kernel⟩

theorem trainingCoherent_fencer : TrainingCoherent shortLearner fencer := by
  intro track
  by_cases sword : .skill .sword = track
  · subst sword
    exact ⟨⟨by decide, by decide, .inl (by decide +kernel)⟩, by decide +kernel⟩
  · exact (trainingCoherent_knight track).kept (kept_write_of_ne sword _ _)

theorem trainingCoherent_throughout_iff_schooling :
    (∀ a ∈ schooling, schoolRules.Alike a.rules) ∧
      schoolRules.vocationOf? knight = some shortLearner ∧ (∀ track, Rises track shortLearner) ∧
      TrainingCoherent shortLearner knight ∧
      ∀ before, before <+: schooling → TrainingCoherent shortLearner (after (knight, ()) before).1 := by
  have hlike : ∀ a ∈ schooling, schoolRules.Alike a.rules := by simp [schooling, Rules.Alike]
  have hsettled : Settled shortLearner knight := by
    intro k
    cases k <;> decide
  refine ⟨hlike, rfl, rises_shortLearner, trainingCoherent_knight, ?_⟩
  exact (trainingCoherent_throughout_iff hlike rfl rises_shortLearner trainingCoherent_knight).2
    (by decide) hsettled

/-- The fencer is coherent, dies and shows a percent at the last level of the sword. -/
theorem fencer_shown :
    schoolRules.vocationOf? fencer = some shortLearner ∧ (∀ track, Rises track shortLearner) ∧
      TrainingCoherent shortLearner fencer ∧
      let died := (after (fencer, ()) [⟨schoolRules, .base, .die none⟩]).1
      (died.skill .sword).level = shortLearner.maxSkillLevel ∧ (died.skill .sword).percent = 36.0 ∧
        ¬ TrainingCoherent shortLearner died := by
  have hshown : ((after (fencer, ()) [⟨schoolRules, .base, .die none⟩]).1.skill .sword).percent =
      36.0 := by decide +kernel
  have htop : ((after (fencer, ()) [⟨schoolRules, .base, .die none⟩]).1.skill .sword).level = 12 := by
    decide +kernel
  refine ⟨rfl, rises_shortLearner, trainingCoherent_fencer, htop, hshown, fun hcoherent => ?_⟩
  have hfresh := (hcoherent (.skill .sword)).2.trans (if_pos htop)
  have hzero : (36.0 : Float) = 0.0 := hshown.symm.trans hfresh
  exact absurd hzero (by decide +kernel)

end Progress

end Adventurer
