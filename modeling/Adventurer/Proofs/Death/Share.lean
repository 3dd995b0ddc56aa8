import Adventurer.Content
import Adventurer.Death.Loss
import Adventurer.Proofs.Progress.Curve
import Mathlib.Algebra.Order.Field.Basic
import Mathlib.Algebra.Order.Field.Rat
import Mathlib.Tactic.FieldSimp
import Mathlib.Tactic.Linarith
import Mathlib.Tactic.NormNum
import Mathlib.Tactic.Positivity
import Mathlib.Tactic.Ring

/-!
# The share lost at death, reckoned exactly

The formula of the loss is read over the rationals here, with each double as the number it stands for.  The
share is never below zero and falls with the blessings that count.  It is at most the whole exactly if it is
`Mild` (`exactShare_fraction`), which a flat percentage need not be, as nothing bounds it where it is read
(`more_than_all_lost`), nor the curve where the experience a level asks for is past its largest value.
-/

namespace Adventurer

/-- The rational number that a finite double stands for. -/
def Binary64.exact (x : Float) : ℚ :=
  let magnitude : ℚ := (ratio x).1 / (ratio x).2
  if isNegative x then -magnitude else magnitude

instance : Reckoning ℚ where
  ofNat n := n
  nonNegative x := max x 0

/-! ## Blessings that count -/

/-- Whoever holds all the blessings of another has no fewer that count. -/
theorem Blessings.regularCount_mono {a b : Blessings} (h : ∀ index, a.has index = true → b.has index = true)
    (last : Nat) : a.regularCount last ≤ b.regularCount last :=
  List.countP_mono_left fun index _ => h index

namespace LossTerms

/-- The same terms in another number system. -/
def map {α β : Type} (read : α → β) (t : LossTerms α) : LossTerms β :=
  { t with levelPercent := read t.levelPercent }

/-- The numerator of the legacy curve at a level with its fraction. -/
def pace (level : ℚ) : ℚ := (level + 50) * 50 * (level * level - 5 * level + 8)

/-- The level with the part of the way to the next. -/
def exactLevel (t : LossTerms ℚ) : ℚ := t.level + t.levelPercent / 100

/-- What a share must keep to for being at most the whole: a flat percentage may exceed the whole by no more
than is relieved, and the relieved pace must not exceed what the largest experience makes up for. -/
def Mild (t : LossTerms ℚ) : LossFormula → Prop
  | .flat percent => percent ≤ 100 + t.flatRelief
  | .legacy => pace t.exactLevel * (100 - t.legacyRelief) ≤ 10000 * max64

/-- The experience has earned the level on a curve that ends at `last`, and the way to the next level is a
percentage. -/
structure OnCurve (t : LossTerms ℚ) (last : Nat) : Prop where
  level_le : t.level ≤ last
  earned : experienceFor t.level last ≤ t.experience
  width : t.experience ≤ max64
  percent_nonneg : 0 ≤ t.levelPercent
  percent_le : t.levelPercent ≤ 100

variable {t : LossTerms ℚ} {last : Nat} {x y : ℚ}

/-! ## The pace of the legacy curve -/

/-- The quadratic factor of the pace has no zero. -/
theorem pace_factor_pos (x : ℚ) : 0 < x * x - 5 * x + 8 := by nlinarith only [sq_nonneg (2 * x - 5)]

theorem pace_pos (hx : 0 ≤ x) : 0 < pace x := by
  have hfactor := pace_factor_pos x
  unfold pace
  positivity

theorem pace_mono (hx : 5 / 2 ≤ x) (hxy : x ≤ y) : pace x ≤ pace y := by
  have hfirst : (x + 50) * 50 ≤ (y + 50) * 50 := by linarith only [hxy]
  have hsecond : x * x - 5 * x + 8 ≤ y * y - 5 * y + 8 := by
    nlinarith only [mul_nonneg (sub_nonneg.mpr hxy) (by linarith only [hx, hxy] : 0 ≤ y + x - 5)]
  exact mul_le_mul hfirst hsecond (pace_factor_pos x).le (by linarith only [hx, hxy])

theorem pace_le_of_le (hx : 0 ≤ x) (hy : x ≤ y) : pace x ≤ (y + 50) * 50 * (y * y + 8) := by
  have hfirst : (x + 50) * 50 ≤ (y + 50) * 50 := by linarith only [hy]
  have hsquare : x * x ≤ y * y := mul_self_le_mul_self hx hy
  have hsecond : x * x - 5 * x + 8 ≤ y * y + 8 := by linarith only [hsquare, hx]
  exact mul_le_mul hfirst hsecond (pace_factor_pos x).le (by linarith only [hx, hy])

theorem exactLevel_nonneg (h : 0 ≤ t.levelPercent) : 0 ≤ t.exactLevel := by
  unfold exactLevel
  positivity

/-- The experience that a level asks for where nothing bounds it. -/
def asked (level : Nat) : Nat :=
  let l := level - 1
  (50 * l * l * l + 400 * l - 150 * l * l) / 3

theorem asked_eq_ideal (level : Nat) : asked level = Curve.ideal (level - 1) := Curve.quotient_eq _

theorem experienceFor_eq {level : Nat} (h : level ≤ last) :
    experienceFor level last = min max64 (asked level) := by
  rw [Curve.experienceFor_eq_ideal, Nat.min_eq_left h, asked_eq_ideal]

/-- From the level on where the legacy formula follows its curve, the pace up to the next level is at most a
hundred times the experience that the level asks for. -/
theorem pace_le {level : Nat} (hl : legacyCurveLevel ≤ level) (hlow : (level : ℚ) ≤ x) (hx : x ≤ level + 1) :
    pace x ≤ 100 * asked level := by
  obtain ⟨k, rfl⟩ := Nat.exists_eq_add_of_le hl
  have hk : (0 : ℚ) ≤ k := Nat.cast_nonneg k
  have hasked : (50 * (k + 23) * (k + 23) * (k + 23) + 400 * (k + 23) : ℚ) =
      3 * asked (24 + k) + 150 * (k + 23) * (k + 23) := by
    have hgained : 24 + k - 1 = k + 23 := by omega
    rw [asked_eq_ideal, hgained]
    exact_mod_cast Curve.cubic_eq (k + 23)
  have hlevel : ((legacyCurveLevel + k : Nat) : ℚ) = 24 + k := by
    unfold legacyCurveLevel
    push_cast
    rfl
  rw [hlevel] at hlow hx
  have hnext : pace x ≤ pace (24 + k + 1) := pace_mono (by linarith only [hlow, hk]) hx
  have hroom : 3 * pace (24 + k + 1) ≤ 100 * (50 * (k + 23) * (k + 23) * (k + 23) +
      400 * (k + 23) - 150 * (k + 23) * (k + 23) : ℚ) := by
    unfold pace
    nlinarith only [hk, mul_nonneg hk hk, mul_nonneg hk (mul_nonneg hk hk)]
  show pace x ≤ 100 * (asked (24 + k) : ℚ)
  linarith only [hasked, hnext, hroom]

/-- The earned experience makes up for a hundredth of the pace, unless the curve asks for more than the
largest experience. -/
theorem OnCurve.pace_le (h : t.OnCurve last) (hl : legacyCurveLevel ≤ t.level) :
    pace t.exactLevel ≤ 100 * t.experience ∨ t.experience = max64 := by
  have hpace : pace t.exactLevel ≤ 100 * asked t.level := by
    apply LossTerms.pace_le hl
    · unfold exactLevel
      linarith only [h.percent_nonneg]
    · unfold exactLevel
      linarith only [h.percent_le]
  have hearned := h.earned
  have hwidth := h.width
  rw [experienceFor_eq h.level_le] at hearned
  by_cases hfull : max64 < asked t.level
  · right
    omega
  · left
    have hle : asked t.level ≤ t.experience := by omega
    have hcast : (asked t.level : ℚ) ≤ t.experience := by exact_mod_cast hle
    linarith only [hpace, hcast]

/-- The largest experience makes up for a hundredth of the pace of the first three million levels. -/
theorem OnCurve.pace_le_max64 (h : t.OnCurve last) (hl : t.level ≤ 3000000) :
    pace t.exactLevel ≤ 100 * max64 := by
  have hhigh : t.exactLevel ≤ 3000001 := by
    have hlevel : (t.level : ℚ) ≤ 3000000 := by exact_mod_cast hl
    unfold exactLevel
    linarith only [hlevel, h.percent_le]
  refine (pace_le_of_le (exactLevel_nonneg h.percent_nonneg) hhigh).trans ?_
  norm_num [max64]

/-- What makes up for a hundredth of the pace does so the more after a relief. -/
theorem relieved_le {pace made : ℚ} (relief : Nat) (hpace : 0 ≤ pace) (h : pace ≤ 100 * made) :
    pace * (100 - relief) ≤ 10000 * made := by
  have hrelief : 0 ≤ pace * relief := mul_nonneg hpace (Nat.cast_nonneg relief)
  linarith only [h, hrelief]

/-! ## The bounds of a share -/

/-- The legacy loss in percent before vocation and blessings. -/
def base (t : LossTerms ℚ) : ℚ :=
  if legacyCurveLevel ≤ t.level then pace t.exactLevel / t.experience else 5

theorem share_flat (t : LossTerms ℚ) (percent : Int) :
    t.share (.flat percent) = ((percent - t.flatRelief).toNat : ℚ) / 100 := rfl

theorem share_legacy (t : LossTerms ℚ) :
    t.share .legacy = if legacyCurveLevel ≤ t.level ∧ t.experience = 0 then 0
      else max (t.base * (1 - t.legacyRelief / 100) / 100) (0 : ℚ) := by
  unfold share base
  simp only [Bool.and_eq_true, decide_eq_true_iff]
  split_ifs <;> rfl

theorem share_nonneg (t : LossTerms ℚ) (formula : LossFormula) : 0 ≤ t.share formula := by
  cases formula with
  | flat percent =>
    rw [share_flat]
    positivity
  | legacy =>
    rw [share_legacy]
    split_ifs
    · exact le_rfl
    · exact le_max_right _ _

theorem base_nonneg (h : 0 ≤ t.levelPercent) : 0 ≤ t.base := by
  have hpace := pace_pos (exactLevel_nonneg h)
  unfold base
  split_ifs <;> positivity

/-- The terms with another number of blessings. -/
def blessed (t : LossTerms ℚ) (blessings : Nat) : LossTerms ℚ := { t with blessings }

/-- Blessings never raise the share. -/
theorem share_blessed_le (h : 0 ≤ t.levelPercent) (formula : LossFormula) {blessings : Nat}
    (hle : t.blessings ≤ blessings) : (t.blessed blessings).share formula ≤ t.share formula := by
  cases formula with
  | flat percent =>
    have hrelief : t.flatRelief ≤ (t.blessed blessings).flatRelief := by
      show (if t.promoted then 3 else 0) + (t.blessings : Int) ≤ (if t.promoted then 3 else 0) + blessings
      omega
    have hpoints : (percent - (t.blessed blessings).flatRelief).toNat ≤ (percent - t.flatRelief).toNat := by
      omega
    rw [share_flat, share_flat]
    gcongr
  | legacy =>
    have hrelief : t.legacyRelief ≤ (t.blessed blessings).legacyRelief := by
      show t.blessings * 8 + (if t.promoted then 30 else 0) ≤ blessings * 8 + if t.promoted then 30 else 0
      omega
    have hbase := base_nonneg h
    have hblessed : (t.blessed blessings).share .legacy =
        if legacyCurveLevel ≤ t.level ∧ t.experience = 0 then 0
        else max (t.base * (1 - (t.blessed blessings).legacyRelief / 100) / 100) (0 : ℚ) := share_legacy _
    rw [hblessed, share_legacy]
    by_cases hfree : legacyCurveLevel ≤ t.level ∧ t.experience = 0
    · rw [if_pos hfree, if_pos hfree]
    · rw [if_neg hfree, if_neg hfree]
      gcongr

/-- Below the curve the share is at most a twentieth. -/
theorem share_legacy_le_of_lt (hl : t.level < legacyCurveLevel) : t.share .legacy ≤ 1 := by
  have hnot : ¬ legacyCurveLevel ≤ t.level := Nat.not_le.mpr hl
  have hrelief : (0 : ℚ) ≤ t.legacyRelief := Nat.cast_nonneg _
  rw [share_legacy, if_neg fun hfree => hnot hfree.1, base, if_neg hnot]
  refine max_le ?_ zero_le_one
  linarith only [hrelief]

/-- On the curve the relieved pace is weighed against the experience. -/
theorem share_legacy_le_one_iff (hl : legacyCurveLevel ≤ t.level) (he : 0 < t.experience) :
    t.share .legacy ≤ 1 ↔ pace t.exactLevel * (100 - t.legacyRelief) ≤ 10000 * t.experience := by
  have hexperience : (0 : ℚ) < t.experience := Nat.cast_pos.mpr he
  have hshare : t.base * (1 - t.legacyRelief / 100) / 100 =
      pace t.exactLevel * (100 - t.legacyRelief) / (10000 * t.experience) := by
    rw [base, if_pos hl]
    field_simp
    ring
  rw [share_legacy, if_neg fun hfree => he.ne' hfree.2, max_le_iff, hshare, and_iff_left zero_le_one,
    div_le_one (by positivity)]

/-- The share is at most the whole exactly if it is mild. -/
theorem share_le_one_iff (h : t.OnCurve last) (formula : LossFormula) :
    t.share formula ≤ 1 ↔ t.Mild formula := by
  cases formula with
  | flat percent =>
    rw [share_flat, div_le_one (by norm_num)]
    have hcast : ((percent - t.flatRelief).toNat : ℚ) ≤ 100 ↔ (percent - t.flatRelief).toNat ≤ 100 := by
      exact_mod_cast Iff.rfl
    rw [hcast]
    unfold Mild
    simp only
    omega
  | legacy =>
    have hpace := pace_pos (exactLevel_nonneg h.percent_nonneg)
    by_cases hl : legacyCurveLevel ≤ t.level
    · have hearned := h.pace_le hl
      have hexperience : 0 < t.experience := by
        rcases hearned with hle | hfull
        · have hpos : (0 : ℚ) < t.experience := by linarith only [hpace, hle]
          exact_mod_cast hpos
        · rw [hfull]
          decide
      rw [share_legacy_le_one_iff hl hexperience]
      rcases hearned with hle | hfull
      · have hwidth : (t.experience : ℚ) ≤ max64 := by exact_mod_cast h.width
        refine iff_of_true (relieved_le _ hpace.le hle) (relieved_le _ hpace.le ?_)
        linarith only [hle, hwidth]
      · rw [hfull]
        rfl
    · have hlow : t.level < legacyCurveLevel := Nat.lt_of_not_le hl
      have hle : t.level ≤ 3000000 := Nat.le_trans (Nat.le_of_lt hlow) (by decide)
      exact iff_of_true (share_legacy_le_of_lt hlow) (relieved_le _ hpace.le (h.pace_le_max64 hle))

/-- What a check of a configuration would have to see to. -/
theorem mild_of_bounded (h : t.OnCurve last) {formula : LossFormula}
    (hflat : ∀ percent, formula = .flat percent → percent ≤ 100) (hlast : last ≤ 3000000) :
    t.Mild formula := by
  cases formula with
  | flat percent =>
    have hpercent := hflat percent rfl
    unfold Mild flatRelief
    simp only
    omega
  | legacy =>
    have hpace := pace_pos (exactLevel_nonneg h.percent_nonneg)
    exact relieved_le _ hpace.le (h.pace_le_max64 (h.level_le.trans hlast))

end LossTerms

/-! ## The share of a character -/

namespace Character

variable {c : Character} {config : GameConfig} {vocation : Option Vocation}

/-- What the loss of a character depends on, exactly. -/
def exactTerms (c : Character) (config : GameConfig) (vocation : Option Vocation) : LossTerms ℚ :=
  (c.lossTerms config vocation).map Binary64.exact

/-- The share of progress that a death takes from a character, reckoned exactly. -/
def exactShare (c : Character) (config : GameConfig) (vocation : Option Vocation) : ℚ :=
  (c.exactTerms config vocation).share config.lossFormula

/-- A further blessing never raises the share. -/
theorem exactShare_le_of_has {b : Blessings} (hlow : 0 ≤ Binary64.exact c.progress.levelPercent)
    (h : ∀ index, c.blessings.has index = true → b.has index = true) :
    ({ c with blessings := b } : Character).exactShare config vocation ≤ c.exactShare config vocation :=
  LossTerms.share_blessed_le (t := c.exactTerms config vocation) hlow config.lossFormula
    (Blessings.regularCount_mono h config.maxBlessing)

/-- A flat percentage of at most a hundred, and at most three million levels, keep the share within the whole. -/
theorem exactShare_le_one (h : (c.exactTerms config vocation).OnCurve config.maxLevel)
    (hflat : ∀ percent, config.lossFormula = .flat percent → percent ≤ 100)
    (hlast : config.maxLevel ≤ 3000000) : c.exactShare config vocation ≤ 1 :=
  (LossTerms.share_le_one_iff h _).mpr (LossTerms.mild_of_bounded h hflat hlast)

/-- **What a death can take.**  The share lost by a character that stands on its curve is not below zero, is
at most the whole exactly if it is mild, and no larger with more regular blessings that count. -/
theorem exactShare_fraction (config : GameConfig) (c : Character) (vocation : Option Vocation)
    (h : (c.exactTerms config vocation).OnCurve config.maxLevel) :
    0 ≤ c.exactShare config vocation ∧
      (c.exactShare config vocation ≤ 1 ↔ (c.exactTerms config vocation).Mild config.lossFormula) ∧
      ∀ b : Blessings, c.blessings.regularCount config.maxBlessing ≤ b.regularCount config.maxBlessing →
        ({ c with blessings := b } : Character).exactShare config vocation ≤
          c.exactShare config vocation :=
  ⟨LossTerms.share_nonneg _ _, LossTerms.share_le_one_iff h _,
    fun _ hb => LossTerms.share_blessed_le h.percent_nonneg config.lossFormula hb⟩

/-! ## More than the whole -/

/-- A character as it is made. -/
def newcomer : Character := { id := ⟨1⟩, name := "Tester" }

theorem exact_zero : Binary64.exact 0.0 = 0 := by decide +kernel

/-- No check bounds a flat percentage: half as much again as all is lost. -/
theorem more_than_all_lost : ∃ config, GameConfig.parse "loss_formula = \x7b flat = 150 \x7d" = .ok config ∧
    (newcomer.exactTerms config none).OnCurve config.maxLevel ∧
      newcomer.exactShare config none = 3 / 2 := by
  have hread : (GameConfig.parse "loss_formula = \x7b flat = 150 \x7d").toOption.map (fun config =>
      (config.lossFormula, config.maxLevel, config.maxBlessing)) = some (.flat 150, 2000, 8) := by
    decide +kernel
  cases hparse : GameConfig.parse "loss_formula = \x7b flat = 150 \x7d" with
  | error fault =>
    rw [hparse] at hread
    exact absurd hread (by simp [Except.toOption])
  | ok config =>
    rw [hparse] at hread
    have hfields : (config.lossFormula, config.maxLevel, config.maxBlessing) = (.flat 150, 2000, 8) :=
      Option.some.inj hread
    obtain ⟨hformula, hlast, hblessing⟩ := by simpa only [Prod.mk.injEq] using hfields
    have hrelief : (newcomer.exactTerms config none).flatRelief = 0 := by
      show (0 : Int) + newcomer.blessings.regularCount config.maxBlessing = 0
      rw [hblessing]
      decide
    refine ⟨config, rfl, ⟨?_, ?_, ?_, exact_zero.ge, ?_⟩, ?_⟩
    · show 1 ≤ config.maxLevel
      omega
    · show experienceFor 1 config.maxLevel ≤ 0
      rw [hlast]
      decide
    · show 0 ≤ max64
      exact Nat.zero_le _
    · exact exact_zero.le.trans (by norm_num)
    · rw [exactShare, hformula, LossTerms.share_flat, hrelief]
      show ((150 : Nat) : ℚ) / 100 = 3 / 2
      norm_num

/-- A character whose level asks for more than the largest experience. -/
def legend : Character :=
  { id := ⟨1⟩, name := "Tester", progress := { level := 4000000, experience := max64 } }

/-- A world without an end to levels. -/
def endless : GameConfig := { lossFormula := .legacy, maxLevel := max32 }

/-- The largest experience is less than the curve asks for, and more than all is lost. -/
theorem exactShare_fraction_legend :
    (legend.exactTerms endless none).OnCurve endless.maxLevel ∧ ¬ legend.exactShare endless none ≤ 1 := by
  have hcurve : (legend.exactTerms endless none).OnCurve endless.maxLevel :=
    ⟨by decide, Nat.min_le_left _ _, Nat.le_refl _, exact_zero.ge, exact_zero.le.trans (by norm_num)⟩
  have hlevel : (legend.exactTerms endless none).exactLevel = 4000000 := by
    show ((4000000 : Nat) : ℚ) + Binary64.exact 0.0 / 100 = 4000000
    rw [exact_zero]
    norm_num
  have hrelief : (legend.exactTerms endless none).legacyRelief = 0 := by decide
  refine ⟨hcurve, fun hle => ?_⟩
  have hmild : LossTerms.pace (legend.exactTerms endless none).exactLevel *
      (100 - (legend.exactTerms endless none).legacyRelief) ≤ 10000 * max64 :=
    (exactShare_fraction endless legend none hcurve).2.1.mp hle
  rw [hlevel, hrelief] at hmild
  norm_num [LossTerms.pace, max64] at hmild

end Character

end Adventurer
