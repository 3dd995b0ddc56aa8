import Adventurer.Proofs.Progress.Sheets

/-!
# Experience in pieces

Experience that comes in two parts raises a character as far as their sum does.
A climb can be resumed where it has ended (`ascendAll_resume`), and what is done at the end of the first
part, which fills the meters and sets the speed and the percent, may as well wait until the second has
been climbed (`Aside`).
-/

namespace Adventurer

namespace Character

variable {rules : Rules} {vocation : Option Vocation} {c : Character}
  {f : Character → Character} {e e' : Nat}

/-! ## Two climbs -/

theorem ascendAll_eq (c : Character) :
    c.ascendAll rules vocation =
      if threshold rules (c.level + 1) ≤ c.progress.experience then
        if threshold rules (c.level + 1) < threshold rules (c.level + 2) then
          (c.ascend rules vocation).ascendAll rules vocation
        else c.ascend rules vocation
      else c := by
  rw [ascendAll]
  rfl

/-- A climb that has ended short of the top goes on with more experience as if it had had it from the
start.  One that has ended at the top of the curve goes no further. -/
theorem ascendAll_resume (grows : threshold rules c.level < threshold rules (c.level + 1))
    (hle : c.progress.experience ≤ e) :
    (c.withExperience e).ascendAll rules vocation =
      if threshold rules (c.ascendAll rules vocation).level <
          threshold rules ((c.ascendAll rules vocation).level + 1)
      then ((c.ascendAll rules vocation).withExperience e).ascendAll rules vocation
      else (c.ascendAll rules vocation).withExperience e := by
  fun_induction ascendAll c rules vocation with
  | case1 c reached up next ih =>
    have hreached : threshold rules (c.level + 1) ≤ e := Nat.le_trans reached hle
    rw [← ih next hle, ascendAll_eq (c.withExperience e)]
    exact (if_pos hreached).trans (if_pos next)
  | case2 c reached up flat =>
    have hreached : threshold rules (c.level + 1) ≤ e := Nat.le_trans reached hle
    rw [if_neg flat, ascendAll_eq]
    exact (if_pos hreached).trans (if_neg flat)
  | case3 c short => rw [if_pos grows]

theorem withExperience_back (c : Character) (e : Nat) :
    (c.withExperience e).withExperience c.progress.experience = c := rfl

/-! ## What may wait -/

/-- A change that no level up depends on, and that may be made before it or after. -/
structure Aside (rules : Rules) (vocation : Option Vocation) (f : Character → Character) : Prop where
  level : ∀ c, (f c).level = c.level
  experience : ∀ c, (f c).progress.experience = c.progress.experience
  withExperience : ∀ c e, (f c).withExperience e = f (c.withExperience e)
  ascend : ∀ c, (f c).ascend rules vocation = f (c.ascend rules vocation)

/-- The character at another speed. -/
def withSpeed (c : Character) (speed : Nat) : Character := { c with baseSpeed := speed }

namespace Aside

theorem ascendAll (hf : Aside rules vocation f) (c : Character) :
    (f c).ascendAll rules vocation = f (c.ascendAll rules vocation) := by
  fun_induction Character.ascendAll c rules vocation with
  | case1 c reached up next ih =>
    rw [ascendAll_eq, hf.level, hf.experience, if_pos reached, hf.ascend c]
    exact (if_pos next).trans ih
  | case2 c reached up flat =>
    rw [ascendAll_eq, hf.level, hf.experience, if_pos reached, hf.ascend c]
    exact if_neg flat
  | case3 c short => rw [ascendAll_eq, hf.level, hf.experience, if_neg short]

theorem withLevelPercent (percent : Float) :
    Aside rules vocation fun c => c.withLevelPercent percent :=
  ⟨fun _ => rfl, fun _ => rfl, fun _ _ => rfl, fun _ => rfl⟩

/-- Full meters stay full when they grow. -/
theorem refilled (speed : Nat) (percent : Float) :
    Aside rules vocation fun c => (c.refilled.withSpeed speed).withLevelPercent percent :=
  ⟨fun _ => rfl, fun _ => rfl, fun _ _ => rfl, fun _ => rfl⟩

end Aside

/-- The speed of a character that comes to a level with a speed. -/
def speedOn (flags : Flags) (vocation : Option Vocation) (level speed : Nat) : Nat :=
  if flags.has .setMaxSpeed then maxBaseSpeed
  else vocation.elim speed fun v => speedAt v.baseSpeed level

theorem updateBaseSpeed_eq_withSpeed (c : Character) (vocation : Option Vocation) :
    c.updateBaseSpeed vocation = c.withSpeed (speedOn c.flags vocation c.level c.baseSpeed) := by
  unfold updateBaseSpeed speedOn
  split_ifs
  · rfl
  · cases vocation <;> rfl

/-- The speed at an earlier level does not matter. -/
theorem speedOn_speedOn (flags : Flags) (vocation : Option Vocation) (level before speed : Nat) :
    speedOn flags vocation level (speedOn flags vocation before speed) =
      speedOn flags vocation level speed := by
  unfold speedOn
  split_ifs
  · rfl
  · cases vocation <;> rfl

/-! ## Raised twice -/

theorem raised_of_level_eq (h : (c.climbed rules e).level = c.level) :
    c.raised rules e =
      (c.climbed rules e).withLevelPercent ((c.climbed rules e).freshLevelPercent rules) := by
  rw [raised, if_pos h]
  rfl

/-- New levels fill the meters and set the speed. -/
theorem raised_of_level_ne (h : (c.climbed rules e).level ≠ c.level) :
    c.raised rules e =
      ((c.climbed rules e).refilled.withSpeed
        (speedOn c.flags (rules.vocationOf? c) (c.climbed rules e).level c.baseSpeed)).withLevelPercent
          ((c.climbed rules e).freshLevelPercent rules) := by
  have hw : Walked (c.withExperience e) (c.climbed rules e) := walked_ascendAll _ _ _
  have hflags : (c.climbed rules e).refilled.flags = c.flags := hw.flags
  have hspeed : (c.climbed rules e).refilled.baseSpeed = c.baseSpeed := hw.speed
  rw [raised, if_neg h, updateBaseSpeed_eq_withSpeed, hflags, hspeed]
  rfl

theorem flags_raised (c : Character) (rules : Rules) (e : Nat) : (c.raised rules e).flags = c.flags := by
  obtain ⟨speed, percent, h⟩ := levelSheet_raised c rules e
  exact (congrArg LevelSheet.flags h).trans (walked_ascendAll (c.withExperience e) rules _).flags

theorem experience_raised (c : Character) (rules : Rules) (e : Nat) :
    (c.raised rules e).progress.experience = e := by
  obtain ⟨speed, percent, h⟩ := levelSheet_raised c rules e
  exact (congrArg LevelSheet.experience h).trans
    (walked_ascendAll (c.withExperience e) rules _).experience

/-- The speed that the first part sets makes no difference to the second. -/
theorem speedOn_raised (c : Character) (rules : Rules) (e level : Nat) :
    speedOn (c.raised rules e).flags (rules.vocationOf? c) level (c.raised rules e).baseSpeed =
      speedOn c.flags (rules.vocationOf? c) level c.baseSpeed := by
  have hw : Walked (c.withExperience e) (c.climbed rules e) := walked_ascendAll _ _ _
  by_cases h : (c.climbed rules e).level = c.level
  · rw [raised_of_level_eq h]
    exact congr (congrArg (speedOn · _ level) hw.flags) hw.speed
  · rw [raised_of_level_ne h]
    exact (congrArg (speedOn · _ level _) hw.flags).trans (speedOn_speedOn _ _ _ _ _)

section Parts

variable (hle : e ≤ e') (grows : threshold rules c.level < threshold rules (c.level + 1))
include hle grows

/-- What the first part has done to the character at its end is done to what both parts climb. -/
theorem climbed_raised (hf : Aside rules (rules.vocationOf? c) f)
    (hraised : c.raised rules e = f (c.climbed rules e))
    (next : threshold rules (c.climbed rules e).level <
      threshold rules ((c.climbed rules e).level + 1)) :
    (c.raised rules e).climbed rules e' = f (c.climbed rules e') := by
  have hvocation : rules.vocationOf? (c.raised rules e) = rules.vocationOf? c :=
    congrArg rules.vocation? (vocation_raised c rules e)
  have hresume : (c.withExperience e').ascendAll rules (rules.vocationOf? c) =
      ((c.climbed rules e).withExperience e').ascendAll rules (rules.vocationOf? c) :=
    (@ascendAll_resume rules _ (c.withExperience e) e' grows hle).trans (if_pos next)
  calc (c.raised rules e).climbed rules e'
      = ((c.raised rules e).withExperience e').ascendAll rules (rules.vocationOf? c) := by
        rw [climbed, hvocation]
    _ = f (((c.climbed rules e).withExperience e').ascendAll rules (rules.vocationOf? c)) := by
        rw [hraised, hf.withExperience, hf.ascendAll]
    _ = f (c.climbed rules e') := by rw [← hresume, climbed]

/-- Raised short of the top of the curve and then raised again, a character has come to the level that it
comes to at once, and is as if raised at once. -/
theorem raised_raised
    (next : threshold rules (c.climbed rules e).level <
      threshold rules ((c.climbed rules e).level + 1)) :
    ((c.raised rules e).climbed rules e').level = (c.climbed rules e').level ∧
      (c.raised rules e).raised rules e' = c.raised rules e' := by
  have hlevel : (c.raised rules e).level = (c.climbed rules e).level := level_raised c rules e
  have hvocation : rules.vocationOf? (c.raised rules e) = rules.vocationOf? c :=
    congrArg rules.vocation? (vocation_raised c rules e)
  by_cases first : (c.climbed rules e).level = c.level
  · -- the first part has set the percent, which is read anew
    have hclimbed : (c.raised rules e).climbed rules e' = (c.climbed rules e').withLevelPercent _ :=
      climbed_raised hle grows (.withLevelPercent _) (raised_of_level_eq first) next
    have hsame : ((c.raised rules e).climbed rules e').level = (c.climbed rules e').level := by
      rw [hclimbed]
      rfl
    refine ⟨hsame, ?_⟩
    by_cases both : (c.climbed rules e').level = c.level
    · rw [raised_of_level_eq both, raised_of_level_eq (by omega), hclimbed]
      rfl
    · rw [raised_of_level_ne both, raised_of_level_ne (by omega), hvocation, speedOn_raised, hclimbed]
      rfl
  · -- it has also filled the meters and set the speed
    have hclimbed : (c.raised rules e).climbed rules e' =
        ((c.climbed rules e').refilled.withSpeed _).withLevelPercent _ :=
      climbed_raised hle grows (.refilled _ _) (raised_of_level_ne first) next
    have hsame : ((c.raised rules e).climbed rules e').level = (c.climbed rules e').level := by
      rw [hclimbed]
      rfl
    have hup : c.level ≤ (c.climbed rules e).level := le_level_climbed c rules e
    have hupper : (c.raised rules e).level ≤ ((c.raised rules e).climbed rules e').level :=
      le_level_climbed _ rules e'
    have both : (c.climbed rules e').level ≠ c.level := by omega
    refine ⟨hsame, ?_⟩
    by_cases further : (c.climbed rules e').level = (c.climbed rules e).level
    · rw [raised_of_level_ne both, raised_of_level_eq (by omega), hclimbed, further]
      rfl
    · rw [raised_of_level_ne both, raised_of_level_ne (by omega), hvocation, speedOn_raised, hclimbed]
      rfl

/-- Raised to the top of the curve, a character is raised no further by more experience. -/
theorem raised_of_top
    (top : ¬ threshold rules (c.climbed rules e).level <
      threshold rules ((c.climbed rules e).level + 1)) :
    (c.climbed rules e').level = (c.climbed rules e).level ∧
      c.raised rules e' = ((c.raised rules e).withLevelPercent 0.0).withExperience e' := by
  have hclimbed : c.climbed rules e' = (c.climbed rules e).withExperience e' :=
    (@ascendAll_resume rules _ (c.withExperience e) e' grows hle).trans (if_neg top)
  have hlevel : (c.climbed rules e').level = (c.climbed rules e).level := by
    rw [hclimbed]
    rfl
  have hpercent : (c.climbed rules e').freshLevelPercent rules = 0.0 := by
    rw [freshLevelPercent, hlevel, if_neg top]
  refine ⟨hlevel, ?_⟩
  by_cases h : (c.climbed rules e).level = c.level
  · rw [raised_of_level_eq h, raised_of_level_eq (hlevel.trans h), hpercent, hclimbed]
    rfl
  · rw [raised_of_level_ne h, raised_of_level_ne (by omega), hpercent, hclimbed]
    rfl

end Parts

end Character

/-! ## Two gains -/

theorem addUpTo_addUpTo (bound x a b : Nat) :
    addUpTo bound (addUpTo bound x a) b = addUpTo bound x (a + b) := by
  unfold addUpTo
  omega

namespace Progress

open Character

variable (rules : Rules) (c : Character) (source : Option CreatureId) (announce : Bool)

theorem value_addExperience_barred (barred : c.flags.has .notGainExperience) (amount : Nat) :
    (addExperience rules .base c amount source announce ()).value = ⟨c, (), 0⟩ := by
  simp [addExperience, barred, unchanged]

theorem value_addExperience_flat (barred : ¬ c.flags.has .notGainExperience)
    (flat : ¬ threshold rules c.level < threshold rules (c.level + 1)) (amount : Nat) :
    (addExperience rules .base c amount source announce ()).value = ⟨c.withLevelPercent 0.0, (), 0⟩ := by
  simp [addExperience, barred, flat]

theorem value_addExperience_zero
    (grows : threshold rules c.level < threshold rules (c.level + 1)) :
    (addExperience rules .base c 0 source announce ()).value = ⟨c, (), 0⟩ := by
  by_cases barred : c.flags.has .notGainExperience
  · exact value_addExperience_barred rules c source announce barred 0
  · rw [addExperience, if_neg barred, if_pos grows]
    rfl

theorem value_addExperience_base (barred : ¬ c.flags.has .notGainExperience)
    (grows : threshold rules c.level < threshold rules (c.level + 1)) {amount : Nat} (hne : amount ≠ 0) :
    (addExperience rules .base c amount source announce ()).value =
      ⟨c.raised rules (addUpTo max64 c.progress.experience amount), (),
        (c.climbed rules (addUpTo max64 c.progress.experience amount)).level - c.level⟩ := by
  obtain ⟨u, hvalue⟩ :=
    exists_value_addExperience announce barred grows
      (rfl : Rates.base.experience c source amount () = (amount, ())) hne
  exact hvalue

/-- Short of the top of the curve the second part raises the character to the sum. -/
theorem value_addExperience_raised (barred : ¬ c.flags.has .notGainExperience)
    (grows : threshold rules c.level < threshold rules (c.level + 1)) {e a b : Nat}
    (he : e = addUpTo max64 c.progress.experience a)
    (next : threshold rules (c.climbed rules e).level < threshold rules ((c.climbed rules e).level + 1)) :
    (c.climbed rules e).level ≤ (c.climbed rules (addUpTo max64 c.progress.experience (a + b))).level ∧
      (addExperience rules .base (c.raised rules e) b source announce ()).value =
        ⟨c.raised rules (addUpTo max64 c.progress.experience (a + b)), (),
          (c.climbed rules (addUpTo max64 c.progress.experience (a + b))).level -
            (c.climbed rules e).level⟩ := by
  have hlevel : (c.raised rules e).level = (c.climbed rules e).level := level_raised c rules e
  have hnext : threshold rules (c.raised rules e).level < threshold rules ((c.raised rules e).level + 1) := by
    rwa [hlevel]
  by_cases hb : b = 0
  · rw [hb, Nat.add_zero, ← he, value_addExperience_zero rules _ source announce hnext, Nat.sub_self]
    exact ⟨Nat.le_refl _, rfl⟩
  · have hle : e ≤ addUpTo max64 c.progress.experience (a + b) := by
      unfold addUpTo at he ⊢
      omega
    have hbarred : ¬ (c.raised rules e).flags.has .notGainExperience := by rwa [flags_raised]
    have hsum : addUpTo max64 (c.raised rules e).progress.experience b =
        addUpTo max64 c.progress.experience (a + b) := by
      rw [experience_raised, he, addUpTo_addUpTo]
    obtain ⟨hclimbed, hraised⟩ := raised_raised hle grows next
    rw [value_addExperience_base rules _ source announce hbarred hnext hb, hsum, hraised, hclimbed, hlevel]
    refine ⟨?_, rfl⟩
    rw [← hlevel, ← hclimbed]
    exact le_level_climbed _ rules _

/-- **Experience may come in pieces.**  At the rates as they are, adding an amount of experience and then
another leaves the character that adding their sum at once leaves, and gains as many levels in all: for
every character, table of vocations and last level.  Only where the first part has reached the end of the
curve may the experience itself differ, as the second part is refused there. -/
theorem experience_in_pieces (a b : Nat) :
    let gain := fun c amount => (addExperience rules .base c amount source announce ()).value
    let first := gain c a
    let both := gain first.character b
    let once := gain c (a + b)
    both.character = once.character.withExperience both.character.progress.experience ∧
      first.levels + both.levels = once.levels ∧
      (threshold rules first.character.level < threshold rules (first.character.level + 1) →
        both.character = once.character) := by
  simp only
  by_cases barred : c.flags.has .notGainExperience
  · simp only [value_addExperience_barred rules c source announce barred]
    exact ⟨rfl, trivial, fun _ => trivial⟩
  by_cases grows : threshold rules c.level < threshold rules (c.level + 1)
  swap
  · -- where the curve is flat all three are refused
    simp only [value_addExperience_flat rules c source announce barred grows,
      value_addExperience_flat rules (c.withLevelPercent 0.0) source announce barred grows]
    exact ⟨rfl, trivial, fun _ => rfl⟩
  by_cases ha : a = 0
  · simp only [ha, value_addExperience_zero rules c source announce grows, Nat.zero_add]
    exact ⟨rfl, trivial, fun _ => trivial⟩
  have hsum : a + b ≠ 0 := by omega
  simp only [value_addExperience_base rules c source announce barred grows ha,
    value_addExperience_base rules c source announce barred grows hsum]
  set e := addUpTo max64 c.progress.experience a with he
  have hup : c.level ≤ (c.climbed rules e).level := le_level_climbed c rules e
  by_cases next : threshold rules (c.climbed rules e).level <
      threshold rules ((c.climbed rules e).level + 1)
  · obtain ⟨hupper, hsecond⟩ :=
      value_addExperience_raised rules c source announce (b := b) barred grows he next
    simp only [hsecond]
    exact ⟨rfl, by omega, fun _ => trivial⟩
  · -- the second part is refused at the end of the curve
    set e' := addUpTo max64 c.progress.experience (a + b) with he'
    have hle : e ≤ e' := by
      unfold addUpTo at he he'
      omega
    have hlevel : (c.raised rules e).level = (c.climbed rules e).level := level_raised c rules e
    have hbarred : ¬ (c.raised rules e).flags.has .notGainExperience := by rwa [flags_raised]
    obtain ⟨hclimbed, hraised⟩ := raised_of_top hle grows next
    rw [value_addExperience_flat rules _ source announce hbarred (by rwa [hlevel])]
    simp only [hraised, hclimbed, hlevel]
    exact ⟨(withExperience_back _ e').symm, rfl, fun h => absurd h next⟩

end Progress

end Adventurer
