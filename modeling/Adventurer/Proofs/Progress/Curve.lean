import Adventurer.Proofs.Progress.Widths
import Mathlib.Data.Nat.Choose.Basic
import Mathlib.Order.Monotone.Basic
import Mathlib.Tactic.Linarith
import Mathlib.Tactic.Ring

/-!
# The experience curve

The cubic of the curve is a hundred for each level gained and for each triple of them (`ideal`), so its
numerator is a multiple of three and it grows by a hundred at least with each level.  Reckoned in counters of
a hundred and twenty-eight bits the numerator neither leaves its width nor falls below zero (`numerator?_eq`).
The curve that is cut to sixty-four bits grows exactly below its last level and below the level where it is
full (`experienceFor_lt_succ_iff`).
-/

namespace Adventurer

/-- The largest count that a hundred and twenty-eight bits hold. -/
def max128 : Nat := 340282366920938463463374607431768211455

namespace Curve

/-- Three times the experience after so many levels gained, each step in a hundred and twenty-eight bits. -/
def numerator? (gained : Nat) : Option Nat := do
  let a ← mulWithin? max128 50 gained
  let b ← mulWithin? max128 a gained
  let cube ← mulWithin? max128 b gained
  let line ← mulWithin? max128 400 gained
  let above ← addWithin? max128 cube line
  let c ← mulWithin? max128 150 gained
  let square ← mulWithin? max128 c gained
  takeWithin? above square

/-- The experience that `level` asks for, reckoned in counters of fixed width. -/
def experienceWithin? (level last : Nat) : Option Nat := do
  let n ← numerator? (min level last - 1)
  return min max64 (n / 3)

/-- The experience after so many levels gained on a curve that no last level and no width ends. -/
def ideal (gained : Nat) : Nat := 100 * (gained.choose 3 + gained)

/-- The first level that asks for the largest experience, on a curve that does not end below it. -/
def fullLevel : Nat := 1034407

variable {level higher last gained : Nat}

/-! ## The cubic -/

theorem ideal_succ (gained : Nat) : ideal (gained + 1) = ideal gained + 100 * (gained.choose 2 + 1) := by
  unfold ideal
  rw [Nat.choose_succ_succ gained 2]
  ring

theorem ideal_strictMono : StrictMono ideal := by
  refine strictMono_nat_of_lt_succ fun gained => ?_
  rw [ideal_succ]
  omega

theorem mul_self_eq_choose (n : Nat) : n * n = 2 * n.choose 2 + n := by
  induction n with
  | zero => rfl
  | succ n ih =>
    rw [Nat.choose_succ_succ n 1, Nat.choose_one_right]
    linarith only [ih]

/-- The subtraction and the division of the curve are exact. -/
theorem cubic_eq (gained : Nat) :
    50 * gained * gained * gained + 400 * gained = 3 * ideal gained + 150 * gained * gained := by
  induction gained with
  | zero => rfl
  | succ gained ih =>
    have hsquare := mul_self_eq_choose gained
    rw [ideal_succ]
    linarith only [ih, hsquare]

theorem quotient_eq (gained : Nat) :
    (50 * gained * gained * gained + 400 * gained - 150 * gained * gained) / 3 = ideal gained := by
  rw [cubic_eq, Nat.add_sub_cancel, Nat.mul_div_cancel_left _ (by decide)]

/-- The numerator fits and is a multiple of three. -/
theorem numerator?_eq (h : gained ≤ max32) : numerator? gained = some (3 * ideal gained) := by
  have hscaled (k : Nat) : k * gained ≤ k * max32 := Nat.mul_le_mul_left k h
  have hsquared (k : Nat) : k * gained * gained ≤ k * max32 * max32 := Nat.mul_le_mul (hscaled k) h
  have hcubed : 50 * gained * gained * gained ≤ 50 * max32 * max32 * max32 :=
    Nat.mul_le_mul (hsquared 50) h
  have line (k : Nat) (hk : k * max32 ≤ max128) : mulWithin? max128 k gained = some (k * gained) :=
    mulWithin?_of_le ((hscaled k).trans hk)
  have square (k : Nat) (hk : k * max32 * max32 ≤ max128) :
      mulWithin? max128 (k * gained) gained = some (k * gained * gained) :=
    mulWithin?_of_le ((hsquared k).trans hk)
  have cube : mulWithin? max128 (50 * gained * gained) gained = some (50 * gained * gained * gained) :=
    mulWithin?_of_le (hcubed.trans (by decide))
  have hsum : 50 * gained * gained * gained + 400 * gained ≤ max128 :=
    (Nat.add_le_add hcubed (hscaled 400)).trans (by decide)
  have hexact := cubic_eq gained
  have hleft : 150 * gained * gained ≤ 50 * gained * gained * gained + 400 * gained := by omega
  simp only [numerator?, line 50 (by decide), square 50 (by decide), cube, line 400 (by decide),
    addWithin?_of_le hsum, line 150 (by decide), square 150 (by decide), takeWithin?_of_le hleft,
    Option.bind_eq_bind, Option.bind_some, Option.some.injEq]
  omega

/-! ## The curve cut to its width -/

theorem experienceFor_eq_ideal (level last : Nat) :
    experienceFor level last = min max64 (ideal (min level last - 1)) :=
  congrArg (min max64) (quotient_eq (min level last - 1))

theorem experienceWithin?_eq (h : min level last - 1 ≤ max32) :
    experienceWithin? level last = some (experienceFor level last) := by
  rw [experienceWithin?, numerator?_eq h, experienceFor_eq_ideal]
  simp only [Option.bind_eq_bind, Option.bind_some, Nat.mul_div_cancel_left _ (by decide : 0 < 3), pure]

theorem experienceFor_mono (h : level ≤ higher) (last : Nat) :
    experienceFor level last ≤ experienceFor higher last := by
  have hgained : min level last - 1 ≤ min higher last - 1 := by omega
  have hideal := ideal_strictMono.monotone hgained
  rw [experienceFor_eq_ideal, experienceFor_eq_ideal]
  omega

/-- Once full the curve stays full. -/
theorem experienceFor_of_full (hfull : experienceFor level last = max64) (h : level ≤ higher) :
    experienceFor higher last = max64 := by
  have hle := experienceFor_mono h last
  have hwidth : experienceFor higher last ≤ max64 := Nat.min_le_left _ _
  omega

/-- The curve grows at a level exactly if that is a level, is not the last one and does not ask for all that
the width holds. -/
theorem experienceFor_lt_succ_iff :
    experienceFor level last < experienceFor (level + 1) last ↔
      1 ≤ level ∧ level < last ∧ ideal (level - 1) < max64 := by
  constructor
  · intro hgrows
    have hlast : level < last := lt_of_experienceFor_lt hgrows
    rw [experienceFor_eq_ideal, experienceFor_eq_ideal, Nat.min_eq_left hlast.le, Nat.min_eq_left hlast,
      Nat.succ_sub_one] at hgrows
    have hlevel : 1 ≤ level := by
      by_contra hzero
      have hlevel : level = 0 := by omega
      subst hlevel
      exact Nat.lt_irrefl _ hgrows
    exact ⟨hlevel, hlast, by omega⟩
  · rintro ⟨hlevel, hlast, hwidth⟩
    have hideal : ideal (level - 1) < ideal level := ideal_strictMono (by omega)
    rw [experienceFor_eq_ideal, experienceFor_eq_ideal, Nat.min_eq_left hlast.le, Nat.min_eq_left hlast,
      Nat.succ_sub_one]
    omega

theorem lt_fullLevel (hgrows : experienceFor level last < experienceFor (level + 1) last) :
    level < fullLevel := by
  obtain ⟨-, -, hwidth⟩ := experienceFor_lt_succ_iff.mp hgrows
  by_contra hfull
  have hgained : fullLevel - 1 ≤ level - 1 := Nat.sub_le_sub_right (Nat.le_of_not_lt hfull) 1
  have hideal : ideal (fullLevel - 1) ≤ ideal (level - 1) := ideal_strictMono.monotone hgained
  have hexact := cubic_eq (fullLevel - 1)
  simp only [fullLevel, max64] at hideal hexact hwidth
  omega

end Curve

end Adventurer
