import Adventurer.Character.Basic
import Adventurer.Number.Binary64

/-!
# Level curves

The experience each level asks for, the percent of the way to a next level and the speed that comes
with a level.  The experience curve is flat from its last level on, and grows only below it.
-/

namespace Adventurer

/-- The experience that `level` asks for, on a curve that is flat from `last` on. -/
def experienceFor (level last : Nat) : Nat :=
  let l := min level last - 1
  min max64 ((50 * l * l * l + 400 * l - 150 * l * l) / 3)

/-- How much of `next` has been gathered, in percent with two decimals; zero where `next` is zero or
has been passed. -/
def percentOf (count next : Nat) : Float :=
  if next = 0 then 0.0
  else
    let hundredths :=
      Binary64.nearestCount (Binary64.ofNat count * 100.0 / Binary64.ofNat next * 100.0)
    let result := Binary64.ofNat hundredths / 100.0
    if result > 100.0 then 0.0 else result

/-- The percent shown on a track of which `count` has been gathered: that of the next requirement,
or zero where the curve does not grow. -/
def trackPercent (current next count : Nat) : Float :=
  if current < next then percentOf count next else 0.0

/-- The speed at a level. -/
def speedAt (vocationSpeed level : Nat) : Nat :=
  addUpTo max32 vocationSpeed (wrap max32 (2 * (level - 1)))

/-- The speed of characters with the flag for it. -/
def maxBaseSpeed : Nat := 1500

/-- Beyond its last level the curve is flat. -/
theorem experienceFor_of_le {level last : Nat} (h : last ≤ level) :
    experienceFor level last = experienceFor last last := by
  simp only [experienceFor, Nat.min_eq_right h, Nat.min_self]

/-- The curve grows only below its last level. -/
theorem lt_of_experienceFor_lt {level last : Nat}
    (h : experienceFor level last < experienceFor (level + 1) last) : level < last := by
  apply Decidable.byContradiction
  intro hle
  have hle : last ≤ level := Nat.le_of_not_lt hle
  rw [experienceFor_of_le hle, experienceFor_of_le (Nat.le_succ_of_le hle)] at h
  exact Nat.lt_irrefl _ h

end Adventurer
