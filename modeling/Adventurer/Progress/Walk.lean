import Adventurer.Progress.Curve

/-!
# The threshold walk

Tries and spent mana climb a curve of requirements: while what has been gathered reaches the next
requirement, the level rises and the count starts again.  A walk ends where the curve stops growing.
-/

namespace Adventurer

/-- Where a walk has arrived: the level and the count gathered there. -/
structure Footing where
  level : Nat
  count : Nat
  deriving DecidableEq, Repr

namespace Footing

/-- Climbs from a level with nothing gathered but `amount`; the requirements grow at the level. -/
def climb (require : Nat → Nat) (level amount : Nat)
    (_grows : require level < require (level + 1)) : Footing :=
  if _ : require (level + 1) ≤ amount then
    if next : require (level + 1) < require (level + 2) then
      climb require (level + 1) (amount - require (level + 1)) next
    else ⟨level + 1, 0⟩
  else ⟨level, amount⟩
termination_by amount

/-- Adds `amount` to what has been gathered and climbs as far as that reaches. -/
def advance (require : Nat → Nat) (f : Footing) (amount : Nat) : Footing :=
  if require (f.level + 1) ≤ f.count + amount then
    if next : require (f.level + 1) < require (f.level + 2) then
      climb require (f.level + 1) (amount - (require (f.level + 1) - f.count)) next
    else ⟨f.level + 1, 0⟩
  else ⟨f.level, f.count + amount⟩

/-- The percent shown for a footing. -/
def percent (require : Nat → Nat) (f : Footing) : Float :=
  trackPercent (require f.level) (require (f.level + 1)) f.count

theorem le_climb_level (require : Nat → Nat) (level amount : Nat)
    (grows : require level < require (level + 1)) :
    level ≤ (climb require level amount grows).level := by
  fun_induction climb require level amount grows with
  | case1 level amount grows h next ih => exact Nat.le_trans (Nat.le_succ _) ih
  | case2 => exact Nat.le_succ _
  | case3 => exact Nat.le_refl _

/-- A walk never goes down. -/
theorem le_advance_level (require : Nat → Nat) (f : Footing) (amount : Nat) :
    f.level ≤ (f.advance require amount).level := by
  unfold advance
  split
  · split
    · exact Nat.le_trans (Nat.le_succ _) (le_climb_level require _ _ _)
    · exact Nat.le_succ _
  · exact Nat.le_refl _

end Footing

end Adventurer
