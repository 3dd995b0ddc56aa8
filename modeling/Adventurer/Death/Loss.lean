import Adventurer.Number.Binary64
import Adventurer.Rules

/-!
# The share lost at death

The share of progress that a death takes before any reduction.  The formula is stated over any
number system that can add, subtract, multiply and divide: play reckons in doubles, and the bounds
of the share can be read off exact fractions.
-/

namespace Adventurer

/-- A number system in which a loss is reckoned. -/
class Reckoning (α : Type) extends Add α, Sub α, Mul α, Div α where
  ofNat : Nat → α
  /-- The number, or zero where it is below zero. -/
  nonNegative : α → α

instance : Reckoning Float where
  ofNat := Binary64.ofNat
  nonNegative x := if 0.0 < x then x else 0.0

/-- What a loss depends on besides the formula. -/
structure LossTerms (α : Type) where
  level : Nat
  levelPercent : α
  experience : Nat
  promoted : Bool
  /-- Number of different regular blessings that count. -/
  blessings : Nat

namespace LossTerms

variable {α : Type} [Reckoning α]

/-- The level from which the legacy formula follows its curve. -/
def legacyCurveLevel : Nat := 24

/-- The legacy loss in percent, before vocation and blessings: a cubic in the level over the
experience. -/
def legacyCurve (t : LossTerms α) : α :=
  let n (k : Nat) : α := Reckoning.ofNat k
  let level := n t.level + t.levelPercent / n 100
  (level + n 50) * n 50 * (level * level - n 5 * level + n 8) / n t.experience

/-- The percent points that flat losses are lowered by. -/
def flatRelief (t : LossTerms α) : Int := (if t.promoted then 3 else 0) + t.blessings

/-- The percentage by which legacy losses are lowered. -/
def legacyRelief (t : LossTerms α) : Nat := t.blessings * 8 + if t.promoted then 30 else 0

/-- The share of progress that is lost, as a fraction of one. -/
def share (formula : LossFormula) (t : LossTerms α) : α :=
  let n (k : Nat) : α := Reckoning.ofNat k
  match formula with
  | .flat percent => n (percent - t.flatRelief).toNat / n 100
  | .legacy =>
    if legacyCurveLevel ≤ t.level && t.experience = 0 then n 0
    else
      let base := if legacyCurveLevel ≤ t.level then t.legacyCurve else n 5
      Reckoning.nonNegative (base * (n 1 - n t.legacyRelief / n 100) / n 100)

end LossTerms

namespace Character

/-- What the loss of a character depends on; Twist of Fate does not count as a blessing. -/
def lossTerms (c : Character) (config : GameConfig) (vocation : Option Vocation) :
    LossTerms Float where
  level := c.level
  levelPercent := c.progress.levelPercent
  experience := c.progress.experience
  promoted := vocation.any (·.isPromoted)
  blessings := c.blessings.regularCount config.maxBlessing

/-- The share of progress that a death takes from a character before any reduction. -/
def lossShare (c : Character) (config : GameConfig) (vocation : Option Vocation) : Float :=
  (c.lossTerms config vocation).share config.lossFormula

end Character

end Adventurer
