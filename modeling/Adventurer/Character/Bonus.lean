import Adventurer.Number.Width
import Adventurer.Item.Slot

/-!
# Bonus stacks

Equipment, conditions and scripts add bonuses to a stat.  A stack remembers where each bonus came
from, so what a source added can be taken away again.  Flat bonuses are added first, then the summed
percentages apply, then the bounds.  The sums are taken in thirty-two bits and go round; as every step
only adds, it does not matter at which step they do.
-/

namespace Adventurer

/-- Where a bonus came from. -/
inductive BonusSource where
  | equipment (slot : Slot)
  | condition (id : Nat)
  | script (id : Nat)
  deriving DecidableEq, Repr

/-- An amount added to a stat, or a percentage by which it is increased. -/
inductive Bonus where
  | flat (amount : Int)
  | increased (percent : Int)
  deriving DecidableEq, Repr

/-- The bonuses of one stat in the order in which they were added. -/
structure BonusStack where
  entries : List (BonusSource × Bonus) := []
  deriving DecidableEq, Repr

namespace BonusStack

instance : Inhabited BonusStack := ⟨{}⟩

def add (s : BonusStack) (source : BonusSource) (bonus : Bonus) : BonusStack :=
  ⟨s.entries ++ [(source, bonus)]⟩

/-- Takes away all that a source added. -/
def removeSource (s : BonusStack) (source : BonusSource) : BonusStack :=
  ⟨s.entries.filter (·.1 ≠ source)⟩

/-- Whether a source has added anything. -/
def hasSource (s : BonusStack) (source : BonusSource) : Bool := s.entries.any (·.1 = source)

/-- The sum of the flat bonuses. -/
def flatTotal (s : BonusStack) : Int :=
  wrapInt32 <| (s.entries.map fun e => match e.2 with
    | .flat amount => amount
    | .increased _ => 0).foldr (· + ·) 0

/-- The sum of the percentages. -/
def increasedTotal (s : BonusStack) : Int :=
  wrapInt32 <| (s.entries.map fun e => match e.2 with
    | .flat _ => 0
    | .increased percent => percent).foldr (· + ·) 0

/-- A base value under all bonuses, kept within bounds.  Percentages round toward zero. -/
def apply (s : BonusStack) (base low high : Int) : Int :=
  let flat := clampInt minInt32 maxInt32 (base + s.flatTotal)
  let increased := s.increasedTotal
  let value :=
    if increased = 0 then flat
    else clampInt minInt32 maxInt32 (Int.tdiv (flat * wrapInt32 (100 + increased)) 100)
  clampInt low high value

def size (s : BonusStack) : Nat := s.entries.length

def isEmpty (s : BonusStack) : Bool := s.entries.isEmpty

end BonusStack

end Adventurer
