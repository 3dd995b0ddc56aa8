import Adventurer.Number.Width

/-!
# Resource meters

Health and mana are meters: an amount that is refilled, spent and grown up to a maximum.
-/

namespace Adventurer

/-- An amount and its maximum. -/
structure Meter where
  current : Nat
  maximum : Nat
  deriving DecidableEq, Repr, Inhabited

namespace Meter

/-- The meter at `current`, or at its maximum if that is less. -/
def of (current maximum : Nat) : Meter := ⟨min current maximum, maximum⟩

/-- The meter at its maximum. -/
def full (maximum : Nat) : Meter := ⟨maximum, maximum⟩

def refill (m : Meter) : Meter := { m with current := m.maximum }

/-- Raises the amount and the maximum alike. -/
def grow (m : Meter) (amount : Nat) : Meter :=
  ⟨addUpTo max32 m.current amount, addUpTo max32 m.maximum amount⟩

/-- Lowers the maximum and cuts the amount down to it. -/
def shrink (m : Meter) (amount : Nat) : Meter :=
  ⟨min m.current (m.maximum - amount), m.maximum - amount⟩

/-- Sets the amount, at most to the maximum. -/
def setCurrent (m : Meter) (amount : Nat) : Meter := { m with current := min amount m.maximum }

/-- The amount in hundredths of the maximum, counted in thirty-two bits; none of an empty meter. -/
def percent (m : Meter) : Nat :=
  if m.maximum = 0 then 0 else m.current * 100 / m.maximum % (max32 + 1)

theorem setCurrent_le (m : Meter) (amount : Nat) : (m.setCurrent amount).current ≤ m.maximum :=
  Nat.min_le_right _ _

@[simp] theorem refill_refill (m : Meter) : m.refill.refill = m.refill := rfl

theorem shrink_le {m : Meter} (amount : Nat) :
    (m.shrink amount).current ≤ (m.shrink amount).maximum := Nat.min_le_right _ _

end Meter

end Adventurer
