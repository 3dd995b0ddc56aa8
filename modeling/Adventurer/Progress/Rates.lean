import Adventurer.Character.Basic

/-!
# Progression rates

A host may scale or veto every gain and loss before it is booked, and hears of every change of a
level.  Rates keep a state of their own, which the rules hand on from call to call.
-/

namespace Adventurer

/-- What a host does with amounts before they are booked.  An amount of zero cancels the booking. -/
structure Rates (σ : Type) where
  experience : Character → Option CreatureId → Nat → σ → Nat × σ
  loss : Character → Nat → σ → Nat × σ
  /-- Tries of a skill or mana spent. -/
  tries : Character → Track → Nat → σ → Nat × σ
  onAdvance : Character → Track → (before after : Nat) → σ → σ

/-- Books every amount as it is. -/
def Rates.base : Rates Unit where
  experience _ _ amount s := (amount, s)
  loss _ amount s := (amount, s)
  tries _ _ amount s := (amount, s)
  onAdvance _ _ _ _ s := s

/-- A character after a booking, the state of the rates and the levels that changed. -/
structure Booked (σ : Type) where
  character : Character
  rates : σ
  levels : Nat

end Adventurer
