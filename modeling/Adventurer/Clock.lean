import Adventurer.Number.Width

/-!
# The clock

Every timer is an absolute instant in milliseconds compared with the instant of the current tick.
Later instants stop at the end of the clock's range and earlier ones at its start.
-/

namespace Adventurer

/-- A sample of the clock in milliseconds. -/
structure Instant where
  millis : Nat
  deriving DecidableEq, Repr, Ord, Inhabited

namespace Instant

/-- The start of the clock. -/
def zero : Instant := ⟨0⟩

instance : LE Instant := ⟨fun a b => a.millis ≤ b.millis⟩
instance : LT Instant := ⟨fun a b => a.millis < b.millis⟩
instance (a b : Instant) : Decidable (a ≤ b) := inferInstanceAs (Decidable (a.millis ≤ b.millis))
instance (a b : Instant) : Decidable (a < b) := inferInstanceAs (Decidable (a.millis < b.millis))

/-- The instant `span` milliseconds later, at most the last one of the clock. -/
def later (t : Instant) (span : Nat) : Instant := ⟨addUpTo max64 t.millis span⟩

/-- The instant `span` milliseconds earlier, at least the first one of the clock. -/
def earlier (t : Instant) (span : Nat) : Instant := ⟨t.millis - span⟩

/-- Milliseconds gone by since `past`, none if `past` lies ahead. -/
def since (t past : Instant) : Nat := t.millis - past.millis

/-- The later of two instants. -/
def latest (a b : Instant) : Instant := if a < b then b else a

/-- The written form of an instant. -/
def render (t : Instant) : String := toString t.millis ++ "ms"

theorem le_def {a b : Instant} : a ≤ b ↔ a.millis ≤ b.millis := Iff.rfl

theorem lt_def {a b : Instant} : a < b ↔ a.millis < b.millis := Iff.rfl

@[simp] theorem since_self (t : Instant) : t.since t = 0 := by simp [since]

@[simp] theorem latest_self (t : Instant) : latest t t = t := by simp [latest]

end Instant

end Adventurer
