import Adventurer.Progress.Walk
import Mathlib.Tactic.Common

/-!
# Threshold walks

Where a walk comes to rest, and that two bookings one after the other are one booking of the sum
(`Footing.train_train`).  The curve is any sequence of requirements: nothing is asked of it.
-/

namespace Adventurer

namespace Footing

variable {require : Nat → Nat}

/-- What becomes of an amount on arrival at a level: it climbs on, or is lost where the curve ends. -/
def arrive (require : Nat → Nat) (level amount : Nat) : Footing :=
  if next : require level < require (level + 1) then climb require level amount next else ⟨level, 0⟩

/-- More is added after a walk; where the curve is flat it is refused. -/
def resume (require : Nat → Nat) (f : Footing) (amount : Nat) : Footing :=
  if require f.level < require (f.level + 1) then f.advance require amount else f

/-- What a booking makes of a footing: a flat curve refuses it, and nothing books nothing. -/
def train (require : Nat → Nat) (f : Footing) (amount : Nat) : Footing :=
  if amount = 0 then f else f.resume require amount

/-- Nothing is left to climb: the curve grows and the next requirement is not reached, or it is flat and
nothing is gathered any more. -/
def Rests (require : Nat → Nat) (f : Footing) : Prop :=
  require f.level < require (f.level + 1) ∧ f.count < require (f.level + 1) ∨
    require (f.level + 1) ≤ require f.level ∧ f.count = 0

/-! ## One walk -/

theorem climb_eq (level amount : Nat) (grows : require level < require (level + 1)) :
    climb require level amount grows =
      if require (level + 1) ≤ amount then arrive require (level + 1) (amount - require (level + 1))
      else ⟨level, amount⟩ := by
  rw [climb]
  rfl

theorem advance_eq (f : Footing) (amount : Nat) :
    f.advance require amount =
      if require (f.level + 1) ≤ f.count + amount
      then arrive require (f.level + 1) (amount - (require (f.level + 1) - f.count))
      else ⟨f.level, f.count + amount⟩ := rfl

theorem rests_climb (level amount : Nat) (grows : require level < require (level + 1)) :
    (climb require level amount grows).Rests require := by
  fun_induction climb require level amount grows with
  | case1 level amount grows _ next ih => exact ih
  | case2 level amount grows _ flat => exact .inr ⟨Nat.le_of_not_lt flat, rfl⟩
  | case3 level amount grows short => exact .inl ⟨grows, Nat.lt_of_not_le short⟩

theorem rests_arrive (level amount : Nat) : (arrive require level amount).Rests require := by
  unfold arrive
  split
  · exact rests_climb _ _ _
  · next flat => exact .inr ⟨Nat.le_of_not_lt flat, rfl⟩

/-- A walk goes on until it rests, also from a count at or above the next requirement. -/
theorem rests_advance {f : Footing} (grows : require f.level < require (f.level + 1)) (amount : Nat) :
    (f.advance require amount).Rests require := by
  rw [advance_eq]
  split
  · exact rests_arrive _ _
  · next short => exact .inl ⟨grows, Nat.lt_of_not_le short⟩

/-- A walk does not pass a level from which the curve is flat. -/
theorem climb_level_le {last : Nat} (hflat : ∀ l, last ≤ l → require (l + 1) ≤ require l)
    {level : Nat} (hlevel : level ≤ last) (amount : Nat)
    (grows : require level < require (level + 1)) :
    (climb require level amount grows).level ≤ last := by
  fun_induction climb require level amount grows with
  | case1 level amount grows _ next ih =>
    refine ih (Nat.lt_of_not_le fun hle => ?_)
    exact Nat.not_lt.mpr (hflat level hle) grows
  | case2 level amount grows _ flat =>
    refine Nat.lt_of_not_le fun hle => ?_
    exact Nat.not_lt.mpr (hflat level hle) grows
  | case3 => exact hlevel

theorem advance_level_le {last : Nat} (hflat : ∀ l, last ≤ l → require (l + 1) ≤ require l)
    {f : Footing} (hlevel : f.level ≤ last) (grows : require f.level < require (f.level + 1))
    (amount : Nat) : (f.advance require amount).level ≤ last := by
  have hnext : f.level + 1 ≤ last :=
    Nat.lt_of_not_le fun hle => Nat.not_lt.mpr (hflat f.level hle) grows
  rw [advance_eq]
  split_ifs
  · unfold arrive
    split
    · exact climb_level_le hflat hnext _ _
    · exact hnext
  · exact hlevel

/-! ## Two walks -/

/-- What is added to a count short of the next requirement walks as if it had come with the rest. -/
theorem advance_short {level count : Nat} (short : count < require (level + 1)) (more : Nat) :
    (⟨level, count⟩ : Footing).advance require more =
      (⟨level, 0⟩ : Footing).advance require (count + more) := by
  rw [advance_eq, advance_eq]
  simp only [Nat.zero_add, Nat.sub_zero]
  by_cases far : require (level + 1) ≤ count + more
  · have hrest : more - (require (level + 1) - count) = count + more - require (level + 1) := by omega
    rw [if_pos far, if_pos far, hrest]
  · rw [if_neg far, if_neg far]

theorem advance_zero_eq_climb (level amount : Nat) (grows : require level < require (level + 1)) :
    (⟨level, 0⟩ : Footing).advance require amount = climb require level amount grows := by
  rw [advance_eq, climb_eq, Nat.zero_add, Nat.sub_zero]

/-- The induction is on the first climb: it ends on a flat stretch, where both stay, or short of a
requirement, where the sum goes on. -/
theorem resume_climb (level a b : Nat) (grows : require level < require (level + 1)) :
    (climb require level a grows).resume require b = climb require level (a + b) grows := by
  fun_induction climb require level a grows with
  | case1 level a grows reached next ih =>
    have hrest : a - require (level + 1) + b = a + b - require (level + 1) := by omega
    rw [ih, hrest, climb_eq level, if_pos (by omega), arrive, dif_pos next]
  | case2 level a grows reached flat =>
    rw [resume, if_neg flat, climb_eq, if_pos (by omega), arrive, dif_neg flat]
  | case3 level a grows short =>
    rw [resume, if_pos grows, advance_short (Nat.lt_of_not_le short), advance_zero_eq_climb]

theorem resume_arrive (level a b : Nat) :
    (arrive require level a).resume require b = arrive require level (a + b) := by
  unfold arrive
  split
  · exact resume_climb level a b _
  · next flat => rw [resume, if_neg flat]

theorem resume_advance (f : Footing) (grows : require f.level < require (f.level + 1)) (a b : Nat) :
    (f.advance require a).resume require b = f.advance require (a + b) := by
  rw [advance_eq, advance_eq]
  by_cases reached : require (f.level + 1) ≤ f.count + a
  · have hrest : a - (require (f.level + 1) - f.count) + b =
        a + b - (require (f.level + 1) - f.count) := by omega
    rw [if_pos reached, if_pos (by omega), resume_arrive, hrest]
  · have short : f.count < require (f.level + 1) := by omega
    rw [if_neg reached, resume, if_pos grows, advance_short (Nat.lt_of_not_le reached), Nat.add_assoc,
      ← advance_short short, advance_eq]

/-! ## Bookings -/

theorem train_zero (f : Footing) : f.train require 0 = f := rfl

theorem train_of_ne_zero (f : Footing) {amount : Nat} (h : amount ≠ 0) :
    f.train require amount = f.resume require amount := if_neg h

theorem resume_of_flat {f : Footing} (flat : ¬ require f.level < require (f.level + 1))
    (amount : Nat) : f.resume require amount = f := if_neg flat

theorem le_train_level (f : Footing) (amount : Nat) : f.level ≤ (f.train require amount).level := by
  unfold train resume
  split_ifs
  · exact Nat.le_refl _
  · exact le_advance_level require f amount
  · exact Nat.le_refl _

/-- Two bookings are one booking of the sum. -/
theorem train_train (f : Footing) (a b : Nat) :
    (f.train require a).train require b = f.train require (a + b) := by
  by_cases ha : a = 0
  · rw [ha, train_zero, Nat.zero_add]
  by_cases hb : b = 0
  · rw [hb, train_zero, Nat.add_zero]
  rw [train_of_ne_zero f ha, train_of_ne_zero _ hb, train_of_ne_zero f (by omega)]
  by_cases grows : require f.level < require (f.level + 1)
  · have hresume (n : Nat) : f.resume require n = f.advance require n := if_pos grows
    rw [hresume, hresume, resume_advance f grows]
  · rw [resume_of_flat grows, resume_of_flat grows, resume_of_flat grows]

end Footing

end Adventurer
