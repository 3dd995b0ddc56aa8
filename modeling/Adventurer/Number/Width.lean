/-!
# Bounded counters

The widths in which an adventurer's numbers are kept, arithmetic that stops at the end of its width
instead of leaving it, and arithmetic that goes round.  A counter is a natural number or an integer; the
bound is part of the operation, so what a sum may lose is visible where the sum is taken.
-/

namespace Adventurer

/-- The largest counts that eight, sixteen, thirty-two and sixty-four bits hold. -/
def max8 : Nat := 255
@[inherit_doc max8] def max16 : Nat := 65535
@[inherit_doc max8] def max32 : Nat := 4294967295
@[inherit_doc max8] def max64 : Nat := 18446744073709551615

/-- The ends of the signed thirty-two-bit range. -/
def minInt32 : Int := -2147483648
@[inherit_doc minInt32] def maxInt32 : Int := 2147483647

/-- The ends of the signed sixty-four-bit range. -/
def minInt64 : Int := -9223372036854775808
@[inherit_doc minInt64] def maxInt64 : Int := 9223372036854775807

/-- The sum of two counts, or the bound where the sum passes it. -/
def addUpTo (bound a b : Nat) : Nat := min bound (a + b)

/-- The product of two counts, or the bound where the product passes it. -/
def mulUpTo (bound a b : Nat) : Nat := min bound (a * b)

/-- What a width keeps of a count: a count beyond the bound goes round and starts from zero again. -/
def wrap (bound n : Nat) : Nat := n % (bound + 1)

/-- What thirty-two signed bits keep of an integer. -/
def wrapInt32 (x : Int) : Int := x.bmod (max32 + 1)

/-- What sixty-four signed bits keep of an integer. -/
def wrapInt64 (x : Int) : Int := x.bmod (max64 + 1)

/-- The member of `lo..hi` nearest to `x`. -/
def clampInt (lo hi x : Int) : Int := if x < lo then lo else if hi < x then hi else x

theorem addUpTo_le (bound a b : Nat) : addUpTo bound a b ≤ bound := Nat.min_le_left _ _

theorem addUpTo_of_le {bound a b : Nat} (h : a + b ≤ bound) : addUpTo bound a b = a + b :=
  Nat.min_eq_right h

theorem wrap_le (bound n : Nat) : wrap bound n ≤ n := Nat.mod_le _ _

theorem wrap_le_bound (bound n : Nat) : wrap bound n ≤ bound :=
  Nat.le_of_lt_succ (Nat.mod_lt n (Nat.succ_pos bound))

theorem wrap_of_le {bound n : Nat} (h : n ≤ bound) : wrap bound n = n :=
  Nat.mod_eq_of_lt (Nat.lt_succ_of_le h)

/-- Only what fits is kept whole. -/
theorem wrap_eq_self_iff {bound n : Nat} : wrap bound n = n ↔ n ≤ bound := by
  refine ⟨fun h => ?_, wrap_of_le⟩
  have hbound := wrap_le_bound bound n
  omega

/-- Going round on the way does not show at the end. -/
theorem wrap_wrap_add (bound n m : Nat) : wrap bound (wrap bound n + m) = wrap bound (n + m) :=
  Nat.mod_add_mod n (bound + 1) m

/-- Integers of one remainder are kept alike; those less than a round apart are kept apart. -/
theorem eq_of_wrapInt32_eq {x y : Int} (h : wrapInt32 x = wrapInt32 y) (hlow : x - y ≤ max32)
    (hhigh : y - x ≤ max32) : x = y := by
  have hx : wrapInt32 x % (max32 + 1) = x % (max32 + 1) := Int.bmod_emod
  have hy : wrapInt32 y % (max32 + 1) = y % (max32 + 1) := Int.bmod_emod
  rw [h] at hx
  simp only [max32] at hx hy hlow hhigh
  omega

end Adventurer
