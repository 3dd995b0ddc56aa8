import Adventurer.Proofs.Progress.Walk

/-!
# Walks in counters of fixed width

A walk keeps its level in thirty-two bits and its counts in sixty-four.  Here it is the loop over such
counters, round by round, in which every sum and every difference is checked and only the test for another
round stops at the end of the width.  On any curve, growing or not, the loop ends where `Footing.advance`
does, after a round for each level at most, and no counter leaves its width on the way
(`arrives_within_width`).
-/

namespace Adventurer

/-! ## Checked arithmetic -/

/-- The sum of two counts, if the width holds it. -/
def addWithin? (bound a b : Nat) : Option Nat := if a + b ≤ bound then some (a + b) else none

/-- The difference of two counts, if it is not below zero. -/
def takeWithin? (a b : Nat) : Option Nat := if b ≤ a then some (a - b) else none

/-- The product of two counts, if the width holds it. -/
def mulWithin? (bound a b : Nat) : Option Nat := if a * b ≤ bound then some (a * b) else none

theorem addWithin?_of_le {bound a b : Nat} (h : a + b ≤ bound) : addWithin? bound a b = some (a + b) :=
  if_pos h

theorem takeWithin?_of_le {a b : Nat} (h : b ≤ a) : takeWithin? a b = some (a - b) := if_pos h

theorem mulWithin?_of_le {bound a b : Nat} (h : a * b ≤ bound) : mulWithin? bound a b = some (a * b) :=
  if_pos h

/-- A sum that stops at the end of its width reaches what the width holds exactly if the sum does. -/
theorem le_addUpTo_iff {bound a b n : Nat} (h : n ≤ bound) : n ≤ addUpTo bound a b ↔ n ≤ a + b := by
  unfold addUpTo
  omega

namespace Footing

/-! ## The loop -/

/-- The counters of a walk: where it stands, what is yet to be added, and the requirements of its level and
of the next one. -/
structure Counters where
  footing : Footing
  amount : Nat
  current : Nat
  next : Nat

/-- What is seen of a walk that is watched for a while. -/
inductive Sight where
  /-- More rounds are to come. -/
  | underway
  /-- A counter has left its width. -/
  | overflow
  | arrived (f : Footing)
  deriving DecidableEq

/-- What is seen once all is added: the footing, if every sum has fitted. -/
def Sight.ofSettled (settled : Option Footing) : Sight := settled.elim .overflow .arrived

namespace Counters

/-- A walk before its first round. -/
def start? (require : Nat → Nat) (f : Footing) (amount : Nat) : Option Counters := do
  let above ← addWithin? max32 f.level 1
  return ⟨f, amount, require f.level, require above⟩

/-- One round: what is missing to the next requirement is taken off the amount, the level rises and the
count starts again. -/
def raise? (require : Nat → Nat) (c : Counters) : Option Counters := do
  let amount ← takeWithin? c.amount (c.next - c.footing.count)
  let level ← addWithin? max32 c.footing.level 1
  let above ← addWithin? max32 level 1
  return ⟨⟨level, 0⟩, amount, c.next, require above⟩

/-- Adds what is left at the end. -/
def settle? (c : Counters) : Option Footing := do
  let count ← addWithin? max64 c.footing.count c.amount
  return ⟨c.footing.level, count⟩

/-- The loop, watched for a number of rounds.  Where the curve has stopped growing the rest is dropped. -/
def loop (require : Nat → Nat) : (rounds : Nat) → Counters → Sight
  | 0, _ => .underway
  | rounds + 1, c =>
    if c.next ≤ addUpTo max64 c.footing.count c.amount then
      match c.raise? require with
      | none => .overflow
      | some up =>
        if up.next ≤ up.current then .ofSettled { up with amount := 0 }.settle?
        else loop require rounds up
    else .ofSettled c.settle?

end Counters

/-- A whole walk, watched for a number of rounds. -/
def walk (require : Nat → Nat) (f : Footing) (amount rounds : Nat) : Sight :=
  (Counters.start? require f amount).elim .overflow (Counters.loop require rounds)

/-! ## One round -/

variable {require : Nat → Nat} {f : Footing} {amount rounds : Nat}

/-- A walk that reaches the next level goes on from there with nothing gathered, unless the curve stops
growing. -/
theorem advance_of_reached (hreached : require (f.level + 1) ≤ f.count + amount) :
    f.advance require amount =
      if require (f.level + 2) ≤ require (f.level + 1) then ⟨f.level + 1, 0⟩
      else (⟨f.level + 1, 0⟩ : Footing).advance require (amount - (require (f.level + 1) - f.count)) := by
  rw [advance_eq, if_pos hreached, arrive]
  by_cases grows : require (f.level + 1) < require (f.level + 2)
  · rw [dif_pos grows, if_neg (Nat.not_le.mpr grows), advance_zero_eq_climb _ _ grows]
  · rw [dif_neg grows, if_pos (Nat.le_of_not_lt grows)]

namespace Counters

variable {c : Counters}

/-- A round that is due fits, unless the level comes to its end: the amount holds what is missing even
where the amount and the count together pass the width. -/
theorem raise?_of_reached (hreached : c.next ≤ c.footing.count + c.amount)
    (hlevel : c.footing.level + 2 ≤ max32) :
    c.raise? require = some ⟨⟨c.footing.level + 1, 0⟩, c.amount - (c.next - c.footing.count), c.next,
      require (c.footing.level + 2)⟩ := by
  have hmissing : c.next - c.footing.count ≤ c.amount := by omega
  have hup : c.footing.level + 1 ≤ max32 := by omega
  have habove : c.footing.level + 1 + 1 ≤ max32 := hlevel
  simp only [raise?, takeWithin?_of_le hmissing, addWithin?_of_le hup, addWithin?_of_le habove,
    Option.bind_eq_bind, Option.bind_some, pure]

theorem settle?_of_le (h : c.footing.count + c.amount ≤ max64) :
    c.settle? = some ⟨c.footing.level, c.footing.count + c.amount⟩ := by
  simp only [settle?, addWithin?_of_le h, Option.bind_eq_bind, Option.bind_some, pure]

/-- The loop is left where the next requirement is not reached. -/
theorem loop_of_short (hnext : c.next ≤ max64) (hshort : c.footing.count + c.amount < c.next) :
    loop require (rounds + 1) c = .arrived ⟨c.footing.level, c.footing.count + c.amount⟩ := by
  have htest : ¬ c.next ≤ addUpTo max64 c.footing.count c.amount := by
    rw [le_addUpTo_iff hnext]
    omega
  rw [loop, if_neg htest, settle?_of_le (by omega)]
  rfl

/-- A round that is due ends the walk where the curve stops growing, and is followed by the next one
elsewhere. -/
theorem loop_of_reached (hnext : c.next ≤ max64) (hreached : c.next ≤ c.footing.count + c.amount)
    (hlevel : c.footing.level + 2 ≤ max32) :
    loop require (rounds + 1) c =
      if require (c.footing.level + 2) ≤ c.next then .arrived ⟨c.footing.level + 1, 0⟩
      else loop require rounds ⟨⟨c.footing.level + 1, 0⟩, c.amount - (c.next - c.footing.count), c.next,
        require (c.footing.level + 2)⟩ := by
  have htest : c.next ≤ addUpTo max64 c.footing.count c.amount := (le_addUpTo_iff hnext).mpr hreached
  rw [loop, if_pos htest, raise?_of_reached hreached hlevel]
  rfl

/-! ## All rounds -/

/-- The loop arrives where the walk does.  The induction is on the rounds: each takes what is missing to the
next requirement off the amount and leaves one level less to gain. -/
theorem loop_eq (hrequire : ∀ level ≤ max32, require level ≤ max64) (rounds : Nat) (f : Footing)
    (amount current : Nat) (hlast : (f.advance require amount).level < max32)
    (hrounds : (f.advance require amount).level < f.level + rounds) :
    loop require rounds ⟨f, amount, current, require (f.level + 1)⟩ =
      .arrived (f.advance require amount) := by
  have hup : f.level ≤ (f.advance require amount).level := le_advance_level _ _ _
  have hnext : require (f.level + 1) ≤ max64 := hrequire (f.level + 1) (by omega)
  induction rounds generalizing f amount current with
  | zero => omega
  | succ rounds ih =>
    by_cases hreached : require (f.level + 1) ≤ f.count + amount
    · rw [advance_of_reached hreached] at hlast hrounds ⊢
      split_ifs at hlast hrounds ⊢ with flat
      · have hhigh : f.level + 2 ≤ max32 := hlast
        rw [loop_of_reached hnext hreached hhigh, if_pos flat]
      · let up : Footing := ⟨f.level + 1, 0⟩
        let rest := amount - (require (f.level + 1) - f.count)
        have habove : f.level + 1 ≤ (up.advance require rest).level := le_advance_level require up rest
        have hhigh : f.level + 2 ≤ max32 := Nat.succ_le_of_lt (Nat.lt_of_le_of_lt habove hlast)
        have hleft : (up.advance require rest).level < f.level + 1 + rounds := by
          rw [Nat.add_assoc, Nat.add_comm 1]
          exact hrounds
        rw [loop_of_reached hnext hreached hhigh, if_neg flat]
        exact ih up rest _ hlast hleft habove (hrequire (f.level + 2) hhigh)
    · rw [loop_of_short hnext (Nat.lt_of_not_le hreached), advance_eq, if_neg hreached]

end Counters

/-- A walk, from whatever count, ends short of the next requirement or with nothing where the curve stops
growing. -/
theorem ends_advance (require : Nat → Nat) (f : Footing) (amount : Nat) :
    (f.advance require amount).count < require ((f.advance require amount).level + 1) ∨
      require ((f.advance require amount).level + 1) ≤ require (f.advance require amount).level ∧
        (f.advance require amount).count = 0 := by
  rw [advance_eq]
  split_ifs with reached
  · exact (rests_arrive _ _).imp_left And.right
  · exact .inl (Nat.lt_of_not_le reached)

/-- **A walk ends, and within its width.**  On any curve of requirements that sixty-four bits hold, from any
level, count and amount, also where count and amount together pass sixty-four bits, unless the level comes
to the end of thirty-two bits: the loop over checked counters is over after one more round than it gains
levels and has arrived where the walk arrives, so that nothing was taken from less and no sum has left its
width; and it ends short of the next requirement, or with nothing gathered where the curve stops growing. -/
theorem arrives_within_width (require : Nat → Nat) (hrequire : ∀ level ≤ max32, require level ≤ max64)
    (f : Footing) (amount : Nat) (hlast : (f.advance require amount).level < max32) :
    (∀ rounds, (f.advance require amount).level - f.level < rounds →
      walk require f amount rounds = .arrived (f.advance require amount)) ∧
    ((f.advance require amount).count < require ((f.advance require amount).level + 1) ∨
      require ((f.advance require amount).level + 1) ≤ require (f.advance require amount).level ∧
        (f.advance require amount).count = 0) := by
  refine ⟨fun rounds hrounds => ?_, ends_advance require f amount⟩
  have hup : f.level ≤ (f.advance require amount).level := le_advance_level _ _ _
  have habove : f.level + 1 ≤ max32 := by omega
  have hstart : Counters.start? require f amount =
      some ⟨f, amount, require f.level, require (f.level + 1)⟩ := by
    simp only [Counters.start?, addWithin?_of_le habove, Option.bind_eq_bind, Option.bind_some, pure]
  rw [walk, hstart, Option.elim_some]
  apply Counters.loop_eq hrequire rounds f amount _ hlast
  omega

/-- A curve that grows to the twelfth level and falls behind it. -/
def fallingCurve (level : Nat) : Nat := if level ≤ 12 then 100 * level else 50

/-- Full counts on a curve that is not monotone: the walk comes to rest at the level behind which the
requirements fall. -/
theorem arrives_within_width_falling :
    (∀ level ≤ max32, fallingCurve level ≤ max64) ∧
      (⟨10, max64⟩ : Footing).advance fallingCurve max64 = ⟨12, 0⟩ ∧
      ∀ rounds, 2 < rounds → walk fallingCurve ⟨10, max64⟩ max64 rounds = .arrived ⟨12, 0⟩ := by
  have hrequire : ∀ level ≤ max32, fallingCurve level ≤ max64 := by
    intro level _
    unfold fallingCurve max64
    split_ifs <;> omega
  have hadvance : (⟨10, max64⟩ : Footing).advance fallingCurve max64 = ⟨12, 0⟩ := by
    simp [advance_eq, arrive, climb_eq, fallingCurve, max64]
  refine ⟨hrequire, hadvance, fun rounds hrounds => ?_⟩
  have harrives := (arrives_within_width fallingCurve hrequire ⟨10, max64⟩ max64
    (by rw [hadvance]; decide)).1 rounds
  rw [hadvance] at harrives
  exact harrives hrounds

end Footing

end Adventurer
