import Adventurer.Proofs.Standing.Frame
import Mathlib.Tactic.Common

/-!
# Sentences

A red or black skull is a sentence: an unjustified kill sets it and its time (`sentenceFor?`), the time of
the ticks is counted off, and nothing else touches either.  All other rules write mild skulls over mild ones
at most (`Mark.Mild`).
-/

namespace Adventurer

/-- The skull, and the milliseconds for which a red or black one is still borne. -/
structure Mark where
  skull : Skull
  left : Int
  deriving DecidableEq

def Character.mark (c : Character) : Mark := ⟨c.reputation.skull, c.reputation.skullTicks⟩

theorem Skull.isSticky_iff {skull : Skull} : skull.isSticky = true ↔ skull = .red ∨ skull = .black := by
  cases skull <;> decide

namespace Mark

variable {m m' m'' : Mark} {elapsed : Nat}

/-- From the first mark to the second the time stays, and so does a skull that only time takes away; none such
is given either. -/
structure Mild (m m' : Mark) : Prop where
  left : m'.left = m.left
  skull : m.skull.isSticky = true ∨ m'.skull.isSticky = true → m'.skull = m.skull

theorem Mild.refl (m : Mark) : Mild m m := ⟨rfl, fun _ => rfl⟩

theorem Mild.of_eq (h : m' = m) : Mild m m' := h ▸ .refl m

theorem Mild.trans (h : Mild m m') (h' : Mild m' m'') : Mild m m'' where
  left := h'.left.trans h.left
  skull hsticky := by
    rcases hsticky with hm | hm
    · have hsame := h.skull (.inl hm)
      rw [h'.skull (.inl (hsame ▸ hm)), hsame]
    · have hsame := h'.skull (.inr hm)
      rw [hsame, h.skull (.inr (hsame ▸ hm))]

/-- A skull that only time takes away keeps its mark. -/
theorem Mild.eq_of_sticky (h : Mild m m') (hm : m.skull.isSticky = true) : m' = m := by
  obtain ⟨skull, left⟩ := m
  obtain ⟨skull', left'⟩ := m'
  obtain rfl : left' = left := h.left
  obtain rfl : skull' = skull := h.skull (.inl hm)
  rfl

/-- The time that is left after some more of it, as sixty-four bits count it. -/
def leftAfter (m : Mark) (elapsed : Nat) : Int :=
  max 0 (clampInt minInt64 maxInt64 (m.left - min (elapsed : Int) maxInt64))

theorem leftAfter_nonneg (m : Mark) (elapsed : Nat) : 0 ≤ m.leftAfter elapsed := Int.le_max_left _ _

/-- The mark after some time, which takes a red or black skull away once none is left outside of a fight. -/
def counted (m : Mark) (elapsed : Nat) (inFight : Bool) : Mark where
  skull := if m.skull.isSticky && m.leftAfter elapsed < 1 && !inFight then .none else m.skull
  left := m.leftAfter elapsed

/-- Time gives no red or black skull. -/
theorem skull_counted {inFight : Bool} (h : (m.counted elapsed inFight).skull.isSticky = true) :
    (m.counted elapsed inFight).skull = m.skull := by
  unfold counted at *
  split_ifs at h with hleaves
  · cases h
  · rw [if_neg hleaves]

/-- A time that sixty-four bits hold is counted down exactly, and stops at nothing. -/
theorem leftAfter_eq {span : Nat} (hleft : m.left = span) (hspan : (span : Int) ≤ maxInt64) :
    m.leftAfter elapsed = ((span - elapsed : Nat) : Int) := by
  unfold leftAfter clampInt minInt64
  unfold maxInt64 at *
  split_ifs <;> omega

end Mark

namespace Standing

variable (c : Character)

theorem mark_setSkull (skull : Skull) : (setSkull c skull).value.mark = { c.mark with skull } := by
  unfold setSkull
  split_ifs with same
  · rw [← same]
    rfl
  · rfl

theorem mark_sentence (skull : Skull) (duration : Nat) :
    (sentence c skull duration).value.mark = ⟨skull, duration⟩ := by
  have hvalue : (sentence c skull duration).value.mark =
      { (setSkull c skull).value.mark with left := (duration : Int) } := rfl
  rw [hvalue, mark_setSkull]

/-- What the kills that count sentence to, and for how long: nothing under a black skull, a black skull for
twice the kills that lead to a red one, and a red skull for these. -/
def escalation? (rules : Rules) (c : Character) : Option (Skull × Nat) :=
  let skulls := rules.config.skulls
  let kills := c.windowKills rules.now
  if c.reputation.skull = .black then none
  else if kills.reaches skulls 2 then some (.black, skulls.blackDuration)
  else if kills.reaches skulls 1 then some (.red, skulls.redDuration)
  else none

/-- What an unjustified kill sentences to, and for how long. -/
def sentenceFor? (rules : Rules) (c : Character) (target : CreatureId) : Option (Skull × Nat) :=
  if !isInvolved c target || rules.config.worldType = .pvpEnforced then none
  else escalation? rules (c.mapReputation fun r => { r with kills := r.kills ++ [⟨target, rules.now, true⟩] })

theorem mark_escalate (rules : Rules) :
    (escalate rules c).value.mark =
      (escalation? rules c).elim c.mark fun given => ⟨given.1, given.2⟩ := by
  unfold escalate escalation?
  simp only
  split_ifs
  · rfl
  · exact mark_sentence _ _ _
  · exact mark_sentence _ _ _
  · rfl

/-- An unjustified kill sets what it sentences to. -/
theorem mark_addUnjustifiedKill (rules : Rules) (target : CreatureId) (name : String) :
    (addUnjustifiedKill rules c target name).value.mark =
      (sentenceFor? rules c target).elim c.mark fun given => ⟨given.1, given.2⟩ := by
  unfold addUnjustifiedKill sentenceFor?
  split_ifs
  · rfl
  · exact mark_escalate _ rules

theorem isSticky_of_sentenceFor? {rules : Rules} {target : CreatureId} {skull : Skull} {duration : Nat}
    (h : sentenceFor? rules c target = some (skull, duration)) :
    skull.isSticky = true ∧ c.reputation.skull ≠ .black := by
  unfold sentenceFor? escalation? at h
  simp only at h
  split_ifs at h with _ hblack
  all_goals
    obtain ⟨rfl, -⟩ := Prod.mk.inj (Option.some.inj h)
    exact ⟨rfl, hblack⟩

theorem mild_onAttackPlayer (rules : Rules) (target : CreatureId) (skull : Skull) (struckFirst : Bool) :
    Mark.Mild c.mark (onAttackPlayer rules c target skull struckFirst).value.mark := by
  have hadded : (addAttacked c target).mark = c.mark := by
    unfold addAttacked
    split_ifs <;> rfl
  unfold onAttackPlayer
  simp only
  split_ifs with hinvolved hfirst
  · exact .refl _
  · have hnone : (addAttacked c target).reputation.skull = .none := by
      simp only [Bool.and_eq_true, decide_eq_true_eq] at hfirst
      exact hfirst.2
    rw [mark_setSkull, hadded]
    refine ⟨rfl, fun hsticky => ?_⟩
    have hmild : c.mark.skull = .none := hadded ▸ hnone
    rw [hmild] at hsticky
    rcases hsticky with h | h <;> cases h
  · exact .of_eq hadded

theorem mild_onFightEnd : Mark.Mild c.mark (onFightEnd c).value.mark := by
  unfold onFightEnd
  simp only
  split_ifs with hsticky
  · exact .refl _
  · rw [mark_setSkull]
    refine ⟨rfl, fun h => ?_⟩
    rcases h with h | h
    · exact absurd h hsticky
    · cases h

theorem mark_checkSkull (elapsed : Nat) (inFight : Bool) :
    (checkSkull c elapsed inFight).value.mark = c.mark.counted elapsed inFight := by
  unfold checkSkull Mark.counted
  simp only
  split_ifs with hleaves hstays hstays
  · rw [mark_setSkull]
    rfl
  · exact absurd hleaves hstays
  · exact absurd hstays hleaves
  · rfl

end Standing

end Adventurer
