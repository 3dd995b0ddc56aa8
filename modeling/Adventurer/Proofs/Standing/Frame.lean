import Adventurer.Standing
import Mathlib.Tactic.SplitIfs

/-!
# What standing touches

Kills, attacks and the time of a skull write the reputation of a character and nothing else of it; only the
end of a fight opens its lock besides.
-/

namespace Adventurer

/-- The two characters differ at most in their reputation. -/
def OnlyReputation (c d : Character) : Prop := ∃ reputation, d = { c with reputation }

theorem OnlyReputation.refl (c : Character) : OnlyReputation c c := ⟨_, rfl⟩

theorem OnlyReputation.trans {c d f : Character} (h : OnlyReputation c d) (h' : OnlyReputation d f) :
    OnlyReputation c f := by
  obtain ⟨_, rfl⟩ := h
  obtain ⟨_, rfl⟩ := h'
  exact ⟨_, rfl⟩

namespace Standing

variable (c : Character)

theorem onlyReputation_setSkull (skull : Skull) : OnlyReputation c (setSkull c skull).value := by
  unfold setSkull
  split_ifs
  · exact .refl c
  · exact ⟨_, rfl⟩

theorem onlyReputation_checkSkull (elapsed : Nat) (inFight : Bool) :
    OnlyReputation c (checkSkull c elapsed inFight).value := by
  unfold checkSkull
  simp only
  split_ifs
  · exact OnlyReputation.trans ⟨_, rfl⟩ (onlyReputation_setSkull _ _)
  · exact ⟨_, rfl⟩

theorem onlyReputation_sentence (skull : Skull) (duration : Nat) :
    OnlyReputation c (sentence c skull duration).value :=
  (onlyReputation_setSkull c skull).trans ⟨_, rfl⟩

theorem onlyReputation_escalate (rules : Rules) : OnlyReputation c (escalate rules c).value := by
  unfold escalate
  simp only
  split_ifs
  · exact .refl c
  · exact onlyReputation_sentence c .black _
  · exact onlyReputation_sentence c .red _
  · exact .refl c

theorem onlyReputation_addUnjustifiedKill (rules : Rules) (target : CreatureId) (name : String) :
    OnlyReputation c (addUnjustifiedKill rules c target name).value := by
  unfold addUnjustifiedKill
  split_ifs
  · exact .refl c
  · exact OnlyReputation.trans ⟨_, rfl⟩ (onlyReputation_escalate _ rules)

theorem onlyReputation_addAttacked (target : CreatureId) : OnlyReputation c (addAttacked c target) := by
  unfold addAttacked
  split_ifs
  · exact ⟨_, rfl⟩
  · exact .refl c

theorem onlyReputation_onAttackPlayer (rules : Rules) (target : CreatureId) (skull : Skull)
    (struckFirst : Bool) : OnlyReputation c (onAttackPlayer rules c target skull struckFirst).value := by
  unfold onAttackPlayer
  simp only
  split_ifs
  · exact .refl c
  · exact (onlyReputation_addAttacked c target).trans (onlyReputation_setSkull _ _)
  · exact onlyReputation_addAttacked c target

theorem onlyReputation_onFightEnd :
    OnlyReputation { c with combat := { c.combat with pzLocked := false } } (onFightEnd c).value := by
  unfold onFightEnd
  simp only
  split_ifs
  · exact ⟨_, rfl⟩
  · exact OnlyReputation.trans ⟨_, rfl⟩ (onlyReputation_setSkull _ _)

end Standing

end Adventurer
