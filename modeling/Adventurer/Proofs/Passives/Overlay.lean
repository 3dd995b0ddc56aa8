import Adventurer.Passives.Tick
import Mathlib.Tactic.SplitIfs

/-!
# What the overlay touches

A combat tick changes the passives of a character and nothing else of it.
-/

namespace Adventurer.Passives

/-- The two characters differ in their passives at most. -/
def OnlyPassives (c d : Character) : Prop := ∃ p, d = { c with passives := p }

theorem OnlyPassives.refl (c : Character) : OnlyPassives c c := ⟨c.passives, rfl⟩

theorem OnlyPassives.trans {c d e : Character} (h : OnlyPassives c d) (h' : OnlyPassives d e) :
    OnlyPassives c e := by
  obtain ⟨p, rfl⟩ := h
  obtain ⟨q, rfl⟩ := h'
  exact ⟨q, rfl⟩

theorem onlyPassives_map (c : Character) (change : PassiveState → PassiveState) :
    OnlyPassives c (c.mapPassives change) := ⟨change c.passives, rfl⟩

theorem OnlyPassives.equipment_eq {c d : Character} (h : OnlyPassives c d) :
    d.equipment = c.equipment := by
  obtain ⟨p, rfl⟩ := h
  rfl

theorem onlyPassives_evaluate (rules : Rules) (a : Arena) (passive : Passive) (c : Character) :
    OnlyPassives c (evaluate rules a passive c).1 := ⟨_, rfl⟩

theorem onlyPassives_refreshOne (rules : Rules) (a : Arena) (force : Bool) (done : Character × Bool)
    (passive : Passive) : OnlyPassives done.1 (refreshOne rules a force done passive).1 := by
  unfold refreshOne
  simp only
  split_ifs
  · exact (onlyPassives_evaluate rules a passive done.1).trans ⟨_, rfl⟩
  · exact .refl _

/-- How each of several evaluations leaves a character, so do all of them one after the other. -/
theorem related_foldl_refreshOne {rules : Rules} {a : Arena} {force : Bool}
    {R : Character → Character → Prop} (hrefl : ∀ c, R c c) (htrans : ∀ {c d e}, R c d → R d e → R c e) :
    ∀ {passives : List Passive} (done : Character × Bool),
      (∀ passive ∈ passives, ∀ done, R done.1 (refreshOne rules a force done passive).1) →
      R done.1 (passives.foldl (refreshOne rules a force) done).1
  | [], done, _ => hrefl done.1
  | first :: rest, done, h => by
    have hone := h first List.mem_cons_self done
    have hrest := related_foldl_refreshOne hrefl htrans (refreshOne rules a force done first)
      fun passive hp => h passive (List.mem_cons_of_mem first hp)
    exact htrans hone hrest

theorem onlyPassives_refresh (rules : Rules) (a : Arena) (force : Bool) (passives : List Passive)
    (c : Character) : OnlyPassives c (refresh rules a passives force c).1 :=
  related_foldl_refreshOne OnlyPassives.refl OnlyPassives.trans (c, false)
    fun passive _ done => onlyPassives_refreshOne rules a force done passive

theorem value_resync (done : Character × Bool) : (resync done).value = done := by
  unfold resync
  cases done.2 <;> rfl

/-- What the client is told of a refresh hangs on nothing but whether a major stat has changed. -/
theorem notices_resync (done : Character × Bool) :
    (resync done).notices = if done.2 then [.skills, .stats] else [] := by
  unfold resync
  cases done.2 <;> rfl

theorem onlyPassives_tickGiftOfLife (c : Character) (now : Instant) :
    OnlyPassives c (tickGiftOfLife c now) := onlyPassives_map c _

/-- A combat tick changes nothing but the passives. -/
theorem onlyPassives_onCombatTick (rules : Rules) (a : Arena) (force : Bool) (c : Character) :
    OnlyPassives c (onCombatTick rules a force c).value.1 := by
  refine (onlyPassives_tickGiftOfLife c rules.now).trans ?_
  unfold onCombatTick
  simp only
  split_ifs
  · rw [value_resync]
    exact onlyPassives_map _ _
  · rw [value_resync]
    exact onlyPassives_refresh rules a force _ _

end Adventurer.Passives
