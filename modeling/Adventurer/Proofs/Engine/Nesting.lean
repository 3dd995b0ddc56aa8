import Adventurer.Proofs.Dressing.Nesting
import Adventurer.Proofs.Engine.Ownership

/-!
# Containers in containers throughout a run

No state that a run goes through has a cycle of containers if the first one has none.
-/

namespace Adventurer

open Wearer Dressing

variable {σ τ : Type} {e : Engine σ τ} {s : Situation σ τ}

namespace Engine

theorem acyclic_absorb (h : s.arena.Acyclic) (hit : Hit) :
    (e.absorb s hit).value.1.wearer.arena.Acyclic := by
  refine absorb_induction (P := fun v => v.arena.Acyclic) (fun v id spent hv => ?_)
    (fun _ _ hv => hv) (fun v id hv => ?_) (fun _ _ hv => hv) e hit h
  · have hcontents : ∀ item, (Hit.spend spent item).contents = item.contents := fun _ => rfl
    exact hv.of_lists fun _ _ => (Arena.lists_modify hcontents).mp
  · exact hv.of_lists fun _ _ => Arena.lists_of_remove

theorem acyclic_perform (h : s.arena.Acyclic) (d : Deed) : (e.perform s d).value.arena.Acyclic := by
  cases d with
  | absorb hit => exact acyclic_absorb h hit
  | act action =>
    cases action with
    | equip request => exact acyclic_tryEquip h
    | unequip slot count => exact acyclic_tryUnequip h
    | forceRefresh => exact h

/-- **No item ever lies inside itself.**  A run from a state without cycles of containers: every state after
some of its calls is one after some of its deeds, and in all of those no item lies inside itself, so that
all searches below items come to their end.  The container that the search for a destination answers is a
live item of a container type, carried and not inside the item, whatever the state. -/
theorem acyclic_throughout (calls : List (Engine σ τ × Call)) (s : Situation σ τ)
    (h : s.arena.Acyclic) :
    (∀ answered, answered <+: calls → deedsOf answered <+: deedsOf calls ∧
      reached s answered = after s (deedsOf answered)) ∧
    (∀ before, before <+: deedsOf calls → (after s before).arena.Acyclic ∧
      ∀ rules, SearchesEnd rules (after s before).wearer) ∧
    ∀ (rules : Rules) (w : Wearer) (id box : ItemId),
      destination? rules w.character w.arena id = some (.container box) →
      (∃ bag type, w.arena.get? box = some bag ∧ rules.itemType? bag.type = some type ∧
        type.container = true) ∧
      w.Carries box ∧ w.arena.isWithin id box = false := by
  refine ⟨fun answered ha => reached_of_prefix s ha, fun before hb => ?_, fun rules w id box hbox => ?_⟩
  · have hacyclic : (after s before).arena.Acyclic :=
      @Run.throughout (Situation σ τ) (Engine σ τ × Deed) _ (fun _ => True) (fun t => t.arena.Acyclic)
        (fun _ d _ ht => acyclic_perform ht d.2) (deedsOf calls) (fun _ _ => trivial) s h before hb
    exact ⟨hacyclic, fun rules => searchesEnd rules hacyclic⟩
  · obtain ⟨hcarried, hcontainer, hout⟩ := destination?_container hbox
    obtain ⟨⟨bag, type⟩, hr, htype⟩ := (Option.any_eq_true _ _).mp hcontainer
    obtain ⟨hlive, hknown⟩ := Rules.get?_of_resolve? hr
    exact ⟨⟨bag, type, hlive, hknown, htype⟩, hcarried,
      Bool.eq_false_iff.mpr fun hw => hout (Arena.isWithin_iff.mp hw)⟩

/-! ## Three bags -/

/-- A bag, a bag with the first one in it and a third one. -/
def bags : Arena :=
  (((Arena.empty.insert ⟨⟨1⟩, 1, 0, []⟩).1.insert ⟨⟨1⟩, 1, 0, []⟩).1.insert ⟨⟨1⟩, 1, 0, []⟩).1.modify
    ⟨1, 0⟩ (Arena.enlist ⟨0, 0⟩)

theorem acyclic_bags : bags.Acyclic := by
  have hinsert : ∀ {a : Arena}, a.Acyclic → (a.insert ⟨⟨1⟩, 1, 0, []⟩).1.Acyclic :=
    fun ha => ha.of_lists fun _ _ => Arena.lists_of_insert rfl
  refine (hinsert (hinsert (hinsert Arena.acyclic_empty))).enlist fun hr => ?_
  exact absurd (Arena.isWithin_iff.mpr hr) (by decide)

/-- The two bags on the back, and the third one where arrows belong. -/
def packer : Situation Unit Unit where
  wearer :=
    { character := { id := ⟨1⟩, name := "Tester",
                     equipment := (Equipment.empty.wear .backpack ⟨1, 0⟩).wear .ammo ⟨2, 0⟩ }
      arena := bags }
  hook := ()
  rates := ()

/-- The bag off the back wherever there is room for it, which is in the third one, and that one onto the
back. -/
def repack : List (Engine Unit Unit × Call) :=
  [(.plain bagRules, .equip ⟨⟨1, 0⟩, .wherever, 1⟩), (.plain bagRules, .equip ⟨⟨2, 0⟩, .wherever, 1⟩)]

/-- Three bags inside each other. -/
theorem acyclic_throughout_repack :
    packer.arena.Acyclic ∧ (reached packer repack).arena.Acyclic ∧
      (reached packer repack).arena.get? ⟨2, 0⟩ = some ⟨⟨1⟩, 1, 0, [⟨1, 0⟩]⟩ ∧
      (reached packer repack).arena.get? ⟨1, 0⟩ = some ⟨⟨1⟩, 1, 0, [⟨0, 0⟩]⟩ := by
  obtain ⟨hcalls, hruns, -⟩ := acyclic_throughout repack packer acyclic_bags
  obtain ⟨hpre, heq⟩ := hcalls repack List.prefix_rfl
  refine ⟨acyclic_bags, ?_, by decide, by decide⟩
  rw [heq]
  exact (hruns _ hpre).1

end Engine

end Adventurer
