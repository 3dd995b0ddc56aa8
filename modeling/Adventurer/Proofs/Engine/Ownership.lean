import Adventurer.Proofs.Dressing.Ownership
import Adventurer.Proofs.Engine.Runs

/-!
# Ownership throughout a run

All states that a run goes through are well owned exactly if none of its deeds poaches.
-/

namespace Adventurer

open Wearer

variable {σ τ : Type} {e : Engine σ τ} {s : Situation σ τ} {n : Nat}

namespace Engine

/-- The deed equips a whole item that lies in a container outside. -/
def Deed.Poaches (e : Engine σ τ) (s : Situation σ τ) : Deed → Prop
  | .act (.equip request) => Dressing.Poaches e.rules e.hook s.wearer request s.hook
  | _ => False

/-! ## One deed -/

theorem shrinks_combatTick (e : Engine σ τ) (s : Situation σ τ) (force : Bool) :
    Shrinks s.wearer (e.combatTick s force).value.1.wearer :=
  shrinks_of_eq rfl
    (Passives.onlyPassives_onCombatTick e.rules s.arena force s.character).equipment_eq

/-- What spending charges keeps, the equipment that a hit goes through keeps. -/
theorem absorbed_induction {P : Arena → Prop} (hspend : ∀ a id spent, P a → P (a.modify id (Hit.spend spent)))
    (rules : Rules) (c : Character) (hit : Hit) {a : Arena} (h : P a) : P (hit.absorb rules c a).1 := by
  have hslots : ∀ (slots : List Slot) (q : Hit.Passage), P q.arena →
      P (slots.foldl (hit.passSlot rules c) q).arena := by
    intro slots
    induction slots with
    | nil => exact fun _ hq => hq
    | cons slot slots ih =>
      refine fun q hq => ih _ ?_
      unfold Hit.passSlot
      split
      · exact hq
      · exact hspend q.arena _ _ hq
  unfold Hit.absorb
  split_ifs
  · exact h
  · exact hslots Slot.all ⟨a, hit.amount, []⟩ h

/-- A hit spends charges and destroys what is worn, and does nothing else. -/
theorem absorb_induction {P : Wearer → Prop}
    (hspend : ∀ v id spent, P v → P (v.mapArena (·.modify id (Hit.spend spent))))
    (hclear : ∀ v slot, P v → P (v.mapEquipment (·.clear slot)))
    (hremove : ∀ v id, P v → P (v.mapArena (·.remove id)))
    (hrefresh : ∀ rules v, P v → P (v.refresh rules).value) (e : Engine σ τ) (hit : Hit)
    (hs : P s.wearer) : P (e.absorb s hit).value.1.wearer := by
  have hhit : P { s.wearer with arena := (hit.absorb e.rules s.character s.arena).1 } :=
    absorbed_induction (P := fun a => P { s.wearer with arena := a })
      (fun a id spent ha => hspend { s.wearer with arena := a } id spent ha) e.rules s.character hit hs
  exact discard_induction hclear hremove hrefresh e.rules _ hhit

/-- A hit only takes items away. -/
theorem shrinks_absorb (e : Engine σ τ) (s : Situation σ τ) (hit : Hit) :
    Shrinks s.wearer (e.absorb s hit).value.1.wearer :=
  absorb_induction (fun v id _ hv => hv.trans (shrinks_modify v id fun _ _ => le_rfl))
    (fun v slot hv => hv.trans (shrinks_clear v slot)) (fun v id hv => hv.trans (shrinks_remove v id))
    (fun rules v hv => hv.trans (shrinks_refresh rules v)) e hit (.refl _)

theorem regular_perform (hk : e.hook.KeepsSlots) (hr : Regular (n + 1) s.wearer) (d : Deed) :
    Regular n (e.perform s d).value.wearer := by
  cases d with
  | absorb hit => exact ((shrinks_absorb e s hit).regular hr).mono (Nat.le_succ n)
  | act action =>
    cases action with
    | equip request => exact Dressing.regular_tryEquip hk hr
    | unequip slot count => exact Dressing.regular_tryUnequip hk hr
    | forceRefresh => exact ((shrinks_combatTick e s true).regular hr).mono (Nat.le_succ n)

/-- A deed keeps the wearer well owned exactly if it does not poach. -/
theorem wellOwned_perform_iff (hk : e.hook.KeepsSlots) (hr : Regular (n + 1) s.wearer)
    (hw : s.wearer.WellOwned) (d : Deed) :
    (e.perform s d).value.wearer.WellOwned ↔ ¬ d.Poaches e s := by
  cases d with
  | absorb hit => exact iff_of_true ((shrinks_absorb e s hit).wellOwned hw) id
  | act action =>
    cases action with
    | equip request => exact Dressing.wellOwned_tryEquip_iff hk hr hw
    | unequip slot count => exact iff_of_true (Dressing.wellOwned_tryUnequip hk hr hw) id
    | forceRefresh => exact iff_of_true ((shrinks_combatTick e s true).wellOwned hw) id

/-! ## Runs -/

/-- **When every item has one owner.**  A run from a well owned state, with hooks whose reports leave the
slots alone: every state after some of its calls is one after some of its deeds, and all of those are well
owned exactly if no deed of the run equips a whole item that lies in a container the character does not
carry.  Such a container goes on listing the item. -/
theorem wellOwned_throughout_iff (calls : List (Engine σ τ × Call)) (s : Situation σ τ)
    (hk : ∀ c ∈ calls, c.1.hook.KeepsSlots) (hr : Regular (deedsOf calls).length s.wearer)
    (hw : s.wearer.WellOwned) :
    (∀ answered, answered <+: calls → deedsOf answered <+: deedsOf calls ∧
      reached s answered = after s (deedsOf answered)) ∧
    ((∀ before, before <+: deedsOf calls → (after s before).wearer.WellOwned) ↔
      ∀ before e d, before ++ [(e, d)] <+: deedsOf calls → ¬ d.Poaches e (after s before)) := by
  refine ⟨fun answered h => reached_of_prefix s h, ?_⟩
  exact throughout_iff (fun e => e.hook.KeepsSlots) (fun n s => Regular n s.wearer)
    (fun s => s.wearer.WellOwned) (fun n e s d hke hrn => regular_perform hke hrn d)
    (fun n e s d hke hrn hws => wellOwned_perform_iff hke hrn hws d) (deedsOf calls) s
    (forall_deedsOf (fun e => e.hook.KeepsSlots) hk) hr hw

/-! ## A sword out of a bag on the ground -/

/-- Nothing is worn, and a bag on the ground holds a sword. -/
def swordInBag : Situation Unit Unit where
  wearer :=
    { character := { id := ⟨1⟩, name := "Tester" }
      arena := ((Arena.empty.insert ⟨⟨2⟩, 1, 0, []⟩).1.insert ⟨⟨1⟩, 1, 0, [⟨0, 0⟩]⟩).1 }
  hook := ()
  rates := ()

/-- The rules of a world of bags and swords. -/
def bagRules : Rules where
  items := some fun kind =>
    some (if kind = ⟨1⟩ then { container := true, positions := ⟨4⟩ } else { positions := ⟨32⟩ })

/-- The sword into the left hand. -/
def takeSword : List (Engine Unit Unit × Call) :=
  [(.plain bagRules, .equip ⟨⟨0, 0⟩, .named .left, 1⟩)]

theorem namings_swordInBag (x : ItemId) :
    swordInBag.wearer.namings x = [(⟨0, 0⟩ : ItemId)].count x := by
  show 0 + (0 + ([(⟨0, 0⟩ : ItemId)].count x + 0)) = _
  omega

theorem wellOwned_swordInBag : swordInBag.wearer.WellOwned := by
  intro x item _
  rw [namings_swordInBag]
  exact List.count_le_length

theorem regular_swordInBag : Regular 1 swordInBag.wearer where
  sound := (Arena.sound_empty.insert _).insert _
  issued x hx := by
    rw [namings_swordInBag, List.count_pos_iff, List.mem_singleton] at hx
    exact ⟨0, by rw [hx]; rfl, by rw [hx]⟩
  room := ⟨by decide, by decide⟩

theorem not_wellOwned_takeSword : ¬ (reached swordInBag takeSword).wearer.WellOwned := by
  intro h
  have hlive : (reached swordInBag takeSword).wearer.arena.get? ⟨0, 0⟩ = some ⟨⟨2⟩, 1, 0, []⟩ := by
    decide
  have htwo : (reached swordInBag takeSword).wearer.namings ⟨0, 0⟩ = 2 := by decide
  have hone := h _ _ hlive
  omega

/-- The sword is in the hand and in the bag. -/
theorem sword_owned_twice :
    swordInBag.wearer.WellOwned ∧ Regular (deedsOf takeSword).length swordInBag.wearer ∧
      (∀ c ∈ takeSword, c.1.hook.KeepsSlots) ∧ ¬ (reached swordInBag takeSword).wearer.WellOwned :=
  ⟨wellOwned_swordInBag, regular_swordInBag,
    fun c hc => by rw [List.mem_singleton.mp hc]; exact EquipHook.keepsSlots_idle,
    not_wellOwned_takeSword⟩

theorem wellOwned_throughout_iff_takeSword :
    Regular (deedsOf takeSword).length swordInBag.wearer ∧ swordInBag.wearer.WellOwned ∧
      ¬ ∀ before e d, before ++ [(e, d)] <+: deedsOf takeSword →
        ¬ d.Poaches e (after swordInBag before) := by
  have hk : ∀ c ∈ takeSword, c.1.hook.KeepsSlots := fun c hc => by
    rw [List.mem_singleton.mp hc]
    exact EquipHook.keepsSlots_idle
  obtain ⟨hcalls, hiff⟩ :=
    wellOwned_throughout_iff takeSword swordInBag hk regular_swordInBag wellOwned_swordInBag
  refine ⟨regular_swordInBag, wellOwned_swordInBag, fun hnone => not_wellOwned_takeSword ?_⟩
  obtain ⟨hpre, heq⟩ := hcalls takeSword List.prefix_rfl
  rw [heq]
  exact hiff.mpr hnone _ hpre

end Engine

end Adventurer
