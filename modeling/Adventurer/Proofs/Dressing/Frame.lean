import Adventurer.Proofs.Dressing.Ownership

/-!
# What moves touch

Taking an item in hand and putting it somewhere writes the equipment of the character and nothing else of
it.  Bringing all up to date writes the weight, the passives and the cached stats.  The rest is up to the
hook, which hears of a move at its end.
-/

namespace Adventurer

variable {σ : Type} {rules : Rules} {hook : EquipHook σ} {w : Wearer} {s : σ}

/-- The two characters differ at most in what they wear. -/
def OnlyEquipment (c d : Character) : Prop := ∃ equipment, d = { c with equipment }

theorem OnlyEquipment.refl (c : Character) : OnlyEquipment c c := ⟨_, rfl⟩

theorem OnlyEquipment.trans {c d f : Character} (h : OnlyEquipment c d) (h' : OnlyEquipment d f) :
    OnlyEquipment c f := by
  obtain ⟨_, rfl⟩ := h
  obtain ⟨_, rfl⟩ := h'
  exact ⟨_, rfl⟩

namespace Wearer

/-- Bringing up to date writes the weight, the passives and the cached stats. -/
theorem character_refresh (rules : Rules) (w : Wearer) :
    ∃ inventoryWeight passives cached, (w.refresh rules).value.character =
      { w.character with inventoryWeight, passives, combat := { w.character.combat with cached } } := by
  have htick := Passives.onlyPassives_onCombatTick rules w.arena true
    { w.character with inventoryWeight := Dressing.inventoryWeight rules w.character w.arena }
  have hvalue : (w.refresh rules).value.character =
      (fun c : Character => { c with combat := { c.combat with cached := rules.derivedStats c w.arena } })
        (Passives.onCombatTick rules w.arena true { w.character with
          inventoryWeight := Dressing.inventoryWeight rules w.character w.arena }).value.1 := rfl
  rw [hvalue]
  obtain ⟨p, hp⟩ := htick
  rw [hp]
  exact ⟨_, p, _, rfl⟩

theorem onlyEquipment_detach (w : Wearer) (id : ItemId) :
    OnlyEquipment w.character (w.detach id).value.character := by
  unfold detach
  cases w.character.equipment.slotOf id with
  | some slot => exact ⟨_, rfl⟩
  | none => exact .refl _

theorem onlyEquipment_takeFrom (w : Wearer) (id : ItemId) (count : Nat) :
    OnlyEquipment w.character (w.takeFrom id count).value.1.character := by
  unfold takeFrom
  cases w.arena.get? id with
  | none => exact .refl _
  | some source =>
    simp only
    split_ifs
    · exact .refl _
    · exact onlyEquipment_detach w id

theorem onlyEquipment_store (rules : Rules) (w : Wearer) (id : ItemId) (count : Nat) (box : ItemId) :
    OnlyEquipment w.character (w.store rules id count box).value.1.character := by
  unfold store
  simp only [Told.value_bind]
  cases w.joinable? rules id box count <;> exact onlyEquipment_takeFrom w id count

/-- Discarding nothing does nothing.  Discarding empties slots and brings all up to date after that. -/
theorem discard_updates {P R : Character → Prop} (hwear : ∀ c d, OnlyEquipment c d → P c → P d)
    (hrefresh : ∀ v : Wearer, P v.character → R (v.refresh rules).value.character) (slots : List Slot)
    (hw : P w.character) :
    slots = [] ∧ P (w.discard rules slots).value.character ∨ R (w.discard rules slots).value.character := by
  unfold discard
  split_ifs with hnone
  · exact .inl ⟨List.isEmpty_iff.mp hnone, hw⟩
  · rw [Told.value_bind]
    refine .inr (hrefresh _ ?_)
    refine Told.foldlM_induction (P := fun v : Wearer => P v.character) (fun v slot hv => ?_) slots hw
    cases v.character.equipment.get slot with
    | none => exact hv
    | some id => exact hwear _ _ ⟨_, rfl⟩ hv

end Wearer

namespace Dressing

theorem onlyEquipment_move (rules : Rules) (w : Wearer) (id : ItemId) (count : Nat) (p : Plan) :
    OnlyEquipment w.character (move rules w id count p).value.1.character := by
  cases p with
  | stow box => exact w.onlyEquipment_store rules id count box
  | merge slot stack => exact w.onlyEquipment_takeFrom id count
  | wear slot displaced => exact (w.onlyEquipment_takeFrom id count).trans ⟨_, rfl⟩

section Updates

variable {P R : Character → Prop} (hwear : ∀ c d, OnlyEquipment c d → P c → P d)
  (hrefresh : ∀ v : Wearer, P v.character → R (v.refresh rules).value.character)
  (hon : ∀ c id slot t, R c → R (hook.onEquip c id slot t).1)
  (hoff : ∀ c id slot t, R c → R (hook.onUnequip c id slot t).1) (hw : P w.character)

include hwear hrefresh hoff hw

include hon in
/-- If a move keeps `P`, an update leads from it to `R` and the hook keeps that, then a request to equip leads
to `R` unless it is refused. -/
theorem tryEquip_updates (request : EquipRequest) :
    (∃ refusal, (tryEquip rules hook w request s).value.2.2 = .error refusal) ∧
        P (tryEquip rules hook w request s).value.1.character ∨
      R (tryEquip rules hook w request s).value.1.character := by
  unfold tryEquip
  split
  · exact .inl ⟨⟨_, rfl⟩, hw⟩
  · rename_i p n t _
    have hmoved := hrefresh _ (hwear _ _ (onlyEquipment_move rules w request.item n p) hw)
    refine .inr ?_
    cases p with
    | stow box => exact hmoved
    | merge slot stack => exact hon _ _ _ _ hmoved
    | wear slot displaced =>
      cases displaced with
      | none => exact hon _ _ _ _ hmoved
      | some other => exact hon _ _ _ _ (hoff _ _ _ _ hmoved)

/-- The same of a request to take something off. -/
theorem tryUnequip_updates (slot : Slot) (count : Nat) :
    (∃ refusal, (tryUnequip rules hook w slot count s).value.2.2 = .error refusal) ∧
        P (tryUnequip rules hook w slot count s).value.1.character ∨
      R (tryUnequip rules hook w slot count s).value.1.character := by
  cases hp : planRemoval rules hook w slot count s with
  | mk result t =>
    cases result with
    | error refusal =>
      unfold tryUnequip
      rw [hp]
      exact .inl ⟨⟨_, rfl⟩, hw⟩
    | ok id =>
      rw [value_tryUnequip_of_plan rules hp]
      exact .inr (hoff _ _ _ _ (hrefresh _ (hwear _ _ (w.onlyEquipment_takeFrom id count) hw)))

end Updates

section Induction

variable {P : Character → Prop} (hwear : ∀ c d, OnlyEquipment c d → P c → P d)
  (hrefresh : ∀ v : Wearer, P v.character → P (v.refresh rules).value.character)
  (hon : ∀ c id slot t, P c → P (hook.onEquip c id slot t).1)
  (hoff : ∀ c id slot t, P c → P (hook.onUnequip c id slot t).1) (hw : P w.character)

include hwear hrefresh hoff hw

include hon in
/-- What a move, an update and the hook keep, a request to equip keeps. -/
theorem tryEquip_induction (request : EquipRequest) : P (tryEquip rules hook w request s).value.1.character :=
  (tryEquip_updates hwear hrefresh hon hoff hw request).elim And.right id

/-- What a move, an update and the hook keep, a request to take something off keeps. -/
theorem tryUnequip_induction (slot : Slot) (count : Nat) :
    P (tryUnequip rules hook w slot count s).value.1.character :=
  (tryUnequip_updates hwear hrefresh hoff hw slot count).elim And.right id

end Induction

end Dressing

end Adventurer
