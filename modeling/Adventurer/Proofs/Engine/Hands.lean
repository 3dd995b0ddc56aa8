import Adventurer.Proofs.Dressing.ClassicHands
import Adventurer.Proofs.Dressing.ModernHands
import Adventurer.Proofs.Engine.Ownership

/-!
# The hands throughout a run

Everything but a request to equip something lets the hands fade, and so keeps the rule of the hands,
classic or modern.  All states that a run goes through keep the classic rule exactly if no request of the
run straddles, and the modern one exactly if none mispairs.
-/

namespace Adventurer

open Wearer

variable {σ τ : Type} {e : Engine σ τ} {s : Situation σ τ} {types : ItemLookup} {n : Nat}

namespace Engine

/-- An engine under the classic or the modern rules with a given catalog, whose hooks leave the slots
alone. -/
structure Under (types : ItemLookup) (classic : Bool) (e : Engine σ τ) : Prop where
  hook : e.hook.KeepsSlots
  slots : e.rules.config.classicEquipmentSlots = classic
  catalog : e.rules.itemType? = types

/-- The deed puts an item into a hand next to the rest of it. -/
def Deed.Straddles (e : Engine σ τ) (s : Situation σ τ) : Deed → Prop
  | .act (.equip request) => Dressing.Straddles e.rules e.hook s.wearer request s.hook
  | _ => False

/-- The deed brings together what does not belong together. -/
def Deed.Mispairs (e : Engine σ τ) (s : Situation σ τ) : Deed → Prop
  | .act (.equip request) => Dressing.Mispairs e.rules e.hook s.wearer request s.hook
  | _ => False

/-! ## One deed -/

theorem fades_absorb (e : Engine σ τ) (s : Situation σ τ) (hit : Hit) :
    Fades s.wearer (e.absorb s hit).value.1.wearer :=
  absorb_induction
    (fun v id _ hv => hv.trans (fades_modify v id (fun _ => rfl) fun _ _ hc => hc))
    (fun v slot hv => hv.trans (fades_clear v slot)) (fun v id hv => hv.trans (fades_remove v id))
    (fun rules v hv => hv.trans (fades_refresh rules v)) e hit (.refl _)

theorem fades_combatTick (e : Engine σ τ) (s : Situation σ τ) (force : Bool) :
    Fades s.wearer (e.combatTick s force).value.1.wearer :=
  fades_of_eq rfl (Passives.onlyPassives_onCombatTick e.rules s.arena force s.character).equipment_eq

/-- Whatever is done but equipping lets the hands fade. -/
theorem fades_perform (hk : e.hook.KeepsSlots) (hr : Regular (n + 1) s.wearer) {d : Deed}
    (hd : ∀ request, d ≠ .act (.equip request)) : Fades s.wearer (e.perform s d).value.wearer := by
  cases d with
  | absorb hit => exact fades_absorb e s hit
  | act action =>
    cases action with
    | equip request => exact absurd rfl (hd request)
    | unequip slot count => exact Dressing.fades_tryUnequip hk hr
    | forceRefresh => exact fades_combatTick e s true

theorem classicHands_perform_iff (he : e.Under types true) (hr : Regular (n + 1) s.wearer)
    (hw : s.wearer.ClassicHands types) (d : Deed) :
    (e.perform s d).value.wearer.ClassicHands types ↔ ¬ d.Straddles e s := by
  obtain ⟨hk, hclassic, rfl⟩ := he
  have hfade := fun hd => (fades_perform hk hr (d := d) hd).classicHands hr hw
  cases d with
  | absorb hit => exact iff_of_true (hfade fun _ h => by simp at h) id
  | act action =>
    cases action with
    | equip request => exact Dressing.classicHands_tryEquip_iff hclassic hk hr hw
    | unequip slot count => exact iff_of_true (hfade fun _ h => by simp at h) id
    | forceRefresh => exact iff_of_true (hfade fun _ h => by simp at h) id

theorem modernHands_perform_iff (he : e.Under types false) (hr : Regular (n + 1) s.wearer)
    (hw : s.wearer.ModernHands types) (d : Deed) :
    (e.perform s d).value.wearer.ModernHands types ↔ ¬ d.Mispairs e s := by
  obtain ⟨hk, hmodern, rfl⟩ := he
  have hfade := fun hd => (fades_perform hk hr (d := d) hd).modernHands hr hw
  cases d with
  | absorb hit => exact iff_of_true (hfade fun _ h => by simp at h) id
  | act action =>
    cases action with
    | equip request => exact Dressing.modernHands_tryEquip_iff hmodern hk hr hw
    | unequip slot count => exact iff_of_true (hfade fun _ h => by simp at h) id
    | forceRefresh => exact iff_of_true (hfade fun _ h => by simp at h) id

/-! ## Runs under the classic rules -/

/-- **When the classic rule of the hands lasts.**  A run under the classic rules, from a state that keeps
their rule of the hands and with hooks that leave the slots alone: every state after some of its calls is
one after some of its deeds, and all of those keep the rule exactly if no request of the run is accepted
for a hand while the item, of which no two may be held, lies in the other hand and stays there. -/
theorem classicHands_throughout_iff (types : ItemLookup) (calls : List (Engine σ τ × Call))
    (s : Situation σ τ) (he : ∀ c ∈ calls, c.1.Under types true)
    (hr : Regular (deedsOf calls).length s.wearer) (hw : s.wearer.ClassicHands types) :
    (∀ answered, answered <+: calls → deedsOf answered <+: deedsOf calls ∧
      reached s answered = after s (deedsOf answered)) ∧
    ((∀ before, before <+: deedsOf calls → (after s before).wearer.ClassicHands types) ↔
      ∀ before e d, before ++ [(e, d)] <+: deedsOf calls → ¬ d.Straddles e (after s before)) := by
  refine ⟨fun answered h => reached_of_prefix s h, ?_⟩
  exact throughout_iff (fun e => e.Under types true) (fun n s => Regular n s.wearer)
    (fun s => s.wearer.ClassicHands types) (fun n e s d hke hrn => regular_perform hke.hook hrn d)
    (fun n e s d hke hrn hws => classicHands_perform_iff hke hrn hws d) (deedsOf calls) s
    (forall_deedsOf (fun e => e.Under types true) he) hr hw

/-- Ten spears in the left hand; a spear takes both hands. -/
def spearman : Situation Unit Unit where
  wearer :=
    { character := { id := ⟨1⟩, name := "Tester", equipment := Equipment.empty.wear .left ⟨0, 0⟩ }
      arena := (Arena.empty.insert ⟨⟨1⟩, 10, 0, []⟩).1 }
  hook := ()
  rates := ()

/-- The rules of a world of spears. -/
def spearRules : Rules where
  items := some fun _ => some { stackable := true, positions := ⟨2096⟩ }

/-- Three of the spears into the right hand. -/
def shareSpears : List (Engine Unit Unit × Call) :=
  [(.plain spearRules, .equip ⟨⟨0, 0⟩, .named .right, 3⟩)]

theorem under_shareSpears : ∀ c ∈ shareSpears, c.1.Under spearRules.itemType? true := by
  intro c hc
  rw [List.mem_singleton.mp hc]
  exact ⟨EquipHook.keepsSlots_idle, rfl, rfl⟩

theorem namings_spearman (x : ItemId) : spearman.wearer.namings x = [(⟨0, 0⟩ : ItemId)].count x := by
  show [(⟨0, 0⟩ : ItemId)].count x + (0 + 0) = _
  omega

theorem regular_spearman : Regular 1 spearman.wearer where
  sound := Arena.sound_empty.insert _
  issued x hx := by
    rw [namings_spearman, List.count_pos_iff, List.mem_singleton] at hx
    exact ⟨0, by rw [hx]; rfl, by rw [hx]⟩
  room := ⟨by decide, by decide⟩

theorem classicHands_spearman : spearman.wearer.ClassicHands spearRules.itemType? := by
  have hright : spearman.wearer.inSlot? .right = none := by decide
  refine ⟨fun hand other item type hopp hin _ _ => ?_, fun l r lt rt _ _ hr _ => ?_,
    fun l r lt rt _ _ hr _ => ?_⟩
  · cases hand <;> cases hopp
    · rw [hright] at hin
      simp at hin
    · decide
  · rw [hright] at hr
    simp at hr
  · rw [hright] at hr
    simp at hr

theorem not_classicHands_shareSpears :
    ¬ (reached spearman shareSpears).wearer.ClassicHands spearRules.itemType? := by
  intro h
  have hleft : (reached spearman shareSpears).wearer.inSlot? .left = some ⟨⟨1⟩, 7, 0, []⟩ := by decide
  have hright : (reached spearman shareSpears).wearer.character.equipment.get .right = some ⟨1, 0⟩ := by
    decide
  have hnone := h.twoHanded .left .right _ _ rfl hleft rfl (by decide)
  rw [hright] at hnone
  simp at hnone

/-- Seven spears are in the one hand and three in the other. -/
theorem spears_in_both_hands :
    spearman.wearer.ClassicHands spearRules.itemType? ∧ spearman.wearer.WellOwned ∧
      Regular (deedsOf shareSpears).length spearman.wearer ∧
      (∀ c ∈ shareSpears, c.1.Under spearRules.itemType? true) ∧
      ¬ (reached spearman shareSpears).wearer.ClassicHands spearRules.itemType? := by
  refine ⟨classicHands_spearman, fun x item _ => ?_, regular_spearman, under_shareSpears,
    not_classicHands_shareSpears⟩
  rw [namings_spearman]
  exact List.count_le_length

theorem classicHands_throughout_iff_shareSpears :
    Regular (deedsOf shareSpears).length spearman.wearer ∧
      spearman.wearer.ClassicHands spearRules.itemType? ∧
      ¬ ∀ before e d, before ++ [(e, d)] <+: deedsOf shareSpears →
        ¬ d.Straddles e (after spearman before) := by
  obtain ⟨hcalls, hiff⟩ := classicHands_throughout_iff spearRules.itemType? shareSpears spearman
    under_shareSpears regular_spearman classicHands_spearman
  refine ⟨regular_spearman, classicHands_spearman, fun hnone => not_classicHands_shareSpears ?_⟩
  obtain ⟨hpre, heq⟩ := hcalls shareSpears List.prefix_rfl
  rw [heq]
  exact hiff.mpr hnone _ hpre

/-! ## Runs under the modern rules -/

/-- **When the modern rule of the hands lasts.**  A run under the modern rules, from a state that keeps
their rule of the hands and with hooks that leave the slots alone: every state after some of its calls is
one after some of its deeds, and all of those keep the rule exactly if no request of the run is accepted
that puts a one-handed weapon next to a two-handed item that is no quiver of its ammunition, a two-handed
shield or quiver next to an item of no known type, or other ammunition into the quiver of the weapon. -/
theorem modernHands_throughout_iff (types : ItemLookup) (calls : List (Engine σ τ × Call))
    (s : Situation σ τ) (he : ∀ c ∈ calls, c.1.Under types false)
    (hr : Regular (deedsOf calls).length s.wearer) (hw : s.wearer.ModernHands types) :
    (∀ answered, answered <+: calls → deedsOf answered <+: deedsOf calls ∧
      reached s answered = after s (deedsOf answered)) ∧
    ((∀ before, before <+: deedsOf calls → (after s before).wearer.ModernHands types) ↔
      ∀ before e d, before ++ [(e, d)] <+: deedsOf calls → ¬ d.Mispairs e (after s before)) := by
  refine ⟨fun answered h => reached_of_prefix s h, ?_⟩
  exact throughout_iff (fun e => e.Under types false) (fun n s => Regular n s.wearer)
    (fun s => s.wearer.ModernHands types) (fun n e s d hke hrn => regular_perform hke.hook hrn d)
    (fun n e s d hke hrn hws => modernHands_perform_iff hke hrn hws d) (deedsOf calls) s
    (forall_deedsOf (fun e => e.Under types false) he) hr hw

/-- A tower shield, which takes both hands, in the right hand, and a sword on the ground. -/
def shieldBearer : Situation Unit Unit where
  wearer :=
    { character := { id := ⟨1⟩, name := "Tester", equipment := Equipment.empty.wear .right ⟨1, 0⟩ }
      arena := ((Arena.empty.insert ⟨⟨1⟩, 1, 0, []⟩).1.insert ⟨⟨2⟩, 1, 0, []⟩).1 }
  hook := ()
  rates := ()

/-- The rules of a world of swords and tower shields. -/
def towerRules : Rules where
  items := some fun kind =>
    some (if kind = ⟨1⟩ then { weaponType := .sword, positions := ⟨32⟩ }
      else { weaponType := .shield, positions := ⟨2064⟩ })
  config := { classicEquipmentSlots := false }

/-- The sword into the left hand. -/
def drawSword : List (Engine Unit Unit × Call) :=
  [(.plain towerRules, .equip ⟨⟨0, 0⟩, .named .left, 1⟩)]

theorem under_drawSword : ∀ c ∈ drawSword, c.1.Under towerRules.itemType? false := by
  intro c hc
  rw [List.mem_singleton.mp hc]
  exact ⟨EquipHook.keepsSlots_idle, rfl, rfl⟩

theorem namings_shieldBearer (x : ItemId) :
    shieldBearer.wearer.namings x = [(⟨1, 0⟩ : ItemId)].count x := by
  show [(⟨1, 0⟩ : ItemId)].count x + (0 + (0 + 0)) = _
  omega

theorem regular_shieldBearer : Regular 1 shieldBearer.wearer where
  sound := (Arena.sound_empty.insert _).insert _
  issued x hx := by
    rw [namings_shieldBearer, List.count_pos_iff, List.mem_singleton] at hx
    exact ⟨0, by rw [hx]; rfl, by rw [hx]⟩
  room := ⟨by decide, by decide⟩

theorem modernHands_shieldBearer : shieldBearer.wearer.ModernHands towerRules.itemType? := by
  have hright : shieldBearer.wearer.inSlot? .right = some ⟨⟨2⟩, 1, 0, []⟩ := by decide
  have hleft : shieldBearer.wearer.inSlot? .left = none := by decide
  refine ⟨fun item hin => ?_, fun item type hin _ => ?_, fun l r hl _ _ => ?_⟩
  · obtain rfl := Option.some.inj (hright.symm.trans hin)
    exact ⟨_, rfl, .inl (by decide)⟩
  · rw [hleft] at hin
    simp at hin
  · rw [hleft] at hl
    simp at hl

theorem not_modernHands_drawSword :
    ¬ (reached shieldBearer drawSword).wearer.ModernHands towerRules.itemType? := by
  intro h
  have hleft : (reached shieldBearer drawSword).wearer.inSlot? .left = some ⟨⟨1⟩, 1, 0, []⟩ := by decide
  have hright : (reached shieldBearer drawSword).wearer.inSlot? .right = some ⟨⟨2⟩, 1, 0, []⟩ := by decide
  obtain ⟨weapon, quiver, hweapon, -, hdist, -⟩ :=
    h.paired _ _ hleft hright (.inr ⟨_, rfl, by decide⟩)
  obtain rfl := Option.some.inj hweapon
  exact absurd hdist (by decide)

/-- A sword is next to a two-handed shield. -/
theorem sword_beside_tower_shield :
    shieldBearer.wearer.ModernHands towerRules.itemType? ∧ shieldBearer.wearer.WellOwned ∧
      Regular (deedsOf drawSword).length shieldBearer.wearer ∧
      (∀ c ∈ drawSword, c.1.Under towerRules.itemType? false) ∧
      ¬ (reached shieldBearer drawSword).wearer.ModernHands towerRules.itemType? := by
  refine ⟨modernHands_shieldBearer, fun x item _ => ?_, regular_shieldBearer, under_drawSword,
    not_modernHands_drawSword⟩
  rw [namings_shieldBearer]
  exact List.count_le_length

theorem modernHands_throughout_iff_drawSword :
    Regular (deedsOf drawSword).length shieldBearer.wearer ∧
      shieldBearer.wearer.ModernHands towerRules.itemType? ∧
      ¬ ∀ before e d, before ++ [(e, d)] <+: deedsOf drawSword →
        ¬ d.Mispairs e (after shieldBearer before) := by
  obtain ⟨hcalls, hiff⟩ := modernHands_throughout_iff towerRules.itemType? drawSword shieldBearer
    under_drawSword regular_shieldBearer modernHands_shieldBearer
  refine ⟨regular_shieldBearer, modernHands_shieldBearer, fun hnone => not_modernHands_drawSword ?_⟩
  obtain ⟨hpre, heq⟩ := hcalls drawSword List.prefix_rfl
  rw [heq]
  exact hiff.mpr hnone _ hpre

end Engine

end Adventurer
