import Adventurer.Proofs.Dressing.Ownership

/-!
# What the slots show

Rules about the hands look at the live items in the slots, at their types and at what they hold.  Most of
what happens lets this fade (`Fades`): slots are emptied, items are gone or have less inside.  What can
break a rule is the item that a request puts down, which was checked against the other hand before it was
taken (`fits_of_tryEquip`).
-/

namespace Adventurer

variable {σ : Type} {rules : Rules} {w v u : Wearer} {id x box : ItemId} {source item : Item}
  {type : ItemType} {count n : Nat} {slot : Slot} {hand done : Wearer × ItemId} {p : Dressing.Plan}

theorem Rules.resolve?_eq_some {a : Arena} : rules.resolve? a id = some (item, type) ↔
    a.get? id = some item ∧ rules.itemType? item.type = some type := by
  refine ⟨get?_of_resolve?, ?_⟩
  rintro ⟨hl, ht⟩
  unfold resolve?
  rw [hl, Option.bind_some, ht]
  rfl

/-! ## What the checks have established -/

namespace Dressing

variable {hook : EquipHook σ} {c : Character} {a : Arena} {request : EquipRequest} {s t : σ}

theorem require_eq_ok {condition : Bool} {refusal : Refusal} :
    require condition refusal = .ok () ↔ condition = true := by
  unfold require
  cases condition <;> simp

theorem allows_of_fits (hne : slot ≠ .ammo)
    (h : fitsSlot rules a c id item type slot count = .ok ()) : type.positions.allows slot = true := by
  by_contra hnot
  unfold fitsSlot at h
  simp only [if_neg hnot] at h
  have hammo := require_eq_ok.mp h
  simp [hne] at hammo

theorem fits_of_placeInSlot {placement : Placement}
    (h : placeInSlot rules c a id item type slot count = .ok placement) :
    placement.slot? = some slot ∧ fitsSlot rules a c id item type slot count = .ok () := by
  constructor
  · rw [eq_of_placeInSlot_eq_ok h]
    cases obstacle? c a id item type slot <;> rfl
  · unfold placeInSlot at h
    split_ifs at h
    split at h
    · simp at h
    · next hfits => exact hfits

/-- An item that may go to a slot fits it. -/
theorem fits_of_queryAdd {target : SlotTarget} {placement : Placement}
    (hr : rules.resolve? a id = some (item, type))
    (h : queryAdd rules c a id target count = .ok placement) (hs : placement.slot? = some slot) :
    fitsSlot rules a c id item type slot count = .ok () := by
  have hfits : ∀ {there}, placeInSlot rules c a id item type there count = .ok placement →
      fitsSlot rules a c id item type slot count = .ok () := by
    intro there hplace
    obtain ⟨hthere, hfits⟩ := fits_of_placeInSlot hplace
    obtain rfl := Option.some.inj (hthere.symm.trans hs)
    exact hfits
  unfold queryAdd at h
  rw [hr] at h
  simp only at h
  split at h
  · simp at h
  · split at h
    · exact hfits h
    · split at h
      · exact hfits h
      · split_ifs at h
        rw [← Except.ok.inj h] at hs
        simp [Placement.slot?] at hs
      · simp at h

theorem destination_of_planSlot {displaced : Option ItemId}
    (h : planSlot rules w id count slot displaced = .ok p) (x : ItemId) :
    (p.outcome x).destination = .slot slot := by
  unfold planSlot at h
  split at h
  · split_ifs at h
    · rw [← Except.ok.inj h]
      rfl
    · cases hm : queryMaxCount rules w.character w.arena id (.named slot) count with
      | error e => rw [hm] at h; simp [Except.map] at h
      | ok room =>
        rw [hm] at h
        rw [← Except.ok.inj h]
        rfl
  · rw [← Except.ok.inj h]
    rfl

/-- What an accepted request puts into a slot fits the slot. -/
theorem fits_of_tryEquip {outcome : EquipOutcome}
    (hok : (tryEquip rules hook w request s).value.2.2 = .ok outcome)
    (hr : rules.resolve? w.arena request.item = some (item, type))
    (hd : outcome.destination = .slot slot) :
    fitsSlot rules w.arena w.character request.item item type slot (movedCount type request) = .ok () := by
  obtain ⟨p, m, t, hplan, -, -, rfl⟩ := exists_plan_of_tryEquip hok
  unfold plan at hplan
  rw [hr] at hplan
  simp only at hplan
  split at hplan
  · simp at hplan
  · cases hq : queryAdd rules w.character w.arena request.item request.target
        (movedCount type request) with
    | error refusal => rw [hq] at hplan; simp at hplan
    | ok placement =>
      refine fits_of_queryAdd hr hq ?_
      rw [hq] at hplan
      cases placement with
      | stored box =>
        simp only [Prod.mk.injEq, Except.ok.injEq] at hplan
        obtain ⟨⟨rfl, -⟩, -⟩ := hplan
        simp [Plan.outcome] at hd
      | accepted there =>
        obtain ⟨-, hslot⟩ := planSlot_of_planned hplan
        rw [destination_of_planSlot hslot] at hd
        exact congrArg some (Destination.slot.inj hd)
      | exchange there other =>
        obtain ⟨-, hslot⟩ := planSlot_of_planned hplan
        rw [destination_of_planSlot hslot] at hd
        exact congrArg some (Destination.slot.inj hd)

/-- The request takes the whole item out of the slot. -/
def Vacates (w : Wearer) (id : ItemId) (item : Item) (count : Nat) (slot : Slot) : Prop :=
  w.character.equipment.slotOf id = some slot ∧ item.count ≤ count

end Dressing

open Dressing (Vacates)

namespace Wearer

/-- The live item in a slot. -/
def inSlot? (w : Wearer) (slot : Slot) : Option Item :=
  (w.character.equipment.get slot).bind w.arena.get?

theorem inSlot?_eq_some : w.inSlot? slot = some item ↔
    ∃ id, w.character.equipment.get slot = some id ∧ w.arena.get? id = some item :=
  Option.bind_eq_some_iff

theorem inSlot?_of_get_eq_none (h : w.character.equipment.get slot = none) : w.inSlot? slot = none := by
  unfold inSlot?
  rw [h]
  rfl

theorem inSlot?_wear (w : Wearer) (slot there : Slot) (id : ItemId) :
    (w.mapEquipment (·.wear slot id)).inSlot? there =
      if slot = there then w.arena.get? id else w.inSlot? there := by
  show ((w.character.equipment.wear slot id).get there).bind w.arena.get? = _
  rw [Equipment.get_wear]
  split_ifs <;> rfl

theorem get?_listed (w : Wearer) (box id c : ItemId) :
    (w.mapArena (·.modify box (Arena.enlist id))).arena.get? c =
      (w.arena.get? c).map fun item => if c = box then Arena.enlist id item else item := by
  show (w.arena.modify box (Arena.enlist id)).get? c = _
  rw [Arena.get?_modify]
  by_cases hc : c = box
  · subst hc
    simp
  · simp [hc]

theorem inSlot?_listed (w : Wearer) (box id : ItemId) (slot : Slot) :
    (w.mapArena (·.modify box (Arena.enlist id))).inSlot? slot =
      (w.inSlot? slot).map fun item =>
        if w.character.equipment.get slot = some box then Arena.enlist id item else item := by
  unfold inSlot?
  show (w.character.equipment.get slot).bind _ = _
  cases hg : w.character.equipment.get slot with
  | none => rfl
  | some x =>
    rw [Option.bind_some, Option.bind_some, get?_listed]
    simp only [Option.some.injEq]

theorem Regular.issued_of_get (hr : Regular n w) (h : w.character.equipment.get slot = some id) :
    w.arena.Issued id :=
  hr.issued id (Nat.add_pos_left (Equipment.count_items_pos_iff.mpr ⟨slot, h⟩) _)

theorem Regular.issued_of_lists (hr : Regular n w) (h : w.arena.Lists box id) : w.arena.Issued id :=
  hr.issued id (Nat.add_pos_right _ (Arena.listings_pos_iff.mpr ⟨box, h⟩))

/-- An item that has one owner is found in the slot that it is in. -/
theorem WellOwned.slotOf_of_get (hw : w.WellOwned) (hl : w.arena.get? id = some item)
    (hg : w.character.equipment.get slot = some id) : w.character.equipment.slotOf id = some slot := by
  have hone : w.character.equipment.items.count id ≤ 1 := (Nat.le_add_right _ _).trans (hw id item hl)
  cases hs : w.character.equipment.slotOf id with
  | none => exact absurd hg (Equipment.get_ne_of_slotOf_eq_none hs slot)
  | some there =>
    by_contra hne
    have hthere := Equipment.get_of_slotOf hs
    -- with the slot emptied the other one still names the item
    have hclear := Equipment.count_items_clear w.character.equipment slot id
    rw [if_pos hg] at hclear
    have hleft : (w.character.equipment.clear slot).get there = some id := by
      rw [Equipment.get_clear, if_neg fun he => hne (congrArg some he.symm)]
      exact hthere
    have hpos := Equipment.count_items_pos_iff.mpr ⟨there, hleft⟩
    omega

/-! ## Fading -/

/-- Slots have only been emptied, and of the ids that were given out before none has come to life or
stands for an item of another type or with more inside. -/
structure Fades (w v : Wearer) : Prop where
  get : ∀ slot id, v.character.equipment.get slot = some id → w.character.equipment.get slot = some id
  live : ∀ id item, w.arena.Issued id → v.arena.get? id = some item →
    ∃ old, w.arena.get? id = some old ∧ item.type = old.type ∧ item.contents ⊆ old.contents
  issued : ∀ id, w.arena.Issued id → v.arena.Issued id

namespace Fades

theorem refl (w : Wearer) : Fades w w where
  get _ _ h := h
  live _ item _ h := ⟨item, h, rfl, fun _ hc => hc⟩
  issued _ h := h

theorem trans (h : Fades w v) (h' : Fades v u) : Fades w u where
  get slot id hg := h.get slot id (h'.get slot id hg)
  live id item hi hl := by
    obtain ⟨mid, hm, ht, hc⟩ := h'.live id item (h.issued id hi) hl
    obtain ⟨old, ho, ht', hc'⟩ := h.live id mid hi hm
    exact ⟨old, ho, ht.trans ht', fun _ hx => hc' (hc hx)⟩
  issued id hi := h'.issued id (h.issued id hi)

/-- What a slot still shows it has shown before. -/
theorem inSlot? (h : Fades w v) (hr : Regular n w) (hv : v.inSlot? slot = some item) :
    ∃ old, w.inSlot? slot = some old ∧ item.type = old.type ∧ item.contents ⊆ old.contents := by
  obtain ⟨id, hg, hl⟩ := inSlot?_eq_some.mp hv
  have hw := h.get slot id hg
  obtain ⟨old, ho, ht, hc⟩ := h.live id item (hr.issued_of_get hw) hl
  exact ⟨old, inSlot?_eq_some.mpr ⟨id, hw, ho⟩, ht, hc⟩

end Fades

theorem fades_of_eq (ha : v.arena = w.arena) (he : v.character.equipment = w.character.equipment) :
    Fades w v where
  get _ _ h := he ▸ h
  live _ item _ h := ⟨item, ha ▸ h, rfl, fun _ hc => hc⟩
  issued _ h := ha ▸ h

theorem fades_clear (w : Wearer) (slot : Slot) : Fades w (w.mapEquipment (·.clear slot)) where
  get there id h := by
    have hc : (w.character.equipment.clear slot).get there = some id := h
    rw [Equipment.get_clear] at hc
    split_ifs at hc
    exact hc
  live _ item _ h := ⟨item, h, rfl, fun _ hc => hc⟩
  issued _ h := h

/-- A change that keeps the type and puts nothing inside. -/
theorem fades_modify (w : Wearer) (id : ItemId) {change : Item → Item}
    (ht : ∀ item, (change item).type = item.type)
    (hc : ∀ item, (change item).contents ⊆ item.contents) :
    Fades w (w.mapArena (·.modify id change)) where
  get _ _ h := h
  live x item _ h := by
    have hx : (w.arena.modify id change).get? x = some item := h
    rw [Arena.get?_modify] at hx
    split_ifs at hx with he
    · obtain ⟨old, ho, rfl⟩ := Option.map_eq_some_iff.mp hx
      exact ⟨old, he ▸ ho, ht old, hc old⟩
    · exact ⟨item, hx, rfl, fun _ hc => hc⟩
  issued _ h := (Arena.issued_congr (Arena.generations_modify _ _ _)).mpr h

theorem fades_remove (w : Wearer) (id : ItemId) : Fades w (w.mapArena (·.remove id)) where
  get _ _ h := h
  live _ item _ h := ⟨item, Arena.get?_of_get?_remove h, rfl, fun _ hc => hc⟩
  issued _ h := (Arena.issued_congr (Arena.generations_remove _ _)).mpr h

theorem fades_rest (w : Wearer) (id : ItemId) (count : Nat) : Fades w (w.rest id count) :=
  fades_modify w id (fun _ => rfl) fun _ _ hc => hc

theorem fades_unlist (w : Wearer) (box id : ItemId) :
    Fades w (w.mapArena (·.modify box (Arena.unlist id))) :=
  fades_modify w box (fun _ => rfl) fun _ => List.erase_subset

theorem fades_joinStack (w : Wearer) (moved stack : ItemId) (count : Nat) :
    Fades w (w.joinStack moved stack count) :=
  (fades_remove w moved).trans (fades_modify _ stack (fun _ => rfl) fun _ _ hc => hc)

theorem fades_refresh (rules : Rules) (w : Wearer) : Fades w (w.refresh rules).value :=
  fades_of_eq (arena_refresh rules w) (equipment_refresh rules w)

/-! ## The item in hand -/

namespace Taken

variable (ht : Taken w id source count hand)
include ht

theorem fades (hr : Regular (n + 1) w) : Fades w hand.1 := by
  cases ht with
  | part =>
    have hrest := (shrinks_rest w id count).regular hr
    have hgrows := hrest.sound.grows_insert hrest.room { type := source.type, count }
    refine (fades_rest w id count).trans ⟨fun _ _ h => h, fun x item hi hx => ?_, fun x hi => ?_⟩
    · have hne : x ≠ (w.split id source count).2 := fun he => hgrows.not_issued (he ▸ hi)
      have hx' : (w.split id source count).1.get? x = some item := hx
      unfold split at hx' hne
      rw [hrest.sound.get?_insert, if_neg hne] at hx'
      exact ⟨item, hx', rfl, fun _ hc => hc⟩
    · exact hgrows.issued_iff.mpr (.inl hi)
  | worn => exact fades_clear w _
  | packed => exact fades_unlist w _ id
  | loose => exact .refl w

/-- The slot from which the whole item is taken is empty then, and the others are as they were. -/
theorem get_hand (slot : Slot) :
    (Vacates w id source count slot ∧ hand.1.character.equipment.get slot = none) ∨
    (¬ Vacates w id source count slot ∧
      hand.1.character.equipment.get slot = w.character.equipment.get slot) := by
  by_cases hv : Vacates w id source count slot
  · refine .inl ⟨hv, ?_⟩
    cases ht with
    | part hlt => exact absurd hv.2 (Nat.not_le.mpr hlt)
    | worn hle hs =>
      obtain rfl := Option.some.inj (hs.symm.trans hv.1)
      show (w.character.equipment.clear _).get _ = none
      rw [Equipment.get_clear, if_pos rfl]
    | packed hle hs => exact absurd (Equipment.get_of_slotOf hv.1) (hs slot)
    | loose hle hs => exact absurd (Equipment.get_of_slotOf hv.1) (hs slot)
  · refine .inr ⟨hv, ?_⟩
    cases ht with
    | part => rfl
    | @worn there hle hs =>
      show (w.character.equipment.clear there).get slot = _
      rw [Equipment.get_clear, if_neg]
      rintro rfl
      exact hv ⟨hs, hle⟩
    | packed => rfl
    | loose => rfl

/-- Whatever was live still is, of the same type and with all inside but the item in hand. -/
theorem exists_same (hs : w.arena.Sound) (hx : w.arena.get? x = some item) :
    ∃ held, hand.1.arena.get? x = some held ∧ held.type = item.type ∧
      ∀ c ∈ item.contents, c ≠ id → c ∈ held.contents := by
  cases ht with
  | part =>
    obtain ⟨held, hheld, htype, hc⟩ : ∃ held, (w.rest id count).arena.get? x = some held ∧
        held.type = item.type ∧ held.contents = item.contents := by
      by_cases he : x = id
      · subst he
        exact ⟨_, Arena.get?_modify_self hx _, rfl, rfl⟩
      · exact ⟨item, (Arena.get?_modify_of_ne he _).trans hx, rfl, rfl⟩
    refine ⟨held, (sound_rest hs id count).get?_insert_of_live _ hheld, htype, fun c hm _ => ?_⟩
    rw [hc]
    exact hm
  | worn => exact ⟨item, hx, rfl, fun _ hm _ => hm⟩
  | @packed box =>
    by_cases he : x = box
    · subst he
      refine ⟨_, Arena.get?_modify_self hx _, rfl, fun c hm hne => ?_⟩
      exact (List.mem_erase_of_ne hne).mpr hm
    · exact ⟨item, (Arena.get?_modify_of_ne he _).trans hx, rfl, fun _ hm _ => hm⟩
  | loose => exact ⟨item, hx, rfl, fun _ hm _ => hm⟩

/-- What is in hand is of the type of the item, with nothing else inside. -/
theorem exists_hand (hs : w.arena.Sound) (hl : w.arena.get? id = some source) :
    ∃ held, hand.1.arena.get? hand.2 = some held ∧ held.type = source.type ∧
      held.contents ⊆ source.contents := by
  cases ht with
  | part =>
    exact ⟨_, (sound_rest hs id count).get?_insert_self _, rfl, List.nil_subset _⟩
  | worn => exact ⟨source, hl, rfl, fun _ hc => hc⟩
  | @packed box =>
    by_cases he : id = box
    · subst he
      exact ⟨_, Arena.get?_modify_self hl _, rfl, List.erase_subset⟩
    · exact ⟨source, (Arena.get?_modify_of_ne he _).trans hl, rfl, fun _ hc => hc⟩
  | loose => exact ⟨source, hl, rfl, fun _ hc => hc⟩

end Taken

end Wearer

theorem Dressing.fades_tryUnequip {hook : EquipHook σ} {s : σ} (hk : hook.KeepsSlots)
    (hr : Wearer.Regular (n + 1) w) :
    Wearer.Fades w (tryUnequip rules hook w slot count s).value.1 := by
  cases hres : (tryUnequip rules hook w slot count s).value.2.2 with
  | error e =>
    obtain ⟨t, -, he⟩ := tryUnequip_of_error hres
    rw [he]
    exact .refl w
  | ok taken =>
    obtain ⟨id, item, hand, -, -, htaken, ha, he⟩ := exists_hand_of_tryUnequip hres
    exact (htaken.fades hr).trans (Wearer.fades_of_eq ha (he hk))

end Adventurer
