import Adventurer.Proofs.Engine.Ownership

/-!
# What the client is told of the slots

A client shows in each slot an item and how many pieces there are, as it was told last.  `Mirrored` says of
an operation that every slot that has changed was told, and that what was told last of a slot is what it
holds.  Bringing up to date tells nothing of the slots, so that a move is mirrored slot by slot: by what
taking the item tells, and by what is told of the destination at the end.

What is left in a slot after a part of its stack was equipped elsewhere is told to nobody, while taking a
part off tells it.
-/

namespace Adventurer

variable {σ τ : Type} {rules : Rules} {hook : EquipHook σ} {w v u : Wearer} {request : EquipRequest}
  {id x : ItemId} {source : Item} {type : ItemType} {count n : Nat} {slot there : Slot}
  {hand done : Wearer × ItemId} {p : Dressing.Plan} {told later : List Notice} {s t : σ}

/-- What a notice says of a slot. -/
def Notice.slot? (slot : Slot) : Notice → Option (Option ItemId)
  | .inventorySlot there held => if there = slot then some held else none
  | _ => none

/-- What was told last of a slot. -/
def lastTold (slot : Slot) (told : List Notice) : Option (Option ItemId) :=
  told.reverse.findSome? (·.slot? slot)

@[simp] theorem lastTold_nil (slot : Slot) : lastTold slot [] = none := rfl

@[simp] theorem lastTold_append (slot : Slot) (told later : List Notice) :
    lastTold slot (told ++ later) = (lastTold slot later).or (lastTold slot told) := by
  unfold lastTold
  rw [List.reverse_append, List.findSome?_append]

@[simp] theorem lastTold_singleton (slot : Slot) (notice : Notice) :
    lastTold slot [notice] = notice.slot? slot := by
  simp [lastTold]

theorem exists_told_iff : (∃ held, .inventorySlot slot held ∈ told) ↔ lastTold slot told ≠ none := by
  unfold lastTold
  rw [Ne, List.findSome?_eq_none_iff]
  constructor
  · rintro ⟨held, hmem⟩ hnone
    exact absurd (hnone _ (List.mem_reverse.mpr hmem)) (by simp [Notice.slot?])
  · intro h
    simp only [not_forall] at h
    obtain ⟨notice, hmem, hslot⟩ := h
    cases notice with
    | inventorySlot there held =>
      simp only [Notice.slot?] at hslot
      split_ifs at hslot with he
      · exact ⟨held, he ▸ List.mem_reverse.mp hmem⟩
      · exact absurd rfl hslot
    | _ => exact absurd rfl hslot

namespace Wearer

/-- What a slot shows: the item in it and the number of its pieces. -/
def shown (w : Wearer) (slot : Slot) : Option (ItemId × Option Nat) :=
  (w.character.equipment.get slot).map fun id => (id, (w.arena.get? id).map (·.count))

/-- A slot that shows something else was told, and what was told of it last is what it holds. -/
def MirroredAt (slot : Slot) (w v : Wearer) (told : List Notice) : Prop :=
  (lastTold slot told).elim (v.shown slot = w.shown slot) (v.character.equipment.get slot = ·)

/-- Every slot that shows something else was told, and what was told of a slot last is what it holds. -/
structure Mirrored (w v : Wearer) (told : List Notice) : Prop where
  heard : ∀ slot, v.shown slot ≠ w.shown slot → ∃ held, Notice.inventorySlot slot held ∈ told
  last : ∀ slot held, lastTold slot told = some held → v.character.equipment.get slot = held

theorem mirrored_iff : Mirrored w v told ↔ ∀ slot, MirroredAt slot w v told := by
  constructor
  · intro h slot
    unfold MirroredAt
    cases hlast : lastTold slot told with
    | none =>
      by_contra hne
      exact exists_told_iff.mp (h.heard slot hne) hlast
    | some held => exact h.last slot held hlast
  · intro h
    refine ⟨fun slot hne => exists_told_iff.mpr fun hnone => ?_, fun slot held hlast => ?_⟩
    · have hat := h slot
      rw [MirroredAt, hnone] at hat
      exact hne hat
    · have hat := h slot
      rw [MirroredAt, hlast] at hat
      exact hat

/-! ## One slot -/

theorem MirroredAt.of_shown (hsame : v.shown slot = w.shown slot) (hnone : lastTold slot told = none) :
    MirroredAt slot w v told := by
  rw [MirroredAt, hnone]
  exact hsame

theorem get_of_shown (h : v.shown slot = w.shown slot) :
    v.character.equipment.get slot = w.character.equipment.get slot := by
  have hfirst := congrArg (Option.map Prod.fst) h
  simpa [shown, Function.comp_def] using hfirst

theorem get_of_shown_eq_some {pieces : Option Nat} (h : w.shown slot = some (id, pieces)) :
    w.character.equipment.get slot = some id := by
  obtain ⟨x, hget, hx⟩ := Option.map_eq_some_iff.mp h
  rw [hget, (Prod.mk.inj hx).1]

theorem MirroredAt.trans (h : MirroredAt slot w v told) (h' : MirroredAt slot v u later) :
    MirroredAt slot w u (told ++ later) := by
  unfold MirroredAt at *
  rw [lastTold_append]
  cases hlater : lastTold slot later with
  | some held =>
    rw [hlater] at h'
    exact h'
  | none =>
    rw [hlater] at h'
    cases hbefore : lastTold slot told with
    | some held =>
      rw [hbefore] at h
      exact (get_of_shown h').trans h
    | none =>
      rw [hbefore] at h
      exact Eq.trans h' h

theorem shown_of_eq (ha : v.arena = w.arena)
    (he : v.character.equipment.get slot = w.character.equipment.get slot) : v.shown slot = w.shown slot := by
  unfold shown
  rw [ha, he]

/-- A change of the arena that leaves the number of pieces of what the slot holds. -/
theorem shown_mapArena (change : Arena → Arena) (h : ∀ x, w.character.equipment.get slot = some x →
    ((change w.arena).get? x).map (·.count) = (w.arena.get? x).map (·.count)) :
    (w.mapArena change).shown slot = w.shown slot := by
  show (w.character.equipment.get slot).map (fun x => (x, ((change w.arena).get? x).map (·.count))) = _
  unfold shown
  cases hg : w.character.equipment.get slot with
  | none => rfl
  | some x => rw [Option.map_some, Option.map_some, h x hg]

/-- A change of an item that leaves its pieces, or of one that the slot does not hold. -/
theorem shown_modify (w : Wearer) (id : ItemId) (change : Item → Item)
    (hc : w.character.equipment.get slot = some id → ∀ item, (change item).count = item.count) :
    (w.mapArena (·.modify id change)).shown slot = w.shown slot := by
  refine shown_mapArena _ fun x hx => ?_
  by_cases he : x = id
  · subst he
    rw [Arena.get?_modify, if_pos rfl, Option.map_map]
    exact Option.map_congr fun item _ => hc hx item
  · rw [Arena.get?_modify_of_ne he]

/-- Removing an item that is not worn removes nothing that is worn. -/
theorem shown_remove (hw : w.WellOwned)
    (hn : ∀ item, w.arena.get? id = some item → w.character.equipment.get slot ≠ some id) :
    (w.mapArena (·.remove id)).shown slot = w.shown slot := by
  refine shown_mapArena _ fun x hx => ?_
  cases hl : w.arena.get? x with
  | none =>
    have hdead : (w.arena.remove id).get? x = none := by
      rw [Arena.get?_remove]
      split_ifs
      · rfl
      · exact hl
    rw [hdead]
  | some item =>
    have hout : ¬ w.arena.Reaches id x := fun hr => by
      by_cases he : x = id
      · exact hn item (he ▸ hl) (he ▸ hx)
      · -- what lies in an item is listed, so that it is not worn as well
        obtain ⟨box, -, hlist⟩ := hr.exists_lists he
        have hlisted := Arena.listings_pos_iff.mpr ⟨box, hlist⟩
        have hworn := Equipment.count_items_pos_iff.mpr ⟨slot, hx⟩
        have hone : w.character.equipment.items.count x + w.arena.listings x ≤ 1 := hw x item hl
        omega
    rw [Arena.get?_remove, if_neg (mt Arena.isWithin_iff.mp hout), hl]

/-- Adding what is in hand to a stack shows only in the slot of the stack. -/
theorem shown_joinStack {moved stack : ItemId} (hw : w.WellOwned)
    (hn : w.character.equipment.get slot ≠ some moved) (hs : w.character.equipment.get slot ≠ some stack)
    (count : Nat) : (w.joinStack moved stack count).shown slot = w.shown slot := by
  have hgone : (w.mapArena (·.remove moved)).shown slot = w.shown slot := shown_remove hw fun _ _ => hn
  exact (shown_modify (w.mapArena (·.remove moved)) stack _ fun h => absurd h hs).trans hgone

theorem shown_refresh (rules : Rules) (w : Wearer) (slot : Slot) :
    (w.refresh rules).value.shown slot = w.shown slot :=
  shown_of_eq (arena_refresh rules w) (by rw [equipment_refresh])

end Wearer

/-- Bringing the overlay up to date tells nothing of the slots. -/
theorem Passives.lastTold_resync (slot : Slot) (done : Character × Bool) :
    lastTold slot (resync done).notices = none := by
  rw [notices_resync]
  cases done.2 <;> rfl

theorem Passives.lastTold_onCombatTick (slot : Slot) (rules : Rules) (a : Arena) (force : Bool)
    (c : Character) : lastTold slot (onCombatTick rules a force c).notices = none := by
  unfold onCombatTick
  simp only
  split_ifs <;> exact lastTold_resync slot _

namespace Wearer

theorem lastTold_refresh (slot : Slot) (rules : Rules) (w : Wearer) :
    lastTold slot (w.refresh rules).notices = none := by
  unfold refresh
  simp only [Told.notices_bind, lastTold_append, Passives.lastTold_onCombatTick]
  simp [Notice.slot?]

theorem mirroredAt_refresh (rules : Rules) (w : Wearer) (slot : Slot) :
    MirroredAt slot w (w.refresh rules).value (w.refresh rules).notices :=
  .of_shown (shown_refresh rules w slot) (lastTold_refresh slot rules w)

/-- Emptying a slot and telling so. -/
theorem mirroredAt_clear (w : Wearer) (slot there : Slot) :
    MirroredAt slot w (w.mapEquipment (·.clear there)) [.inventorySlot there none] := by
  unfold MirroredAt
  simp only [lastTold_singleton, Notice.slot?]
  split_ifs with hslot
  · show (w.character.equipment.clear there).get slot = none
    rw [Equipment.get_clear, if_pos hslot]
  · refine shown_of_eq rfl ?_
    show (w.character.equipment.clear there).get slot = _
    rw [Equipment.get_clear, if_neg hslot]

/-! ## Taking an item in hand -/

/-- Only a whole item that leaves a slot is told. -/
theorem notices_takeFrom (h : w.arena.get? id = some source) (count : Nat) :
    (w.takeFrom id count).notices = if count < source.count then []
      else (w.character.equipment.slotOf id).elim [] fun slot => [.inventorySlot slot none] := by
  unfold takeFrom
  rw [h]
  simp only
  split_ifs
  · rfl
  · unfold detach
    cases w.character.equipment.slotOf id <;> rfl

/-- A part that is split off is the part of a worn item only in the slot of that item. -/
theorem shown_split (hr : Regular (n + 1) w) (hne : w.character.equipment.get slot ≠ some id) :
    ({ w with arena := (w.split id source count).1 } : Wearer).shown slot = w.shown slot := by
  refine shown_mapArena (fun _ => (w.split id source count).1) fun x hx => ?_
  have hrest := shrinks_rest w id count
  have hm := hrest.regular hr
  have hworn := Equipment.count_items_pos_iff.mpr ⟨slot, hx⟩
  have hnew : x ≠ (w.split id source count).2 := by
    rintro rfl
    refine hm.sound.not_issued_insert hm.room { type := source.type, count } ?_
    refine (Arena.issued_congr hrest.generations).mpr (hr.issued _ ?_)
    unfold namings
    exact Nat.lt_of_lt_of_le hworn (Nat.le_add_right _ _)
  have hid : x ≠ id := by
    rintro rfl
    exact hne hx
  unfold split at hnew ⊢
  rw [hm.sound.get?_insert, if_neg hnew]
  exact congrArg _ (Arena.get?_modify_of_ne hid _)

theorem Taken.mirroredAt (ht : Taken w id source count hand) (hr : Regular (n + 1) w)
    (hl : w.arena.get? id = some source)
    (hrest : count < source.count → w.character.equipment.get slot ≠ some id) :
    MirroredAt slot w hand.1 (w.takeFrom id count).notices := by
  have htold := notices_takeFrom hl count
  cases ht with
  | part hlt =>
    rw [if_pos hlt] at htold
    rw [htold]
    exact .of_shown (shown_split hr (hrest hlt)) rfl
  | @worn there hge hs =>
    rw [if_neg (Nat.not_lt.mpr hge), hs] at htold
    rw [htold]
    exact mirroredAt_clear w slot there
  | packed hge hs =>
    rw [if_neg (Nat.not_lt.mpr hge), Equipment.slotOf_eq_none hs] at htold
    rw [htold]
    exact .of_shown (shown_modify w _ _ fun _ _ => rfl) rfl
  | loose hge hs =>
    rw [if_neg (Nat.not_lt.mpr hge), Equipment.slotOf_eq_none hs] at htold
    rw [htold]
    exact .of_shown rfl rfl

/-! ## Putting it down -/

/-- What is in hand is not worn. -/
theorem Taken.get_ne (ht : Taken w id source count hand) (hr : Regular (n + 1) w) (hw : w.WellOwned)
    (hl : w.arena.get? id = some source) (slot : Slot) :
    hand.1.character.equipment.get slot ≠ some hand.2 := by
  rcases ht.namings_hand hr hw hl with h0 | ⟨rfl, hs, -⟩
  · intro hworn
    have := Equipment.count_items_pos_iff.mpr ⟨slot, hworn⟩
    unfold namings at h0
    omega
  · exact hs slot

end Wearer

/-- The slot that a plan puts the item into. -/
def Dressing.Plan.slot? : Dressing.Plan → Option Slot
  | .wear slot _ | .merge slot _ => some slot
  | .stow _ => none

namespace Wearer

open Dressing

/-- Putting an item down shows only in the slot that it is put into. -/
theorem Landed.shown_eq (hland : Landed rules w request.item source type count hand p done)
    (ht : Taken w request.item source count hand) (hp : Planned rules w request source type count p)
    (hr : Regular (n + 1) w) (hw : w.WellOwned) (hl : w.arena.get? request.item = some source)
    (hplaced : ∀ there stack, p = .merge there stack → done.2 = stack) (hslot : p.slot? ≠ some slot) :
    done.1.shown slot = hand.1.shown slot := by
  cases hland with
  | @worn there =>
    refine shown_of_eq rfl ?_
    show (hand.1.character.equipment.wear there hand.2).get slot = _
    rw [Equipment.get_wear, if_neg fun he => hslot (congrArg some he)]
  | @joined _ stack held hwear hne hs hheld _ _ _ hin =>
    refine shown_joinStack (ht.wellOwned hr hw hl) (ht.get_ne hr hw hl slot) (fun hhand => ?_) count
    -- the stack is named where it is joined already
    have hworn := ht.get_of_get hhand
    cases hp with
    | fill => exact absurd rfl (hwear _ _)
    | again => exact absurd rfl (hwear _ _)
    | exchange => exact absurd rfl (hwear _ _)
    | merge hthere =>
      have hstack : stack = _ := hplaced _ _ rfl
      rw [← hstack] at hthere
      exact hslot (congrArg some (hw.slot_eq hheld hthere hworn).symm)
    | @stow box => exact hw.not_lists hheld hworn (lists_of_joinable? (hin box rfl))
  | listed => exact shown_modify hand.1 _ _ fun _ _ => rfl

/-- The slot that an item is put into holds what is placed. -/
theorem Landed.get_slot (hland : Landed rules w request.item source type count hand p done)
    (ht : Taken w request.item source count hand) (hp : Planned rules w request source type count p)
    (hplaced : ∀ there stack, p = .merge there stack → done.2 = stack) (hslot : p.slot? = some slot) :
    done.1.character.equipment.get slot = some done.2 := by
  cases hland with
  | @worn there =>
    obtain rfl := Option.some.inj hslot
    show (hand.1.character.equipment.wear there hand.2).get there = _
    rw [Equipment.get_wear, if_pos rfl]
  | joined hwear hne =>
    cases hp with
    | fill => exact absurd rfl (hwear _ _)
    | again => exact absurd rfl (hwear _ _)
    | exchange => exact absurd rfl (hwear _ _)
    | merge hthere =>
      obtain rfl := Option.some.inj hslot
      have hstack := hplaced _ _ rfl
      rw [← hstack] at hthere
      have hkept := ht.get_eq fun hs => hne (Option.some.inj (hthere.symm.trans (Equipment.get_of_slotOf hs)))
      exact hkept.trans hthere
    | stow => cases hslot
  | listed => cases hslot

/-- Another item comes into the hand only as a part of a stack. -/
theorem Taken.lt_of_ne (ht : Taken w id source count hand) (hne : hand.2 ≠ id) : count < source.count := by
  cases ht with
  | part hlt => exact hlt
  | worn => exact absurd rfl hne
  | packed => exact absurd rfl hne
  | loose => exact absurd rfl hne

/-- What is left of a stack stays where it is. -/
theorem Taken.shown_rest (ht : Taken w id source count hand) (hs : w.arena.Sound)
    (hl : w.arena.get? id = some source) (hlt : count < source.count)
    (hslot : w.character.equipment.get slot = some id) :
    hand.1.shown slot = some (id, some (source.count - count)) := by
  cases ht with
  | part =>
    have hleft := (sound_rest hs id count).get?_insert_of_live { type := source.type, count }
      (Arena.get?_modify_self hl _)
    show (w.character.equipment.get slot).map (fun x => (x, ((w.split id source count).1.get? x).map _)) = _
    rw [hslot, Option.map_some]
    unfold split
    rw [hleft]
    rfl
  | worn hge => omega
  | packed hge => omega
  | loose hge => omega

end Wearer

/-! ## Moves -/

namespace Dressing

theorem notices_move (rules : Rules) (w : Wearer) (id : ItemId) (count : Nat) (p : Plan) :
    (move rules w id count p).notices = (w.takeFrom id count).notices := by
  cases p with
  | stow box =>
    unfold move Wearer.store
    rw [Told.notices_bind]
    cases w.joinable? rules id box count <;> exact List.append_nil _
  | merge slot stack => exact List.append_nil _
  | wear slot displaced => exact List.append_nil _

/-- What is told last of a slot: the item that was put into it, or that another has left it. -/
theorem lastTold_carryOut (rules : Rules) (hook : EquipHook σ) (w : Wearer) (id : ItemId) (count : Nat)
    (p : Plan) (s : σ) (slot : Slot) :
    lastTold slot (carryOut rules hook w id count p s).notices =
      if p.slot? = some slot then some (some (move rules w id count p).value.2)
      else lastTold slot (w.takeFrom id count).notices := by
  have htail : (carryOut rules hook w id count p s).notices = (move rules w id count p).notices ++
      (((move rules w id count p).value.1.refresh rules).notices ++
        p.slot?.elim [] fun there => [.inventorySlot there (some (move rules w id count p).value.2)]) := by
    cases p <;> rfl
  rw [htail, notices_move, lastTold_append, lastTold_append, Wearer.lastTold_refresh]
  cases p.slot? with
  | none => simp
  | some there =>
    simp only [Option.elim_some, lastTold_singleton, Notice.slot?, Option.or_none, Option.some.injEq]
    split_ifs <;> rfl

/-- A part of a worn stack is accepted, and goes elsewhere than into the slot of the stack. -/
def LeavesRest (rules : Rules) (hook : EquipHook σ) (w : Wearer) (request : EquipRequest) (s : σ) : Prop :=
  ∃ outcome slot item type, (tryEquip rules hook w request s).value.2.2 = .ok outcome ∧
    w.character.equipment.get slot = some request.item ∧
    rules.resolve? w.arena request.item = some (item, type) ∧ movedCount type request < item.count ∧
    outcome.destination ≠ .slot slot

theorem destination_outcome (p : Plan) (x : ItemId) (slot : Slot) :
    (p.outcome x).destination = .slot slot ↔ p.slot? = some slot := by
  cases p <;> simp [Plan.outcome, Plan.slot?]

open Wearer

variable (hk : hook.KeepsSlots) (hr : Regular (n + 1) w) (hw : w.WellOwned)
include hk hr hw

/-- A request that is accepted is mirrored in every slot, except in one from whose stack a part is taken to
go elsewhere. -/
theorem mirroredAt_tryEquip_iff (hplan : plan rules hook w request s = (.ok (p, count), t))
    (hkind : rules.resolve? w.arena request.item = some (source, type)) (slot : Slot) :
    MirroredAt slot w (tryEquip rules hook w request s).value.1 (tryEquip rules hook w request s).notices ↔
      ¬ (w.character.equipment.get slot = some request.item ∧ count < source.count ∧
        p.slot? ≠ some slot) := by
  obtain ⟨item, type', hkind', -, hpos, hle, hplanned⟩ := planned_of_plan hplan
  obtain ⟨rfl, rfl⟩ := Prod.mk.inj (Option.some.inj (hkind.symm.trans hkind'))
  obtain ⟨hand, htaken, hlanded⟩ := exists_hand_of_move hkind hplanned
  obtain ⟨hl, -⟩ := Rules.get?_of_resolve? hkind
  have hplaced : ∀ there stack, p = .merge there stack →
      (move rules w request.item count p).value.2 = stack := by
    rintro there stack rfl
    rfl
  obtain ⟨ha, he, -⟩ := carryOut_spec rules hook w request.item count p t
  have hvalue : (tryEquip rules hook w request s).value.1 =
      (carryOut rules hook w request.item count p t).value.1 := by
    unfold tryEquip
    rw [hplan]
    rfl
  have htold : (tryEquip rules hook w request s).notices =
      (carryOut rules hook w request.item count p t).notices := by
    unfold tryEquip
    rw [hplan]
    exact List.append_nil _
  unfold MirroredAt
  rw [htold, hvalue, lastTold_carryOut]
  by_cases hslot : p.slot? = some slot
  · rw [if_pos hslot]
    refine iff_of_true ?_ fun h => h.2.2 hslot
    show (carryOut rules hook w request.item count p t).value.1.character.equipment.get slot = _
    rw [he hk]
    exact hlanded.get_slot htaken hplanned hplaced hslot
  · rw [if_neg hslot]
    have hafter : (carryOut rules hook w request.item count p t).value.1.shown slot = hand.1.shown slot :=
      (shown_of_eq ha (by rw [he hk])).trans (hlanded.shown_eq htaken hplanned hr hw hl hplaced hslot)
    by_cases hrest : w.character.equipment.get slot = some request.item ∧ count < source.count
    · obtain ⟨hworn, hlt⟩ := hrest
      refine iff_of_false (fun h => ?_) (fun h => h ⟨hworn, hlt, hslot⟩)
      rw [notices_takeFrom hl, if_pos hlt] at h
      -- the slot shows what is left of the stack, and nothing was told of it
      have hshown : hand.1.shown slot = w.shown slot := hafter.symm.trans h
      rw [htaken.shown_rest hr.sound hl hlt hworn] at hshown
      unfold shown at hshown
      rw [hworn, Option.map_some, hl, Option.map_some, Option.some.injEq, Prod.mk.injEq,
        Option.some.injEq] at hshown
      omega
    · refine iff_of_true ?_ fun h => hrest ⟨h.1, h.2.1⟩
      have htake : MirroredAt slot w hand.1 (w.takeFrom request.item count).notices :=
        htaken.mirroredAt hr hl fun hlt hworn => hrest ⟨hworn, hlt⟩
      have hquiet : MirroredAt slot hand.1 (carryOut rules hook w request.item count p t).value.1 [] :=
        .of_shown hafter rfl
      have := htake.trans hquiet
      rw [List.append_nil] at this
      exact this

/-- A request is mirrored exactly if it leaves no rest of a worn stack behind. -/
theorem mirrored_tryEquip_iff :
    Mirrored w (tryEquip rules hook w request s).value.1 (tryEquip rules hook w request s).notices ↔
      ¬ LeavesRest rules hook w request s := by
  cases hres : (tryEquip rules hook w request s).value.2.2 with
  | error e =>
    obtain ⟨t, -, heq⟩ := tryEquip_of_error hres
    refine iff_of_true (mirrored_iff.mpr fun slot => ?_) ?_
    · rw [heq]
      exact .of_shown rfl (by simp [refuse, Notice.slot?])
    · rintro ⟨outcome, _, _, _, hok, -⟩
      rw [hres] at hok
      cases hok
  | ok outcome =>
    obtain ⟨p, count, t, hplan, -, -, ho⟩ := exists_plan_of_tryEquip hres
    obtain ⟨source, type, hkind, hcount, -⟩ := planned_of_plan hplan
    rw [mirrored_iff]
    simp only [mirroredAt_tryEquip_iff hk hr hw hplan hkind]
    constructor
    · rintro h ⟨outcome', slot, item, type', hok, hslot, hkind', hlt, hdest⟩
      obtain rfl := Except.ok.inj (hres.symm.trans hok)
      obtain ⟨rfl, rfl⟩ := Prod.mk.inj (Option.some.inj (hkind.symm.trans hkind'))
      refine h slot ⟨hslot, hcount ▸ hlt, fun hp => hdest ?_⟩
      rw [ho]
      exact (destination_outcome p _ slot).mpr hp
    · rintro h slot ⟨hslot, hlt, hp⟩
      refine h ⟨outcome, slot, source, type, hres, hslot, hkind, hcount ▸ hlt, fun hd => hp ?_⟩
      rw [ho] at hd
      exact (destination_outcome p _ slot).mp hd

/-- Taking something off is always mirrored: what is left in the slot is told. -/
theorem mirrored_tryUnequip {taken : Slot} : Mirrored w (tryUnequip rules hook w taken count s).value.1
    (tryUnequip rules hook w taken count s).notices := by
  cases hres : (tryUnequip rules hook w taken count s).value.2.2 with
  | error e =>
    obtain ⟨t, -, heq⟩ := tryUnequip_of_error hres
    rw [heq]
    exact mirrored_iff.mpr fun slot => .of_shown rfl (by simp [refuse, Notice.slot?])
  | ok part =>
    obtain ⟨id, t, hplan, ha, he, -⟩ := exists_plan_of_tryUnequip hres
    obtain ⟨hworn, -, source, type, hkind, -⟩ := cases_of_planRemoval hplan
    obtain ⟨hl, -⟩ := Rules.get?_of_resolve? hkind
    have htaken := taken_takeFrom hl count
    rw [notices_tryUnequip_of_plan rules hplan]
    refine mirrored_iff.mpr fun slot => ?_
    have hafter : (tryUnequip rules hook w taken count s).value.1.shown slot =
        (w.takeFrom id count).value.1.shown slot := shown_of_eq ha (by rw [he hk])
    by_cases hrest : (w.takeFrom id count).value.2 ≠ id ∧ taken = slot
    · obtain ⟨hpart, rfl⟩ := hrest
      have hleft := hafter.trans (htaken.shown_rest hr.sound hl (htaken.lt_of_ne hpart) hworn)
      unfold MirroredAt
      rw [if_pos hpart, lastTold_append, lastTold_append, lastTold_singleton, Notice.slot?, if_pos rfl]
      exact get_of_shown_eq_some hleft
    · refine (htaken.mirroredAt hr hl fun hlt hslot => ?_).trans (.of_shown hafter ?_)
      · -- the item is worn in one slot only, and what is in hand is a part of it
        have hne : slot ≠ taken := fun h => hrest
          ⟨fun hwhole => Nat.not_le.mpr hlt (htaken.whole_of_live (hwhole.symm ▸ hl)).2, h.symm⟩
        exact hne (hw.slot_eq hl hworn hslot)
      · rw [lastTold_append, lastTold_refresh, Option.or_none]
        split_ifs with hpart
        · rw [lastTold_singleton, Notice.slot?, if_neg fun h => hrest ⟨hpart, h⟩]
        · rfl

end Dressing

/-! ## Destroying what is worn -/

namespace Wearer

/-- What is mirrored step by step is mirrored by a loop. -/
theorem mirroredAt_foldlM {α : Type} {step : Wearer → α → Told Wearer}
    (hstep : ∀ v a, v.WellOwned →
      (step v a).value.WellOwned ∧ MirroredAt slot v (step v a).value (step v a).notices) :
    ∀ (l : List α) (v : Wearer), v.WellOwned →
      MirroredAt slot v (l.foldlM step v).value (l.foldlM step v).notices
  | [], _, _ => .of_shown rfl rfl
  | a :: l, v, hv => by
    obtain ⟨hnext, hone⟩ := hstep v a hv
    rw [List.foldlM_cons, Told.value_bind, Told.notices_bind]
    exact hone.trans (mirroredAt_foldlM hstep l _ hnext)

/-- What a slot held is destroyed: the slot is told, and no other slot held it. -/
theorem mirroredAt_destroy {there : Slot} (hw : w.WellOwned)
    (hworn : w.character.equipment.get there = some id) (slot : Slot) :
    MirroredAt slot w ((w.mapEquipment (·.clear there)).mapArena (·.remove id))
      [.inventorySlot there none] := by
  have hgone : ((w.mapEquipment (·.clear there)).mapArena (·.remove id)).shown slot =
      (w.mapEquipment (·.clear there)).shown slot := by
    refine shown_remove ((shrinks_clear w there).wellOwned hw) fun item hl hslot => ?_
    have hcleared : (w.character.equipment.clear there).get slot = some id := hslot
    rw [Equipment.get_clear] at hcleared
    split_ifs at hcleared with hne
    exact hne (hw.slot_eq hl hworn hcleared).symm
  exact (mirroredAt_clear w slot there).trans (.of_shown hgone rfl)

theorem mirroredAt_discard (rules : Rules) (slots : List Slot) (hw : w.WellOwned) (slot : Slot) :
    MirroredAt slot w (w.discard rules slots).value (w.discard rules slots).notices := by
  unfold discard
  split_ifs
  · exact .of_shown rfl rfl
  · rw [Told.value_bind, Told.notices_bind]
    refine (mirroredAt_foldlM (fun v there hv => ?_) slots w hw).trans (mirroredAt_refresh rules _ slot)
    cases hworn : v.character.equipment.get there with
    | none => exact ⟨hv, .of_shown rfl rfl⟩
    | some id =>
      exact ⟨((shrinks_clear v there).trans (shrinks_remove _ id)).wellOwned hv,
        mirroredAt_destroy hv hworn slot⟩

end Wearer

/-! ## Deeds -/

namespace Engine

open Wearer

variable {ω : Type} {e : Engine σ ω} {state : Situation σ ω}

/-- Spending charges shows in no slot. -/
theorem shown_absorbed (rules : Rules) (hit : Hit) (hw : w.WellOwned) :
    let v : Wearer := { w with arena := (hit.absorb rules w.character w.arena).1 }
    v.WellOwned ∧ ∀ slot, v.shown slot = w.shown slot := by
  refine absorbed_induction (P := fun a => ({ w with arena := a } : Wearer).WellOwned ∧
    ∀ slot, ({ w with arena := a } : Wearer).shown slot = w.shown slot) ?_ rules w.character hit
      ⟨hw, fun _ => rfl⟩
  rintro a id spent ⟨ha, hshown⟩
  have hspent : Shrinks { w with arena := a } { w with arena := a.modify id (Hit.spend spent) } :=
    shrinks_modify { w with arena := a } id fun _ _ => le_rfl
  exact ⟨hspent.wellOwned ha, fun slot =>
    (shown_modify { w with arena := a } id (Hit.spend spent) fun _ _ => rfl).trans (hshown slot)⟩

theorem notices_absorb (e : Engine σ ω) (s : Situation σ ω) (hit : Hit) :
    (e.absorb s hit).notices = (discard e.rules
      { s.wearer with arena := (hit.absorb e.rules s.character s.arena).1 }
      (hit.absorb e.rules s.character s.arena).2.exhausted).notices :=
  List.append_nil _

/-- What a hit destroys is told. -/
theorem mirrored_absorb (hw : state.wearer.WellOwned) (hit : Hit) :
    Mirrored state.wearer (e.absorb state hit).value.1.wearer (e.absorb state hit).notices := by
  obtain ⟨howned, hshown⟩ := shown_absorbed e.rules hit hw
  refine mirrored_iff.mpr fun slot => ?_
  have hspent : MirroredAt slot state.wearer
      { state.wearer with arena := (hit.absorb e.rules state.character state.arena).1 } [] :=
    .of_shown (hshown slot) rfl
  rw [notices_absorb]
  exact hspent.trans (mirroredAt_discard e.rules _ howned slot)

/-- The deed equips a part of a worn stack, to go elsewhere than into the slot of the stack. -/
def Deed.LeavesRest (e : Engine σ ω) (s : Situation σ ω) : Deed → Prop
  | .act (.equip request) => Dressing.LeavesRest e.rules e.hook s.wearer request s.hook
  | _ => False

theorem notices_equip (e : Engine σ ω) (s : Situation σ ω) (request : EquipRequest) :
    (e.equip s request).notices = (Dressing.tryEquip e.rules e.hook s.wearer request s.hook).notices :=
  List.append_nil _

theorem notices_unequip (e : Engine σ ω) (s : Situation σ ω) (slot : Slot) (count : Nat) :
    (e.unequip s slot count).notices =
      (Dressing.tryUnequip e.rules e.hook s.wearer slot count s.hook).notices :=
  List.append_nil _

theorem notices_combatTick (e : Engine σ ω) (s : Situation σ ω) (force : Bool) :
    (e.combatTick s force).notices = (Passives.onCombatTick e.rules s.arena force s.character).notices :=
  List.append_nil _

/-- **What the client is told of the slots.**  With hooks whose reports leave the slots alone, a deed
of a well owned character tells every slot that it changes, and tells last of each slot what it then
holds, exactly if it does not equip a part of a worn stack elsewhere.  The slot in which the rest of the
stack stays is not told that it has become less. -/
theorem mirrored_perform_iff (hk : e.hook.KeepsSlots) (hr : Regular 1 state.wearer)
    (hw : state.wearer.WellOwned) (d : Deed) :
    Mirrored state.wearer (e.perform state d).value.wearer (e.perform state d).notices ↔
      ¬ d.LeavesRest e state := by
  cases d with
  | absorb hit =>
    refine iff_of_true ?_ id
    unfold perform
    rw [Told.notices_map]
    exact mirrored_absorb hw hit
  | act action =>
    unfold perform carryOut
    cases action with
    | equip request =>
      simp only
      rw [Told.notices_map, notices_equip]
      exact Dressing.mirrored_tryEquip_iff hk hr hw
    | unequip slot count =>
      refine iff_of_true ?_ id
      simp only
      rw [Told.notices_map, notices_unequip]
      exact Dressing.mirrored_tryUnequip hk hr hw
    | forceRefresh =>
      refine iff_of_true (mirrored_iff.mpr fun slot => .of_shown ?_ ?_) id
      · exact shown_of_eq rfl (congrArg (·.get slot)
          (Passives.onlyPassives_onCombatTick e.rules state.arena true state.character).equipment_eq)
      · simp only
        rw [Told.notices_map, notices_combatTick]
        exact Passives.lastTold_onCombatTick slot _ _ _ _

/-! ## Three of ten javelins -/

/-- Ten javelins in the right hand. -/
def tenJavelins : Situation Unit Unit where
  wearer :=
    { character := { id := ⟨1⟩, name := "Tester", equipment := Equipment.empty.wear .right ⟨0, 0⟩ }
      arena := (Arena.empty.insert ⟨⟨1⟩, 10, 0, []⟩).1 }
  hook := ()
  rates := ()

/-- The rules of a world of javelins. -/
def javelinRules : Rules where
  items := some fun _ => some { stackable := true, positions := ⟨32⟩ }

/-- Three of the javelins into the left hand. -/
def spareHand : EquipRequest := ⟨⟨0, 0⟩, .named .left, 3⟩

theorem namings_tenJavelins (x : ItemId) : tenJavelins.wearer.namings x = [(⟨0, 0⟩ : ItemId)].count x := by
  show [(⟨0, 0⟩ : ItemId)].count x + (0 + 0) = _
  omega

theorem wellOwned_tenJavelins : tenJavelins.wearer.WellOwned := by
  intro x item _
  rw [namings_tenJavelins]
  exact List.count_le_length

theorem regular_tenJavelins : Regular 1 tenJavelins.wearer where
  sound := Arena.sound_empty.insert _
  issued x hx := by
    rw [namings_tenJavelins, List.count_pos_iff, List.mem_singleton] at hx
    exact ⟨0, by rw [hx]; rfl, by rw [hx]⟩
  room := ⟨by decide, by decide⟩

/-- The right hand holds seven javelins instead of ten, and only the left one is told. -/
theorem rest_untold :
    tenJavelins.wearer.WellOwned ∧ Regular 1 tenJavelins.wearer ∧
      (EquipHook.idle : EquipHook Unit).KeepsSlots ∧
      ((plain javelinRules).equip tenJavelins spareHand).value.2 =
        .ok ⟨⟨1, 0⟩, .slot .left, none⟩ ∧
      tenJavelins.wearer.shown .right = some (⟨0, 0⟩, some 10) ∧
      ((plain javelinRules).equip tenJavelins spareHand).value.1.wearer.shown .right =
        some (⟨0, 0⟩, some 7) ∧
      ((plain javelinRules).equip tenJavelins spareHand).notices =
        [.stats, .inventorySlot .left (some ⟨1, 0⟩)] ∧
      ¬ Mirrored tenJavelins.wearer ((plain javelinRules).equip tenJavelins spareHand).value.1.wearer
        ((plain javelinRules).equip tenJavelins spareHand).notices := by
  have hshown : tenJavelins.wearer.shown .right = some (⟨0, 0⟩, some 10) := by decide
  have hleft : ((plain javelinRules).equip tenJavelins spareHand).value.1.wearer.shown .right =
      some (⟨0, 0⟩, some 7) := by decide
  have htold : ((plain javelinRules).equip tenJavelins spareHand).notices =
      [.stats, .inventorySlot .left (some ⟨1, 0⟩)] := by decide
  refine ⟨wellOwned_tenJavelins, regular_tenJavelins, EquipHook.keepsSlots_idle, by decide, hshown, hleft,
    htold, fun h => ?_⟩
  obtain ⟨held, hmem⟩ := h.heard .right (by rw [hshown, hleft]; decide)
  rw [htold] at hmem
  simp at hmem

theorem mirrored_perform_iff_tenJavelins :
    Regular 1 tenJavelins.wearer ∧ tenJavelins.wearer.WellOwned ∧
      (Deed.act (.equip spareHand)).LeavesRest (plain javelinRules) tenJavelins ∧
      Mirrored tenJavelins.wearer
        ((plain javelinRules).perform tenJavelins (.act (.unequip .right 3))).value.wearer
        ((plain javelinRules).perform tenJavelins (.act (.unequip .right 3))).notices := by
  have hiff : ∀ d, Mirrored tenJavelins.wearer ((plain javelinRules).perform tenJavelins d).value.wearer
      ((plain javelinRules).perform tenJavelins d).notices ↔
        ¬ d.LeavesRest (plain javelinRules) tenJavelins :=
    mirrored_perform_iff EquipHook.keepsSlots_idle regular_tenJavelins wellOwned_tenJavelins
  refine ⟨regular_tenJavelins, wellOwned_tenJavelins, ?_, (hiff _).mpr id⟩
  exact ⟨⟨⟨1, 0⟩, .slot .left, none⟩, .right, ⟨⟨1⟩, 10, 0, []⟩, { stackable := true, positions := ⟨32⟩ },
    by decide, rfl, rfl, by decide, by decide⟩

end Engine

end Adventurer
