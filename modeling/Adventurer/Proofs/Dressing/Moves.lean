import Adventurer.Proofs.Dressing.Plans

/-!
# What a move leaves

A move takes the item in hand (`Taken`) and puts it down (`Landed`): into a slot, onto a stack, or at
the end of a container.  What is proved of a move is proved of the two halves.
-/

namespace Adventurer

variable {rules : Rules} {w : Wearer} {id x box : ItemId} {source item : Item} {type : ItemType}
  {count : Nat} {hand : Wearer × ItemId}

/-- The item is of a known type that stacks. -/
def Rules.Stacks (rules : Rules) (item : Item) : Prop :=
  ∃ type, rules.itemType? item.type = some type ∧ type.stackable = true

theorem Rules.get?_of_resolve? {a : Arena} (h : rules.resolve? a id = some (item, type)) :
    a.get? id = some item ∧ rules.itemType? item.type = some type := by
  obtain ⟨held, h1, h2⟩ := Option.bind_eq_some_iff.mp h
  obtain ⟨type', h3, h4⟩ := Option.map_eq_some_iff.mp h2
  obtain ⟨rfl, rfl⟩ := Prod.mk.inj h4
  exact ⟨h1, h3⟩

theorem Dressing.exists_of_isContainer {a : Arena} (h : isContainer rules a box = true) :
    ∃ bag, a.get? box = some bag := by
  obtain ⟨⟨bag, kind⟩, hr, -⟩ := (Option.any_eq_true _ _).mp h
  exact ⟨bag, (Rules.get?_of_resolve? hr).1⟩

namespace Wearer

/-! ## The item in hand -/

theorem sound_rest (hs : w.arena.Sound) (id : ItemId) (count : Nat) : (w.rest id count).arena.Sound :=
  hs.modify id _

theorem exists_of_rest (id : ItemId) (count : Nat) (hx : w.arena.get? x = some item) :
    ∃ held, (w.rest id count).arena.get? x = some held :=
  Arena.exists_modify_iff.mpr ⟨item, hx⟩

theorem lists_rest {u c : ItemId} : (w.rest id count).arena.Lists u c ↔ w.arena.Lists u c :=
  Arena.lists_modify fun _ => rfl

namespace Taken

variable (ht : Taken w id source count hand)
include ht

/-- What is in hand is new, or it is the whole item. -/
theorem whole_of_live (hx : w.arena.get? hand.2 = some item) :
    hand.2 = id ∧ source.count ≤ count := by
  cases ht with
  | part =>
    obtain ⟨held, hheld⟩ := exists_of_rest id count hx
    exact absurd rfl (Arena.insert_ne _ hheld)
  | worn h => exact ⟨rfl, h⟩
  | packed h => exact ⟨rfl, h⟩
  | loose h => exact ⟨rfl, h⟩

theorem exists_of_get? (hs : w.arena.Sound) (hx : w.arena.get? x = some item) :
    ∃ held, hand.1.arena.get? x = some held := by
  cases ht with
  | part =>
    obtain ⟨held, hheld⟩ := exists_of_rest id count hx
    exact ⟨held, (sound_rest hs id count).get?_insert_of_live _ hheld⟩
  | worn => exact ⟨item, hx⟩
  | packed => exact Arena.exists_modify_iff.mpr ⟨item, hx⟩
  | loose => exact ⟨item, hx⟩

/-- Taking an item in hand puts nothing into a container. -/
theorem lists_of_lists {u c : ItemId} (h : hand.1.arena.Lists u c) : w.arena.Lists u c := by
  cases ht with
  | part => exact lists_rest.mp (Arena.lists_of_insert rfl h)
  | worn => exact h
  | packed => exact Arena.lists_of_unlist h
  | loose => exact h

/-- Taking only clears slots. -/
theorem get_of_get {slot : Slot} {root : ItemId}
    (h : hand.1.character.equipment.get slot = some root) :
    w.character.equipment.get slot = some root := by
  cases ht with
  | part => exact h
  | @worn cleared =>
    have hc : (w.character.equipment.clear cleared).get slot = some root := h
    rw [Equipment.get_clear] at hc
    split_ifs at hc
    exact hc
  | packed => exact h
  | loose => exact h

/-- Only the slot in which the item is found first may be emptied. -/
theorem get_eq {slot : Slot} (hne : w.character.equipment.slotOf id ≠ some slot) :
    hand.1.character.equipment.get slot = w.character.equipment.get slot := by
  cases ht with
  | part => rfl
  | worn _ hw =>
    show (w.character.equipment.clear _).get slot = _
    rw [Equipment.get_clear, if_neg]
    rintro rfl
    exact hne hw
  | packed => rfl
  | loose => rfl

/-- What is in hand: as many pieces as were asked for, and nothing inside if nothing was. -/
theorem exists_item (hs : w.arena.Sound) (hl : w.arena.get? id = some source)
    (hle : count ≤ source.count) :
    ∃ held, hand.1.arena.get? hand.2 = some held ∧ held.type = source.type ∧ held.count = count ∧
      (source.contents = [] → held.contents = []) := by
  cases ht with
  | part => exact ⟨_, (sound_rest hs id count).get?_insert_self _, rfl, rfl, fun _ => rfl⟩
  | worn h => exact ⟨source, hl, rfl, Nat.le_antisymm h hle, fun hc => hc⟩
  | @packed box h =>
    by_cases hb : id = box
    · subst hb
      refine ⟨_, Arena.get?_modify_self hl _, rfl, Nat.le_antisymm h hle, fun hc => ?_⟩
      show source.contents.erase id = []
      rw [hc]; rfl
    · refine ⟨source, ?_, rfl, Nat.le_antisymm h hle, fun hc => hc⟩
      exact (Arena.get?_modify_of_ne hb _).trans hl
  | loose h => exact ⟨source, hl, rfl, Nat.le_antisymm h hle, fun hc => hc⟩

/-- Any other item is not in hand, and is as large as it was. -/
theorem exists_other (hs : w.arena.Sound) (hx : w.arena.get? x = some item) (hne : x ≠ id) :
    ∃ held, hand.1.arena.get? x = some held ∧ held.type = item.type ∧ held.count = item.count ∧
      x ≠ hand.2 := by
  cases ht with
  | part =>
    have hm := (Arena.get?_modify_of_ne (a := w.arena) hne
      fun item => { item with count := item.count - count }).trans hx
    have hrest := sound_rest hs id count
    exact ⟨item, hrest.get?_insert_of_live _ hm, rfl, rfl, (Arena.insert_ne _ hm).symm⟩
  | worn => exact ⟨item, hx, rfl, rfl, hne⟩
  | @packed box =>
    by_cases hb : x = box
    · subst hb
      exact ⟨_, Arena.get?_modify_self hx _, rfl, rfl, hne⟩
    · exact ⟨item, (Arena.get?_modify_of_ne hb _).trans hx, rfl, rfl, hne⟩
  | loose => exact ⟨item, hx, rfl, rfl, hne⟩

end Taken

/-! ## Putting it down -/

/-- The ways in which what is in hand is put down: what is left, and what is at the destination.  A stack
in a slot has room for all that joins it; one in a container is the one that was found there. -/
inductive Landed (rules : Rules) (w : Wearer) (id : ItemId) (item : Item) (type : ItemType) (count : Nat)
    (hand : Wearer × ItemId) : Dressing.Plan → Wearer × ItemId → Prop
  | worn {slot : Slot} {displaced : Option ItemId} :
    Landed rules w id item type count hand (.wear slot displaced)
      (hand.1.mapEquipment (·.wear slot hand.2), hand.2)
  | joined {p : Dressing.Plan} {stack : ItemId} {held : Item}
    (hp : ∀ slot displaced, p ≠ .wear slot displaced) (hne : stack ≠ id) (hs : type.stackable = true)
    (hheld : w.arena.get? stack = some held) (ht : held.type = item.type)
    (hc : (held.grow count).count ≤ GameConfig.maxStack)
    (hroom : (∀ box, p ≠ .stow box) → held.count + count ≤ GameConfig.maxStack)
    (hin : ∀ box, p = .stow box → w.joinable? rules id box count = some stack) :
    Landed rules w id item type count hand p (hand.1.joinStack hand.2 stack count, stack)
  | listed {box : ItemId} (hnone : w.joinable? rules id box count = none) :
    Landed rules w id item type count hand (.stow box)
      (hand.1.mapArena (·.modify box (Arena.enlist hand.2)), hand.2)

/-- A stack that can be joined is another stack of the type in the container, and no more than full once
it has grown. -/
theorem of_joinable?_eq {stack : ItemId} (hr : rules.resolve? w.arena id = some (item, type))
    (h : w.joinable? rules id box count = some stack) :
    w.arena.Lists box stack ∧ type.stackable = true ∧ stack ≠ id ∧
      ∃ held, w.arena.get? stack = some held ∧ held.type = item.type ∧
        (held.grow count).count ≤ GameConfig.maxStack := by
  unfold joinable? at h
  rw [hr] at h
  simp only [Option.bind_eq_bind, Option.bind_some] at h
  obtain ⟨bag, hbag, h⟩ := Option.bind_eq_some_iff.mp h
  split_ifs at h with hs
  have hp := List.find?_some h
  simp only [Bool.and_eq_true, decide_eq_true_eq, Option.any_eq_true] at hp
  obtain ⟨hne, held, hheld, ht, hc⟩ := hp
  exact ⟨⟨bag, hbag, List.mem_of_find?_eq_some h⟩, hs, hne, held, hheld, ht, hc⟩

theorem lists_of_joinable? {stack : ItemId} (h : w.joinable? rules id box count = some stack) :
    w.arena.Lists box stack := by
  obtain ⟨⟨item, type⟩, hr, -⟩ := Option.bind_eq_some_iff.mp h
  exact (of_joinable?_eq hr h).1

/-- A planned move takes the item in hand and puts it down. -/
theorem exists_hand_of_move {request : EquipRequest} {p : Dressing.Plan}
    (hr : rules.resolve? w.arena request.item = some (item, type))
    (hp : Dressing.Planned rules w request item type count p) :
    ∃ hand, Taken w request.item item count hand ∧
      Landed rules w request.item item type count hand p
        (Dressing.move rules w request.item count p).value := by
  have ht := taken_takeFrom (Rules.get?_of_resolve? hr).1 count
  refine ⟨_, ht, ?_⟩
  cases hp with
  | fill => exact .worn
  | again => exact .worn
  | exchange => exact .worn
  | merge hg hne hs hheld ht hc =>
    exact .joined (fun _ _ => by simp) hne hs hheld ht ((wrap_le _ _).trans hc) (fun _ => hc)
      fun _ h => by simp at h
  | @stow box =>
    simp only [Dressing.move, store, Told.value_bind]
    cases hj : w.joinable? rules request.item box count with
    | none => exact .listed hj
    | some stack =>
      obtain ⟨-, hs, hne, held, hheld, ht, hc⟩ := of_joinable?_eq hr hj
      refine .joined (fun _ _ => by simp) hne hs hheld ht hc (fun h => absurd rfl (h box)) fun box' h => ?_
      exact Dressing.Plan.stow.inj h ▸ hj

end Wearer

/-- What is known of a request that is accepted: the item was taken in hand and put down by a plan. -/
theorem Dressing.exists_hand_of_tryEquip {σ : Type} {hook : EquipHook σ} {request : EquipRequest}
    {s : σ} {outcome : EquipOutcome}
    (h : (tryEquip rules hook w request s).value.2.2 = .ok outcome) :
    ∃ p item type hand done, rules.resolve? w.arena request.item = some (item, type) ∧
      movedCount type request ≤ item.count ∧
      Planned rules w request item type (movedCount type request) p ∧
      Wearer.Taken w request.item item (movedCount type request) hand ∧
      Wearer.Landed rules w request.item item type (movedCount type request) hand p done ∧
      (tryEquip rules hook w request s).value.1.arena = done.1.arena ∧
      (hook.KeepsSlots → (tryEquip rules hook w request s).value.1.character.equipment =
        done.1.character.equipment) ∧
      outcome = p.outcome done.2 := by
  obtain ⟨p, count, t, hplan, ha, he, ho⟩ := exists_plan_of_tryEquip h
  obtain ⟨item, type, hr, rfl, -, hle, hp⟩ := planned_of_plan hplan
  obtain ⟨hand, htaken, hlanded⟩ := Wearer.exists_hand_of_move hr hp
  exact ⟨p, item, type, hand, _, hr, hle, hp, htaken, hlanded, ha, he, ho⟩

/-- What is known of a removal that is accepted: what the slot held was taken in hand. -/
theorem Dressing.exists_hand_of_tryUnequip {σ : Type} {hook : EquipHook σ} {slot : Slot} {s : σ}
    {taken : ItemId} (h : (tryUnequip rules hook w slot count s).value.2.2 = .ok taken) :
    ∃ id item hand, w.character.equipment.get slot = some id ∧ w.arena.get? id = some item ∧
      Wearer.Taken w id item count hand ∧
      (tryUnequip rules hook w slot count s).value.1.arena = hand.1.arena ∧
      (hook.KeepsSlots → (tryUnequip rules hook w slot count s).value.1.character.equipment =
        hand.1.character.equipment) := by
  obtain ⟨id, t, hplan, ha, he, -⟩ := exists_plan_of_tryUnequip h
  obtain ⟨hslot, -, item, type, hr, -⟩ := cases_of_planRemoval hplan
  obtain ⟨hl, -⟩ := Rules.get?_of_resolve? hr
  exact ⟨id, item, _, hslot, hl, Wearer.taken_takeFrom hl count, ha, he⟩

end Adventurer
