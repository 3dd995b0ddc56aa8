import Adventurer.Proofs.Dressing.Conservation
import Adventurer.Proofs.Dressing.Hands

/-!
# Room, asked for and found

The questions asked before a request and the request itself go by the same checks, except about the room in
a worn stack.  `queryAdd` takes a slot for any number of pieces as soon as its stack is not full, and the
request looks at the room only when the hook has agreed.  `queryMaxCount` tells the room in the stack of a
named slot without asking what else bars the item from the slot (`Barred`).
-/

namespace Adventurer

open Dressing

variable {σ : Type} {rules : Rules} {hook : EquipHook σ} {w : Wearer} {c : Character} {a : Arena}
  {id : ItemId} {item held : Item} {type : ItemType} {slot : Slot} {count room : Nat} {refusal : Refusal}
  {placement : Placement} {p : Plan} {s t : σ}

/-- The hook agrees to every move. -/
structure EquipHook.Agrees (hook : EquipHook σ) : Prop where
  canEquip : ∀ c id type slot s, (hook.canEquip c id type slot s).1 = true
  canUnequip : ∀ c id slot s, (hook.canUnequip c id slot s).1 = true

theorem EquipHook.agrees_idle : EquipHook.idle.Agrees := ⟨fun _ _ _ _ _ => rfl, fun _ _ _ _ => rfl⟩

/-- The slot or container that a placement names. -/
def Placement.destination : Placement → Destination
  | accepted slot | exchange slot _ => .slot slot
  | stored box => .container box

namespace Dressing

/-! ## What bars an item from a slot -/

/-- Why an item may not go to a slot that nothing has to leave, in the order of the checks. -/
inductive Barred (rules : Rules) (c : Character) (a : Arena) (id : ItemId) (item : Item) (type : ItemType)
    (slot : Slot) (count : Nat) : Refusal → Prop
  | type (h : type.pickupable = false) : Barred rules c a id item type slot count .cannotPickup
  | slot {refusal : Refusal} (hp : type.pickupable = true)
    (h : fitsSlot rules a c id item type slot count = .error refusal) :
    Barred rules c a id item type slot count refusal
  | weight (hp : type.pickupable = true) (hf : fitsSlot rules a c id item type slot count = .ok ())
    (h : hasCapacity rules c a id count 0 = false) :
    Barred rules c a id item type slot count .notEnoughCapacity

/-- A stack that an item can join is not in its way. -/
theorem obstacle?_of_stack {stack : ItemId} (hs : c.equipment.get slot = some stack)
    (hstack : type.stackable = true) (hheld : a.get? stack = some held) (ht : held.type = item.type) :
    obstacle? c a id item type slot = none := by
  unfold obstacle?
  simp [hs, hstack, hheld, ht]

section NoObstacle

variable (ho : obstacle? c a id item type slot = none)
include ho

/-- Where nothing is in the way a placement is refused for what bars the item. -/
theorem placeInSlot_eq_error_iff : placeInSlot rules c a id item type slot count = .error refusal ↔
    Barred rules c a id item type slot count refusal := by
  constructor
  · intro h
    unfold placeInSlot at h
    rw [ho] at h
    split_ifs at h with hp
    · obtain rfl := Except.error.inj h
      exact .type (by simpa using hp)
    · have hpickup : type.pickupable = true := by simpa using hp
      split at h
      · next _ hf => exact .slot hpickup ((Except.error.inj h) ▸ hf)
      · next hf =>
        simp only at h
        split_ifs at h with hc
        obtain rfl := Except.error.inj h
        exact .weight hpickup hf (by simpa using hc)
  · intro h
    unfold placeInSlot
    rw [ho]
    cases h with
    | type hp => simp [hp]
    | slot hp hf => simp [hp, hf]
    | weight hp hf hc => simp [hp, hf, hc]

theorem placeInSlot_eq_accepted_iff :
    placeInSlot rules c a id item type slot count = .ok (.accepted slot) ↔
      ∀ refusal, ¬ Barred rules c a id item type slot count refusal := by
  constructor
  · intro h refusal hb
    rw [placeInSlot_eq_error_iff ho |>.mpr hb] at h
    cases h
  · intro h
    cases hplace : placeInSlot rules c a id item type slot count with
    | error refusal => exact absurd ((placeInSlot_eq_error_iff ho).mp hplace) (h refusal)
    | ok placement =>
      have heq := eq_of_placeInSlot_eq_ok hplace
      rw [ho] at heq
      rw [heq]
      rfl

end NoObstacle

theorem slotAccepts_iff : slotAccepts rules c a id item type count slot = true ↔
    placeInSlot rules c a id item type slot count = .ok (.accepted slot) := by
  unfold slotAccepts
  constructor
  · intro h
    split at h
    · next placement hplace =>
      have heq := eq_of_placeInSlot_eq_ok hplace
      cases ho : obstacle? c a id item type slot with
      | none =>
        rw [ho] at heq
        rw [hplace, heq]
        rfl
      | some other =>
        rw [heq, ho] at h
        cases h
    · cases h
  · intro h
    rw [h]
    rfl

theorem obstacle?_of_slotAccepts (h : slotAccepts rules c a id item type count slot = true) :
    obstacle? c a id item type slot = none := by
  have heq := eq_of_placeInSlot_eq_ok (slotAccepts_iff.mp h)
  cases ho : obstacle? c a id item type slot with
  | none => rfl
  | some other =>
    rw [ho] at heq
    cases heq

/-- A named slot is asked whether it takes the item, and nothing else is. -/
theorem queryAdd_named (hr : rules.resolve? a id = some (item, type)) :
    queryAdd rules c a id (.named slot) count = placeInSlot rules c a id item type slot count := by
  unfold queryAdd
  rw [hr]
  cases hp : type.pickupable with
  | true => simp [hp]
  | false => simp [placeInSlot, hp]

/-! ## The room that is promised -/

/-- What is told of a named slot is its room, and that is enough. -/
theorem eq_roomNamed_of_queryMaxCount (hr : rules.resolve? a id = some (item, type))
    (h : queryMaxCount rules c a id (.named slot) count = .ok room) :
    room = roomNamed rules c a id item type count slot ∧ count ≤ room := by
  unfold queryMaxCount at h
  rw [hr] at h
  simp only at h
  split_ifs at h with hlt
  obtain rfl := Except.ok.inj h
  exact ⟨rfl, Nat.le_of_not_lt hlt⟩

/-- A slot that counts when any place is asked for takes some of the item. -/
theorem exists_accepts_of_roomWherever (hpos : 0 < item.count)
    (h : 0 < roomWherever rules c a id item type slot) :
    ∃ n, 0 < n ∧ slotAccepts rules c a id item type n slot = true := by
  unfold roomWherever at h
  split_ifs at h with _ haccepts
  · exact ⟨item.count, hpos, haccepts⟩
  · cases h
  · cases hroom : (stackRoom? c a id item type slot).filter fun room =>
        slotAccepts rules c a id item type room slot with
    | none =>
      rw [hroom] at h
      cases h
    | some n =>
      rw [hroom] at h
      exact ⟨n, h, (Option.filter_eq_some_iff.mp hroom).2⟩

/-- **What room at a slot is worth.**  A named slot that is said to have room for `count` pieces has room
for no fewer, and it takes them just if it is free or nothing bars the item from it: in an occupied slot
only the room in the stack is looked at.  The count for any place leaves out the slots that take none. -/
theorem queryMaxCount_named_iff (rules : Rules) (c : Character) (a : Arena) (id : ItemId) (item : Item)
    (type : ItemType) (slot : Slot) (count room : Nat) (hr : rules.resolve? a id = some (item, type))
    (hpos : 0 < count) (hle : count ≤ item.count)
    (h : queryMaxCount rules c a id (.named slot) count = .ok room) :
    count ≤ room ∧
    (queryAdd rules c a id (.named slot) count = .ok (.accepted slot) ↔
      ¬ (c.equipment.isFree slot = false ∧ ∃ refusal, Barred rules c a id item type slot count refusal)) ∧
    ∀ there, 0 < roomWherever rules c a id item type there →
      ∃ n, 0 < n ∧ queryAdd rules c a id (.named there) n = .ok (.accepted there) := by
  obtain ⟨hroom, hcount⟩ := eq_roomNamed_of_queryMaxCount hr h
  refine ⟨hcount, ?_, fun there hthere => ?_⟩
  · rw [queryAdd_named hr]
    cases hfree : c.equipment.isFree slot with
    | true =>
      have haccepts : slotAccepts rules c a id item type count slot = true := by
        by_contra hnot
        unfold roomNamed at hroom
        rw [if_pos hfree, if_neg hnot] at hroom
        omega
      simp [slotAccepts_iff.mp haccepts]
    | false =>
      obtain ⟨stack, hs⟩ := Option.ne_none_iff_exists'.mp (mt Option.isNone_iff_eq_none.mpr
        (Bool.eq_false_iff.mp hfree))
      obtain ⟨hstack, held, hheld, ht, -⟩ := stack_of_queryMaxCount hr hs hpos h
      rw [placeInSlot_eq_accepted_iff (obstacle?_of_stack hs hstack hheld ht)]
      simp
  · obtain ⟨n, hn, haccepts⟩ := exists_accepts_of_roomWherever (hpos.trans_le hle) hthere
    exact ⟨n, hn, (queryAdd_named hr).trans (slotAccepts_iff.mp haccepts)⟩

theorem queryMaxCount_named_iff_archer :
    queryMaxCount arrowRules archer.character archer.arena ⟨1, 0⟩ (.named .ammo) 5 = .ok 5 ∧
      queryAdd arrowRules archer.character archer.arena ⟨1, 0⟩ (.named .ammo) 5 = .ok (.accepted .ammo) := by
  have hmax : queryMaxCount arrowRules archer.character archer.arena ⟨1, 0⟩ (.named .ammo) 5 = .ok 5 := by
    decide
  obtain ⟨-, hiff, -⟩ := queryMaxCount_named_iff arrowRules archer.character archer.arena ⟨1, 0⟩
    ⟨⟨1⟩, 10, 0, []⟩ { stackable := true, positions := ⟨512⟩ } .ammo 5 5 rfl (by decide) (by decide) hmax
  refine ⟨hmax, hiff.mpr ?_⟩
  rintro ⟨-, refusal, hb⟩
  cases hb with
  | type h => cases h
  | slot _ h => cases h
  | weight _ _ h => cases h

/-- Seventy arrows in the ammunition slot, fifty on the ground and the strength for ten more. -/
def ladenArcher : Wearer where
  character := { id := ⟨1⟩, name := "Tester", capacity := 80, inventoryWeight := 70,
                 equipment := Equipment.empty.wear .ammo ⟨0, 0⟩ }
  arena := ((Arena.empty.insert ⟨⟨1⟩, 70, 0, []⟩).1.insert ⟨⟨1⟩, 50, 0, []⟩).1

/-- The rules of a world in which an arrow weighs a pound. -/
def heavyArrowRules : Rules where
  items := some fun _ => some { stackable := true, positions := ⟨512⟩, weight := 1 }

/-- There is room for thirty more of them in the slot, which does not take them for their weight. -/
theorem room_beyond_capacity :
    queryMaxCount heavyArrowRules ladenArcher.character ladenArcher.arena ⟨1, 0⟩ (.named .ammo) 30 =
        .ok 30 ∧
      queryAdd heavyArrowRules ladenArcher.character ladenArcher.arena ⟨1, 0⟩ (.named .ammo) 30 =
        .error .notEnoughCapacity ∧
      queryMaxCount heavyArrowRules ladenArcher.character ladenArcher.arena ⟨1, 0⟩ .wherever 30 =
        .error .notEnoughRoom := by
  decide

/-! ## The room that is found -/

/-- The placement joins a stack in which there is no room for `count` pieces more. -/
def Overfills (w : Wearer) (count : Nat) : Placement → Prop
  | .accepted slot => ∃ held, w.inSlot? slot = some held ∧ GameConfig.maxStack < held.count + count
  | .exchange _ _ | .stored _ => False

/-- What does not stand in the way of an item that is not in the slot is a stack of its type. -/
theorem stack_of_obstacle? {stack : ItemId} (ho : obstacle? c a id item type slot = none)
    (hs : c.equipment.get slot = some stack) (hne : stack ≠ id) :
    type.stackable = true ∧ ∃ held, a.get? stack = some held ∧ held.type = item.type := by
  unfold obstacle? at ho
  rw [hs] at ho
  simp only at ho
  split_ifs at ho with hc
  simpa [hne, Option.any_eq_true] using hc

/-- A slot in which an item lands takes the whole of it. -/
theorem accepts_of_destination? (hr : rules.resolve? a id = some (item, type))
    (h : destination? rules c a id = some (.slot slot)) :
    slotAccepts rules c a id item type item.count slot = true := by
  unfold destination? at h
  rw [hr] at h
  simp only at h
  split at h
  · next found hfound =>
    obtain rfl := Destination.slot.inj (Option.some.inj h)
    have hdest := List.find?_some hfound
    unfold isDestination at hdest
    exact (Bool.and_eq_true_iff.mp hdest).2
  · obtain ⟨box, -, hbox⟩ := Option.map_eq_some_iff.mp h
    cases hbox

/-- A place that is found for an item is a slot that takes it as it is, or a container. -/
theorem cases_of_queryAdd_wherever (hr : rules.resolve? a id = some (item, type))
    (h : queryAdd rules c a id .wherever count = .ok placement) :
    (∃ slot, placement = .accepted slot ∧ c.equipment.get slot ≠ some id ∧
      obstacle? c a id item type slot = none) ∨ ∃ box, placement = .stored box := by
  unfold queryAdd at h
  rw [hr] at h
  simp only at h
  split at h
  · cases h
  · split at h
    · next slot hd =>
      have ho := obstacle?_of_slotAccepts (accepts_of_destination? hr hd)
      refine .inl ⟨slot, ?_, destination?_slot hd, ho⟩
      rw [eq_of_placeInSlot_eq_ok h, ho]
      rfl
    · next box _ =>
      split_ifs at h
      exact .inr ⟨box, (Except.ok.inj h).symm⟩
    · cases h

/-- The count asked of a slot that holds a stack of the type is told from the room in the stack. -/
theorem queryMaxCount_of_stack {stack : ItemId} (hr : rules.resolve? a id = some (item, type))
    (hstack : type.stackable = true) (hs : c.equipment.get slot = some stack) (hne : stack ≠ id)
    (hheld : a.get? stack = some held) (ht : held.type = item.type) (hpos : 0 < count) :
    queryMaxCount rules c a id (.named slot) count =
      if held.count + count ≤ GameConfig.maxStack then .ok (GameConfig.maxStack - held.count)
      else .error .notEnoughRoom := by
  have hroom : roomNamed rules c a id item type count slot = GameConfig.maxStack - held.count := by
    unfold roomNamed stackRoom?
    rw [if_neg (by simp [Equipment.isFree, hs]), hs, Option.bind_some, hheld, Option.bind_some]
    split_ifs with hopen
    · rfl
    · -- a full stack is not open, and has no room either
      have hfull : ¬ held.count < GameConfig.maxStack := fun hlt =>
        hopen (by simp [hstack, isOpenStack, hne, hheld, ht, hlt])
      rw [Option.getD_none]
      omega
  unfold queryMaxCount
  rw [hr]
  simp only [hroom]
  split_ifs <;> first | rfl | omega

/-- A slot that takes an item as it is gets it just if its stack has the room. -/
theorem planSlot_of_obstacle? (hr : rules.resolve? w.arena id = some (item, type)) (hpos : 0 < count)
    (hne : w.character.equipment.get slot ≠ some id)
    (ho : obstacle? w.character w.arena id item type slot = none) :
    (¬ Overfills w count (.accepted slot) ∧ ∃ p, planSlot rules w id count slot none = .ok p) ∨
    (Overfills w count (.accepted slot) ∧ planSlot rules w id count slot none = .error .notEnoughRoom) := by
  unfold planSlot
  cases hg : w.character.equipment.get slot with
  | none =>
    refine .inl ⟨?_, _, rfl⟩
    rintro ⟨held, hheld, -⟩
    rw [Wearer.inSlot?_of_get_eq_none hg] at hheld
    cases hheld
  | some stack =>
    have hother : stack ≠ id := fun he => hne (he ▸ hg)
    obtain ⟨hstack, held, hheld, ht⟩ := stack_of_obstacle? ho hg hother
    have hin : w.inSlot? slot = some held := Wearer.inSlot?_eq_some.mpr ⟨stack, hg, hheld⟩
    simp only [if_neg hother, queryMaxCount_of_stack hr hstack hg hother hheld ht hpos]
    split_ifs with hroom
    · refine .inl ⟨?_, _, rfl⟩
      rintro ⟨held', hheld', hover⟩
      obtain rfl := Option.some.inj (hin.symm.trans hheld')
      omega
    · exact .inr ⟨⟨held, hin, by omega⟩, rfl⟩

theorem askHook_of_agrees (ha : hook.Agrees) (c : Character) (id : ItemId) (type : ItemType) (slot : Slot)
    (displaced : Option ItemId) (s : σ) : (askHook hook c id type slot displaced s).1 = true := by
  cases displaced with
  | none => exact ha.canEquip c id type slot s
  | some other =>
    unfold askHook
    simp only [ha.canUnequip, if_true]
    exact ha.canEquip c id type slot _

/-- A request whose plan is made is accepted, with the outcome of the plan. -/
theorem tryEquip_of_plan {request : EquipRequest} (h : plan rules hook w request s = (.ok (p, count), t)) :
    (tryEquip rules hook w request s).value.2.2 =
      .ok (p.outcome (move rules w request.item count p).value.2) := by
  unfold tryEquip
  rw [h]
  exact congrArg Except.ok (carryOut_spec rules hook w request.item count p t).2.2

/-- The pieces that a request with a fair count moves. -/
theorem movedCount_eq {request : EquipRequest} (h : type.stackable = false → request.count = 1) :
    movedCount type request = request.count := by
  unfold movedCount
  split_ifs with hstack
  · rfl
  · exact (h (by simpa using hstack)).symm

section Planning

variable {request : EquipRequest} {box : ItemId}
  (hr : rules.resolve? w.arena request.item = some (item, type)) (hn : movedCount type request = count)
  (hpos : 0 < count) (hle : count ≤ item.count)
include hr hn hpos hle

theorem plan_of_stored (hook : EquipHook σ)
    (hq : queryAdd rules w.character w.arena request.item request.target count = .ok (.stored box)) (s : σ) :
    plan rules hook w request s = (.ok (.stow box, count), s) := by
  have hfair : ¬ (count = 0 ∨ item.count < count) := by omega
  unfold plan
  rw [hr]
  simp [hn, hfair, hq]

/-- With the hook agreeing, what a slot takes as it is is planned for the slot. -/
theorem plan_of_accepted (ha : hook.Agrees)
    (hq : queryAdd rules w.character w.arena request.item request.target count = .ok (.accepted slot))
    (s : σ) :
    ∃ t, plan rules hook w request s =
      ((planSlot rules w request.item count slot none).map fun p => (p, count), t) := by
  have hfair : ¬ (count = 0 ∨ item.count < count) := by omega
  refine ⟨(askHook hook w.character request.item type slot none s).2, ?_⟩
  unfold plan
  rw [hr]
  simp [hn, hfair, hq, plan.planned, askHook_of_agrees ha]

end Planning

/-- **What is found is carried out.**  Where any place is asked for some pieces of an item and one is found,
a request for it that the hook agrees to is accepted, and goes there, just if the stack that the pieces are
to join has room for all of them.  Otherwise it is refused for want of room. -/
theorem wherever_carried_out_iff (rules : Rules) (hook : EquipHook σ) (w : Wearer) (id : ItemId)
    (item : Item) (type : ItemType) (count : Nat) (placement : Placement) (s : σ) (ha : hook.Agrees)
    (hr : rules.resolve? w.arena id = some (item, type)) (hpos : 0 < count) (hle : count ≤ item.count)
    (hone : type.stackable = false → count = 1)
    (hq : queryAdd rules w.character w.arena id .wherever count = .ok placement) :
    ((∃ outcome, (tryEquip rules hook w ⟨id, .wherever, count⟩ s).value.2.2 = .ok outcome ∧
        outcome.destination = placement.destination) ↔ ¬ Overfills w count placement) ∧
    (Overfills w count placement →
      (tryEquip rules hook w ⟨id, .wherever, count⟩ s).value.2.2 = .error .notEnoughRoom) := by
  have hn : movedCount type ⟨id, .wherever, count⟩ = count := movedCount_eq hone
  rcases cases_of_queryAdd_wherever hr hq with ⟨slot, rfl, hne, ho⟩ | ⟨box, rfl⟩
  · obtain ⟨t, hplan⟩ := plan_of_accepted hr hn hpos hle ha hq s
    rcases planSlot_of_obstacle? hr hpos hne ho with ⟨hroom, p, hp⟩ | ⟨hover, hp⟩
    · rw [hp] at hplan
      have hok := tryEquip_of_plan hplan
      exact ⟨⟨fun _ => hroom, fun _ => ⟨_, hok, destination_of_planSlot hp _⟩⟩, fun h => absurd h hroom⟩
    · rw [hp] at hplan
      have herror : (tryEquip rules hook w ⟨id, .wherever, count⟩ s).value.2.2 = .error .notEnoughRoom := by
        rw [tryEquip_of_plan_error hplan]
        rfl
      refine ⟨⟨?_, fun h => absurd hover h⟩, fun _ => herror⟩
      rintro ⟨outcome, hok, -⟩
      cases herror.symm.trans hok
  · have hok := tryEquip_of_plan (plan_of_stored hr hn hpos hle hook hq s)
    exact ⟨⟨fun _ => not_false, fun _ => ⟨_, hok, rfl⟩⟩, fun h => h.elim⟩

/-- Five of the ten arrows on the ground still fit into the slot. -/
theorem wherever_carried_out_iff_archer :
    queryAdd arrowRules archer.character archer.arena ⟨1, 0⟩ .wherever 5 = .ok (.accepted .ammo) ∧
      ∃ outcome, (tryEquip arrowRules .idle archer ⟨⟨1, 0⟩, .wherever, 5⟩ ()).value.2.2 = .ok outcome ∧
        outcome.destination = .slot .ammo := by
  have hq : queryAdd arrowRules archer.character archer.arena ⟨1, 0⟩ .wherever 5 = .ok (.accepted .ammo) := by
    decide
  refine ⟨hq, (wherever_carried_out_iff arrowRules .idle archer ⟨1, 0⟩ ⟨⟨1⟩, 10, 0, []⟩
    { stackable := true, positions := ⟨512⟩ } 5 (.accepted .ammo) () EquipHook.agrees_idle rfl (by decide)
    (by decide) (fun h => by cases h) hq).1.mpr ?_⟩
  rintro ⟨held, hheld, hover⟩
  obtain rfl : ⟨⟨1⟩, 95, 0, []⟩ = held := Option.some.inj hheld
  exact absurd hover (by decide)

/-- The slot is found for all ten of them too; the request for it is refused, and so is the count. -/
theorem found_and_refused :
    queryAdd arrowRules archer.character archer.arena ⟨1, 0⟩ .wherever 10 = .ok (.accepted .ammo) ∧
      (tryEquip arrowRules .idle archer ⟨⟨1, 0⟩, .wherever, 10⟩ ()).value.2.2 = .error .notEnoughRoom ∧
      queryMaxCount arrowRules archer.character archer.arena ⟨1, 0⟩ .wherever 10 =
        .error .notEnoughRoom := by
  decide

end Dressing

end Adventurer
