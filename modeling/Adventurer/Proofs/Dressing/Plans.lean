import Adventurer.Proofs.Dressing.Steps

/-!
# What a plan says

`Planned` lists the plans that a request can lead to, with all that the checks before have
established.  `exists_plan_of_tryEquip` and `exists_plan_of_tryUnequip` say what carrying one out leaves
in the arena and in the slots.
-/

namespace Adventurer.Dressing

variable {σ : Type} {rules : Rules} {hook : EquipHook σ} {w : Wearer} {request : EquipRequest}
  {c : Character} {a : Arena} {id box : ItemId} {item : Item} {type : ItemType} {slot : Slot}
  {count : Nat} {s t : σ} {e : Refusal}

/-! ## The search for a container -/

/-- Whatever holds of every container that the search is given, and passes to the containers inside,
holds of the one it finds, which moreover does not lie inside the item. -/
theorem searchContainers_induction {P : ItemId → Prop}
    (step : ∀ {box bag child}, P box → a.get? box = some bag → child ∈ bag.contents →
      isContainer rules a child = true → P child) :
    ∀ {depth : Nat} {level : List ItemId} {first : Option ItemId}, (∀ b ∈ level, P b) →
      (∀ b, first = some b → P b ∧ ¬ a.Reaches id b) →
      searchContainers rules a id item type depth level first = some box →
      P box ∧ ¬ a.Reaches id box
  | 0, level, first, _, hf, h => hf box h
  | depth + 1, level, first, hl, hf, h => by
    have hout : ∀ b ∈ level.filter (fun b => !a.isWithin id b), P b ∧ ¬ a.Reaches id b := by
      intro b hb
      obtain ⟨h1, h2⟩ := List.mem_filter.mp hb
      exact ⟨hl b h1, fun hr => by simp [Arena.isWithin_iff.mpr hr] at h2⟩
    rw [searchContainers] at h
    simp only at h
    split at h
    · rename_i found hfound
      obtain rfl := Option.some.inj h
      exact hout _ (List.mem_of_find?_eq_some hfound)
    · refine searchContainers_induction step ?_ ?_ h
      · intro b hb
        obtain ⟨outer, ho, hb⟩ := List.mem_flatMap.mp hb
        obtain ⟨hb, hc⟩ := List.mem_filter.mp hb
        cases hg : a.get? outer with
        | none => rw [hg] at hb; simp at hb
        | some bag =>
          rw [hg] at hb
          exact step (hout outer ho).1 hg hb hc
      · intro b hb
        cases hfirst : first with
        | some b' =>
          rw [hfirst] at hb
          exact hf b (hfirst.trans hb)
        | none =>
          rw [hfirst, Option.none_or] at hb
          exact hout b (List.mem_of_head? hb)

/-- A container in which an item is stored is carried, live and not inside the item. -/
theorem destination?_container (h : destination? rules c a id = some (.container box)) :
    (⟨c, a⟩ : Wearer).Carries box ∧ isContainer rules a box = true ∧ ¬ a.Reaches id box := by
  unfold destination? at h
  split at h
  · simp at h
  · rename_i item type hr
    split at h
    · simp at h
    · obtain ⟨found, hs, hd⟩ := Option.map_eq_some_iff.mp h
      obtain rfl := Destination.container.inj hd
      have := searchContainers_induction (P := fun b => (⟨c, a⟩ : Wearer).Carries b ∧
        isContainer rules a b = true) ?_ ?_ ?_ hs
      · exact ⟨this.1.1, this.1.2, this.2⟩
      · rintro b bag child ⟨⟨slot, root, h1, h2⟩, -⟩ hb hc hchild
        exact ⟨⟨slot, root, h1, h2.tail ⟨bag, hb, hc⟩⟩, hchild⟩
      · intro b hb
        obtain ⟨h1, h2⟩ := List.mem_filter.mp hb
        obtain ⟨slot, hslot⟩ := Equipment.mem_items.mp h1
        simp only [Bool.and_eq_true] at h2
        exact ⟨⟨slot, b, hslot, Arena.Reaches.refl a b⟩, h2.2⟩
      · simp

/-- A slot in which an item lands does not hold the item. -/
theorem destination?_slot (h : destination? rules c a id = some (.slot slot)) :
    c.equipment.get slot ≠ some id := by
  unfold destination? at h
  split at h
  · simp at h
  · rename_i item type hr
    split at h
    · rename_i found hf
      obtain rfl := Destination.slot.inj (Option.some.inj h)
      have hd := List.find?_some hf
      intro hg
      unfold isDestination at hd
      rw [hg] at hd
      simp [isOpenStack] at hd
    · obtain ⟨b, -, hd⟩ := Option.map_eq_some_iff.mp h
      exact absurd hd (by simp)

/-! ## Plans -/

/-- The request names no other slot. -/
def Targets (request : EquipRequest) (slot : Slot) : Prop :=
  ∀ named, request.target = .named named → named = slot

/-- The plans for `count` of an item, and what is known when one is made. -/
inductive Planned (rules : Rules) (w : Wearer) (request : EquipRequest) (item : Item)
    (type : ItemType) (count : Nat) : Plan → Prop
  | fill {slot : Slot} (h : w.character.equipment.get slot = none) (hto : Targets request slot) :
    Planned rules w request item type count (.wear slot none)
  | again {slot : Slot} (h : w.character.equipment.get slot = some request.item)
    (ht : request.target = .named slot) :
    Planned rules w request item type count (.wear slot none)
  | exchange {slot : Slot} {other : ItemId} (h : w.character.equipment.get slot = some other)
    (hne : other ≠ request.item) (hto : Targets request slot) :
    Planned rules w request item type count (.wear slot (some other))
  | merge {slot : Slot} {stack : ItemId} {held : Item}
    (h : w.character.equipment.get slot = some stack) (hne : stack ≠ request.item)
    (hs : type.stackable = true) (hheld : w.arena.get? stack = some held)
    (ht : held.type = item.type) (hc : held.count + count ≤ GameConfig.maxStack)
    (hto : Targets request slot) :
    Planned rules w request item type count (.merge slot stack)
  | stow {box : ItemId} (hc : w.Carries box) (hb : isContainer rules w.arena box = true)
    (hn : ¬ w.arena.Reaches request.item box) (hto : request.target = .wherever) :
    Planned rules w request item type count (.stow box)

theorem eq_of_placeInSlot_eq_ok {p : Placement}
    (h : placeInSlot rules c a id item type slot count = .ok p) :
    p = (obstacle? c a id item type slot).elim (.accepted slot) (.exchange slot) := by
  unfold placeInSlot at h
  split_ifs at h
  split at h
  · simp at h
  · simp only at h
    split_ifs at h
    split at h
    · rename_i ho
      rw [ho]
      exact (Except.ok.inj h).symm
    · rename_i ho
      rw [ho]
      exact (Except.ok.inj h).symm

/-- What is in the way of an item is worn in the slot and is not the item. -/
theorem get_of_obstacle? {other : ItemId} (h : obstacle? c a id item type slot = some other) :
    c.equipment.get slot = some other ∧ other ≠ id := by
  unfold obstacle? at h
  split at h
  · simp at h
  · rename_i occupant hg
    simp only at h
    split_ifs at h with hc
    obtain rfl := Option.some.inj h
    exact ⟨hg, fun he => hc (by simp [he])⟩

/-- Where an item may go: to a slot, which holds the item already only if it was named, or into a
container. -/
theorem cases_of_queryAdd {target : SlotTarget} {p : Placement}
    (h : queryAdd rules c a id target count = .ok p) :
    (∃ slot item type, (target = .named slot ∨ target = .wherever ∧ c.equipment.get slot ≠ some id) ∧
      p = (obstacle? c a id item type slot).elim (.accepted slot) (.exchange slot)) ∨
    (∃ box, p = .stored box ∧ target = .wherever ∧ (⟨c, a⟩ : Wearer).Carries box ∧ isContainer rules a box = true ∧
      ¬ a.Reaches id box) := by
  unfold queryAdd at h
  split at h
  · simp at h
  · rename_i item type hr
    split at h
    · simp at h
    · split at h
      · rename_i slot
        exact Or.inl ⟨slot, item, type, Or.inl rfl, eq_of_placeInSlot_eq_ok h⟩
      · split at h
        · rename_i slot hd
          exact Or.inl ⟨slot, item, type, Or.inr ⟨rfl, destination?_slot hd⟩,
            eq_of_placeInSlot_eq_ok h⟩
        · rename_i box hd
          split_ifs at h
          obtain ⟨h1, h2, h3⟩ := destination?_container hd
          exact Or.inr ⟨box, (Except.ok.inj h).symm, rfl, h1, h2, h3⟩
        · simp at h

/-- Room in an occupied slot is room in a stack of the same type. -/
theorem stack_of_queryMaxCount {stack : ItemId} {room : Nat} (hr : rules.resolve? a id = some (item, type))
    (hs : c.equipment.get slot = some stack) (hpos : 0 < count)
    (h : queryMaxCount rules c a id (.named slot) count = .ok room) :
    type.stackable = true ∧ ∃ held, a.get? stack = some held ∧ held.type = item.type ∧
      held.count + count ≤ GameConfig.maxStack := by
  unfold queryMaxCount at h
  rw [hr] at h
  simp only at h
  split_ifs at h with hlt
  have hfree : c.equipment.isFree slot = false := by simp [Equipment.isFree, hs]
  simp only [roomNamed, hfree, Bool.false_eq_true, if_false, stackRoom?, hs, Option.bind_some] at hlt
  cases hheld : a.get? stack with
  | none => simp [hheld, hpos] at hlt
  | some held =>
    rw [hheld] at hlt
    simp only [Option.bind_some] at hlt
    split_ifs at hlt with hopen
    · simp only [Option.getD_some, isOpenStack, hheld, Option.any_some, Bool.and_eq_true,
        decide_eq_true_eq] at hlt hopen
      exact ⟨hopen.1, held, rfl, hopen.2.2.1, by omega⟩
    · simp [hpos] at hlt

/-- A placement in a slot is planned as one of the kinds. -/
theorem planned_of_planSlot {p : Plan} (hr : rules.resolve? w.arena request.item = some (item, type))
    (hpos : 0 < count) {item' : Item} {type' : ItemType} {displaced : Option ItemId}
    (ht : request.target = .named slot ∨
      request.target = .wherever ∧ w.character.equipment.get slot ≠ some request.item)
    (ho : obstacle? w.character w.arena request.item item' type' slot = displaced)
    (h : planSlot rules w request.item count slot displaced = .ok p) :
    Planned rules w request item type count p := by
  have hto : Targets request slot := by
    intro named hn
    rcases ht with hs | ⟨hs, -⟩
    · exact SlotTarget.named.inj (hn.symm.trans hs)
    · exact absurd (hn.symm.trans hs) (by simp)
  cases displaced with
  | some other =>
    obtain ⟨h1, h2⟩ := get_of_obstacle? ho
    unfold planSlot at h
    rw [h1] at h
    obtain rfl := Except.ok.inj h
    exact .exchange h1 h2 hto
  | none =>
    unfold planSlot at h
    cases hg : w.character.equipment.get slot with
    | none =>
      rw [hg] at h
      obtain rfl := Except.ok.inj h
      exact .fill hg hto
    | some occupant =>
      rw [hg] at h
      simp only at h
      split_ifs at h with hid
      · obtain rfl := Except.ok.inj h
        subst hid
        exact .again hg (ht.resolve_right (fun hne => hne.2 hg))
      · cases hm : queryMaxCount rules w.character w.arena request.item (.named slot) count with
        | error e => rw [hm] at h; simp [Except.map] at h
        | ok room =>
          rw [hm] at h
          obtain rfl := Except.ok.inj h
          obtain ⟨h1, held, h2, h3, h4⟩ := stack_of_queryMaxCount hr hg hpos hm
          exact .merge hg hid h1 h2 h3 h4 hto

/-- A placement that the hook agrees to is planned for the slot. -/
theorem planSlot_of_planned {p : Plan} {n : Nat} {displaced : Option ItemId}
    (h : plan.planned rules hook w request item type n slot displaced s = (.ok (p, count), t)) :
    count = n ∧ planSlot rules w request.item n slot displaced = .ok p := by
  unfold plan.planned at h
  simp only at h
  split_ifs at h
  · cases hp : planSlot rules w request.item n slot displaced with
    | error e => rw [hp] at h; simp [Except.map] at h
    | ok q =>
      rw [hp] at h
      simp only [Except.map, Prod.mk.injEq, Except.ok.injEq] at h
      exact ⟨h.1.2.symm, by rw [h.1.1]⟩
  · simp at h

/-- What is known of a request that leads to a plan. -/
theorem planned_of_plan {p : Plan} (h : plan rules hook w request s = (.ok (p, count), t)) :
    ∃ item type, rules.resolve? w.arena request.item = some (item, type) ∧
      count = movedCount type request ∧ 0 < count ∧ count ≤ item.count ∧
      Planned rules w request item type count p := by
  unfold plan at h
  split at h
  · simp at h
  · rename_i item type hr
    simp only at h
    split at h
    · simp at h
    · rename_i hcount
      simp only [Bool.or_eq_true, decide_eq_true_eq, not_or, Nat.not_lt] at hcount
      have hpos : 0 < movedCount type request := Nat.pos_of_ne_zero hcount.1
      cases hq : queryAdd rules w.character w.arena request.item request.target
          (movedCount type request) with
      | error refusal => rw [hq] at h; simp at h
      | ok placement =>
        rw [hq] at h
        rcases cases_of_queryAdd hq with ⟨slot, item', type', ht, rfl⟩ | ⟨box, rfl, hto, h1, h2, h3⟩
        · have hplan : plan.planned rules hook w request item type (movedCount type request) slot
              (obstacle? w.character w.arena request.item item' type' slot) s =
                (.ok (p, count), t) := by
            cases ho : obstacle? w.character w.arena request.item item' type' slot <;>
              simpa [ho] using h
          obtain ⟨rfl, hslot⟩ := planSlot_of_planned hplan
          exact ⟨item, type, hr, rfl, hpos, hcount.2, planned_of_planSlot hr hpos ht rfl hslot⟩
        · simp only [Prod.mk.injEq, Except.ok.injEq] at h
          obtain ⟨⟨rfl, rfl⟩, -⟩ := h
          exact ⟨item, type, hr, rfl, hpos, hcount.2, .stow h1 h2 h3 hto⟩

/-! ## Carrying out -/

theorem equipment_report (hk : hook.KeepsSlots) (w : Wearer) (slot : Slot) (placed : ItemId)
    (displaced : Option ItemId) (s : σ) :
    (report hook w slot placed displaced s).value.1.character.equipment = w.character.equipment := by
  cases displaced with
  | none => exact hk.onEquip _ _ _ _
  | some other => exact (hk.onEquip _ _ _ _).trans (hk.onUnequip _ _ _ _)

/-- Carrying out a plan leaves what its move leaves. -/
theorem carryOut_spec (rules : Rules) (hook : EquipHook σ) (w : Wearer) (id : ItemId) (count : Nat) (p : Plan)
    (s : σ) :
    (carryOut rules hook w id count p s).value.1.arena = (move rules w id count p).value.1.arena ∧
    (hook.KeepsSlots → (carryOut rules hook w id count p s).value.1.character.equipment =
      (move rules w id count p).value.1.character.equipment) ∧
    (carryOut rules hook w id count p s).value.2.2 =
      p.outcome (move rules w id count p).value.2 := by
  have hr := Wearer.equipment_refresh rules (move rules w id count p).value.1
  cases p with
  | stow box => exact ⟨rfl, fun _ => hr, rfl⟩
  | merge slot stack => exact ⟨rfl, fun hk => (equipment_report hk _ slot _ none s).trans hr, rfl⟩
  | wear slot displaced =>
    exact ⟨rfl, fun hk => (equipment_report hk _ slot _ displaced s).trans hr, rfl⟩

/-- A request that is accepted was planned, and leaves what the move of its plan leaves. -/
theorem exists_plan_of_tryEquip {outcome : EquipOutcome}
    (h : (tryEquip rules hook w request s).value.2.2 = .ok outcome) :
    ∃ p n t, plan rules hook w request s = (.ok (p, n), t) ∧
      (tryEquip rules hook w request s).value.1.arena =
        (move rules w request.item n p).value.1.arena ∧
      (hook.KeepsSlots → (tryEquip rules hook w request s).value.1.character.equipment =
        (move rules w request.item n p).value.1.character.equipment) ∧
      outcome = p.outcome (move rules w request.item n p).value.2 := by
  unfold tryEquip at h ⊢
  split at h
  · simp [refuse] at h
  · rename_i p n t hp
    obtain ⟨h1, h2, h3⟩ := carryOut_spec rules hook w request.item n p t
    refine ⟨p, n, t, hp, h1, h2, ?_⟩
    rw [← h3]
    exact (Except.ok.inj h).symm

/-- A request that is refused had no plan, and leaves everything as it was. -/
theorem tryEquip_of_error (h : (tryEquip rules hook w request s).value.2.2 = .error e) :
    ∃ t, plan rules hook w request s = (.error e, t) ∧
      tryEquip rules hook w request s = refuse w t e := by
  unfold tryEquip at h
  split at h
  · rename_i refusal t hp
    obtain rfl : refusal = e := Except.error.inj h
    exact ⟨t, hp, tryEquip_of_plan_error hp⟩
  · exact absurd h (by simp)

/-- What is known of a slot from which something is taken off. -/
theorem cases_of_planRemoval (h : planRemoval rules hook w slot count s = (.ok id, t)) :
    w.character.equipment.get slot = some id ∧ 0 < count ∧
      ∃ item type, rules.resolve? w.arena id = some (item, type) ∧
        (type.stackable = true → count ≤ item.count) := by
  unfold planRemoval at h
  split at h
  · simp at h
  · rename_i worn hg
    split at h
    · simp at h
    · rename_i hq
      simp only at h
      split_ifs at h
      · simp only [Prod.mk.injEq, Except.ok.injEq] at h
        obtain ⟨rfl, -⟩ := h
        unfold queryRemove at hq
        split at hq
        · rename_i item type _ hr
          split_ifs at hq with hc
          simp only [Bool.or_eq_true, Bool.and_eq_true, decide_eq_true_eq, not_or, not_and,
            Nat.not_lt] at hc
          exact ⟨hg, Nat.pos_of_ne_zero hc.1, item, type, hr, hc.2⟩
        · simp at hq
      · simp at h

/-- Taking off what may be taken off: the item is taken, all is brought up to date, and the hook
hears of it. -/
theorem value_tryUnequip_of_plan (rules : Rules)
    (h : planRemoval rules hook w slot count s = (.ok id, t)) :
    (tryUnequip rules hook w slot count s).value =
      (let taken := (w.takeFrom id count).value
       let rest := (taken.1.refresh rules).value
       let heard := hook.onUnequip rest.character taken.2 slot t
       ({ rest with character := heard.1 }, heard.2, .ok taken.2)) := by
  unfold tryUnequip
  rw [h]
  simp only [Told.value_bind]
  split_ifs <;> rfl

/-- What is taken off is followed by the update and, of a stack, by what is left in the slot. -/
theorem notices_tryUnequip_of_plan (rules : Rules)
    (h : planRemoval rules hook w slot count s = (.ok id, t)) :
    (tryUnequip rules hook w slot count s).notices = (w.takeFrom id count).notices ++
      (((w.takeFrom id count).value.1.refresh rules).notices ++
        if (w.takeFrom id count).value.2 ≠ id then [.inventorySlot slot (some id)] else []) := by
  unfold tryUnequip
  rw [h]
  simp only [Told.notices_bind]
  split_ifs <;> simp

/-- A removal that is accepted was planned, and leaves what taking the item leaves. -/
theorem exists_plan_of_tryUnequip {taken : ItemId}
    (h : (tryUnequip rules hook w slot count s).value.2.2 = .ok taken) :
    ∃ id t, planRemoval rules hook w slot count s = (.ok id, t) ∧
      (tryUnequip rules hook w slot count s).value.1.arena = (w.takeFrom id count).value.1.arena ∧
      (hook.KeepsSlots → (tryUnequip rules hook w slot count s).value.1.character.equipment =
        (w.takeFrom id count).value.1.character.equipment) ∧
      taken = (w.takeFrom id count).value.2 := by
  cases hp : planRemoval rules hook w slot count s with
  | mk result t =>
    cases result with
    | error refusal =>
      unfold tryUnequip at h
      rw [hp] at h
      simp [refuse] at h
    | ok id =>
      have hv := value_tryUnequip_of_plan rules hp
      rw [hv] at h ⊢
      refine ⟨id, t, rfl, rfl, fun hk => ?_, (Except.ok.inj h).symm⟩
      exact (hk.onUnequip _ _ _ _).trans (Wearer.equipment_refresh rules _)

theorem tryUnequip_of_error (h : (tryUnequip rules hook w slot count s).value.2.2 = .error e) :
    ∃ t, planRemoval rules hook w slot count s = (.error e, t) ∧
      tryUnequip rules hook w slot count s = refuse w t e := by
  cases hp : planRemoval rules hook w slot count s with
  | mk result t =>
    cases result with
    | error refusal =>
      unfold tryUnequip at h ⊢
      rw [hp] at h ⊢
      obtain rfl : refusal = e := Except.error.inj h
      exact ⟨t, rfl, rfl⟩
    | ok id =>
      rw [value_tryUnequip_of_plan rules hp] at h
      exact absurd h (by simp)

end Adventurer.Dressing
