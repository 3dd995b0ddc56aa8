import Adventurer.Proofs.Dressing.Burden

/-!
# What capacity promises

An item from outside is let in only if its weight fits into the capacity that is free once the item in its
way has gone, so that an accepted request never makes the inventory heavier than the capacity, unless it
was that heavy before (`inventoryWeight_le_of_tryEquip`).
-/

namespace Adventurer

open Wearer

variable {σ : Type} {rules : Rules} {types : ItemLookup} {hook : EquipHook σ} {c : Character} {a : Arena}
  {w : Wearer} {request : EquipRequest} {id : ItemId} {source item : Item} {type : ItemType} {slot : Slot}
  {count n : Nat} {hand done : Wearer × ItemId} {p : Dressing.Plan} {s t : σ}

/-- The hook's reports leave the weight of the inventory as it is. -/
structure EquipHook.KeepsWeight (hook : EquipHook σ) : Prop where
  onEquip : ∀ c id slot s, (hook.onEquip c id slot s).1.inventoryWeight = c.inventoryWeight
  onUnequip : ∀ c id slot s, (hook.onUnequip c id slot s).1.inventoryWeight = c.inventoryWeight

theorem EquipHook.keepsWeight_idle : EquipHook.idle.KeepsWeight :=
  ⟨fun _ _ _ _ => rfl, fun _ _ _ _ => rfl⟩

theorem Rules.itemType?_eq (h : rules.items = some types) : rules.itemType? = types := by
  funext kind
  simp [itemType?, h]

theorem Rules.exists_items {kind : ItemTypeId} (h : rules.itemType? kind = some type) :
    ∃ types, rules.items = some types := by
  cases hitems : rules.items with
  | none => rw [itemType?, hitems] at h; cases h
  | some types => exact ⟨types, rfl⟩

/-! ## The weight afterwards -/

theorem Wearer.inventoryWeight_refresh (rules : Rules) (w : Wearer) :
    (w.refresh rules).value.character.inventoryWeight =
      Dressing.inventoryWeight rules w.character w.arena := by
  obtain ⟨p, hp⟩ := Passives.onlyPassives_onCombatTick rules w.arena true
    { w.character with inventoryWeight := Dressing.inventoryWeight rules w.character w.arena }
  show (Passives.onCombatTick rules w.arena true _).value.1.inventoryWeight = _
  rw [hp]

theorem Dressing.inventoryWeight_report (hk : hook.KeepsWeight) (w : Wearer) (slot : Slot) (placed : ItemId)
    (displaced : Option ItemId) (s : σ) :
    (report hook w slot placed displaced s).value.1.character.inventoryWeight =
      w.character.inventoryWeight := by
  cases displaced with
  | none => exact hk.onEquip _ _ _ _
  | some other => exact (hk.onEquip _ _ _ _).trans (hk.onUnequip _ _ _ _)

/-- After a request that is planned the weight is that of what the move has left. -/
theorem Dressing.inventoryWeight_tryEquip (hk : hook.KeepsWeight)
    (h : plan rules hook w request s = (.ok (p, n), t)) :
    (tryEquip rules hook w request s).value.1.character.inventoryWeight =
      inventoryWeight rules (move rules w request.item n p).value.1.character
        (move rules w request.item n p).value.1.arena := by
  have hrefresh := Wearer.inventoryWeight_refresh rules (move rules w request.item n p).value.1
  unfold tryEquip
  rw [h]
  cases p with
  | stow box => exact hrefresh
  | merge slot stack => exact (inventoryWeight_report hk _ slot _ none t).trans hrefresh
  | wear slot displaced => exact (inventoryWeight_report hk _ slot _ displaced t).trans hrefresh

/-- The weight of the inventory is its burden up to the end of its width. -/
theorem Wearer.inventoryWeight_eq_burden (hitems : rules.items = some types) (h : w.arena.Acyclic)
    (hknown : w.arena.Every fun item => (rules.itemType? item.type).isSome) :
    Dressing.inventoryWeight rules w.character w.arena = min max32 (w.burden (heft rules)) := by
  have htypes := Rules.itemType?_eq hitems
  unfold Dressing.inventoryWeight
  rw [hitems]
  simp only
  rw [← htypes]
  have hle : w.character.equipment.items.foldl
      (fun sum root => addUpTo max32 sum (w.arena.totalWeight rules.itemType? root)) 0 ≤ max32 :=
    foldl_addUpTo_le (Nat.zero_le max32)
  rw [← Nat.min_eq_right hle, min_foldl_addUpTo (rfl : min max32 0 = min max32 0)
    fun root _ => h.min_totalWeight hknown root, Nat.zero_add]
  rfl

/-! ## Types stay known -/

section Types

variable {Q : ItemTypeId → Prop}

theorem Wearer.Taken.every_type (ht : Taken w id source count hand) (hs : w.arena.Sound)
    (hl : w.arena.get? id = some source) (h : w.arena.Every fun item => Q item.type) :
    hand.1.arena.Every fun item => Q item.type := by
  cases ht with
  | part => exact (sound_rest hs id count).every_insert (h.modify fun item hi => h id item hi) (h id source hl)
  | worn => exact h
  | packed => exact h.modify fun item hi => h _ item hi
  | loose => exact h

theorem Wearer.Landed.every_type (hland : Landed rules w id source type count hand p done)
    (h : hand.1.arena.Every fun item => Q item.type) : done.1.arena.Every fun item => Q item.type := by
  cases hland with
  | worn => exact h
  | joined =>
    have hleft : (hand.1.arena.remove hand.2).Every fun item => Q item.type :=
      fun x item hx => h x item (Arena.get?_of_get?_remove hx)
    exact hleft.modify fun item hi => hleft _ item hi
  | listed => exact h.modify fun item hi => h _ item hi

end Types

/-! ## What the checks have established -/

/-- What a placement pushes out of its slot. -/
def Placement.displaced : Placement → Option ItemId
  | .exchange _ other => some other
  | .accepted _ | .stored _ => none

namespace Dressing

theorem hasCapacity_of_placeInSlot {placement : Placement} (hitems : rules.items = some types)
    (h : placeInSlot rules c a id item type slot count = .ok placement) :
    hasCapacity rules c a id count (placement.displaced.elim 0 (a.totalWeight types)) = true := by
  have hplacement := eq_of_placeInSlot_eq_ok h
  unfold placeInSlot at h
  rw [hitems] at h
  split_ifs at h
  split at h
  · cases h
  · cases ho : obstacle? c a id item type slot with
    | none =>
      rw [ho] at h hplacement
      simp only at h
      split_ifs at h with hcapacity
      rw [hplacement]
      simpa [Placement.displaced] using hcapacity
    | some other =>
      rw [ho] at h hplacement
      simp only at h
      split_ifs at h with hcapacity
      rw [hplacement]
      simpa [Placement.displaced] using hcapacity

theorem hasCapacity_of_queryAdd {placement : Placement} {target : SlotTarget}
    (hitems : rules.items = some types) (h : queryAdd rules c a id target count = .ok placement) :
    hasCapacity rules c a id count (placement.displaced.elim 0 (a.totalWeight types)) = true := by
  unfold queryAdd at h
  split at h
  · cases h
  · split at h
    · cases h
    · split at h
      · exact hasCapacity_of_placeInSlot hitems h
      · split at h
        · exact hasCapacity_of_placeInSlot hitems h
        · split_ifs at h with hcapacity
          rw [← Except.ok.inj h]
          exact hcapacity
        · cases h

theorem displaced_of_planSlot {displaced : Option ItemId}
    (h : planSlot rules w id count slot displaced = .ok p) : p.displaced = displaced := by
  unfold planSlot at h
  split at h
  · split_ifs at h
    · rw [← Except.ok.inj h]
      rfl
    · cases hm : queryMaxCount rules w.character w.arena id (.named slot) count with
      | error refusal => rw [hm] at h; cases h
      | ok room =>
        rw [hm] at h
        rw [← Except.ok.inj h]
        rfl
  · rw [← Except.ok.inj h]
    rfl

/-- A request that is planned has found the capacity for the item, with what is pushed out gone. -/
theorem hasCapacity_of_plan (hitems : rules.items = some types)
    (h : plan rules hook w request s = (.ok (p, n), t)) :
    hasCapacity rules w.character w.arena request.item n
      (p.displaced.elim 0 (w.arena.totalWeight types)) = true := by
  unfold plan at h
  split at h
  · cases h
  · rename_i item type hr
    simp only at h
    split at h
    · cases h
    · cases hq : queryAdd rules w.character w.arena request.item request.target
          (movedCount type request) with
      | error refusal => rw [hq] at h; cases h
      | ok placement =>
        have hcapacity := hasCapacity_of_queryAdd hitems hq
        rw [hq] at h
        cases placement with
        | stored box =>
          simp only [Prod.mk.injEq, Except.ok.injEq] at h
          obtain ⟨⟨rfl, rfl⟩, -⟩ := h
          exact hcapacity
        | accepted slot =>
          obtain ⟨rfl, hslot⟩ := planSlot_of_planned h
          rw [displaced_of_planSlot hslot]
          exact hcapacity
        | exchange slot other =>
          obtain ⟨rfl, hslot⟩ := planSlot_of_planned h
          rw [displaced_of_planSlot hslot]
          exact hcapacity

/-- An item that is not carried was let in for its weight. -/
theorem movedWeight_le {freed : Nat} (hitems : rules.items = some types)
    (hr : rules.resolve? a id = some (item, type)) (hflag : c.flags.has .hasInfiniteCapacity = false)
    (hn : isCarried c a id = false) (h : hasCapacity rules c a id count freed = true) :
    movedWeight types a id item type count ≤ addUpTo max32 (c.capacity - c.inventoryWeight) freed := by
  unfold hasCapacity at h
  rw [hitems, hr, hflag, hn] at h
  simp only [Bool.or_self, Bool.false_eq_true, if_false] at h
  split_ifs at h with hpickup
  rw [decide_eq_true_eq] at h
  unfold Character.freeCapacity at h
  rwa [hflag, if_neg (by simp)] at h

/-- What is pushed out was worn. -/
theorem get_of_displaced {other : ItemId} (hp : Planned rules w request item type count p)
    (h : p.displaced = some other) : ∃ slot, w.character.equipment.get slot = some other := by
  cases hp with
  | fill => cases h
  | again => cases h
  | exchange hslot =>
    obtain rfl := Option.some.inj h
    exact ⟨_, hslot⟩
  | merge => cases h
  | stow => cases h

/-- With what was pushed out gone, an item from outside that was let in leaves the burden within the
capacity. -/
theorem burden_le_of_hasCapacity (ho : w.Orderly rules)
    (hr : rules.resolve? w.arena request.item = some (source, type))
    (hp : Planned rules w request source type count p) (ht : Taken w request.item source count hand)
    (hland : Landed rules w request.item source type count hand p done) (hle : count ≤ source.count)
    (hpart : count < source.count → type.stackable = true) (hn : ¬ w.Carries request.item)
    (hflag : w.character.flags.has .hasInfiniteCapacity = false) (hitems : rules.items = some types)
    (hcapacity : hasCapacity rules w.character w.arena request.item count
      (p.displaced.elim 0 (w.arena.totalWeight types)) = true)
    (hweight : w.character.inventoryWeight = min max32 (w.burden (heft rules))) :
    min max32 (done.1.burden (heft rules)) ≤
      max w.character.capacity (min max32 (w.burden (heft rules))) := by
  obtain ⟨hl, htype⟩ := Rules.get?_of_resolve? hr
  have hload := ht.load_le_movedWeight ho hn hl htype hle hpart
  have hafter := hland.burden_le ho ht hl hle htype hp
  have hmoved := movedWeight_le hitems hr hflag
    (by rw [← Bool.not_eq_true, isCarried_iff]; exact hn) hcapacity
  rw [ht.burden_of_not_carries ho hn] at hafter
  rw [hweight] at hmoved
  rw [Rules.itemType?_eq hitems] at hload
  cases hd : p.displaced with
  | none =>
    rw [hd] at hafter hmoved
    simp only [Option.elim_none, addUpTo] at hafter hmoved
    omega
  | some other =>
    -- what is pushed out weighs no more than all that was worn
    obtain ⟨slot, hslot⟩ := get_of_displaced hp hd
    have hfreed := ho.min_totalWeight other
    have hsame := (ht.same_of_not_carries ho hn (f := heft rules)).2 other
      ⟨slot, other, hslot, Arena.Reaches.refl _ _⟩
    have hworn : w.arena.load (heft rules) other ≤ w.burden (heft rules) :=
      List.le_sum_of_mem (List.mem_map_of_mem (Equipment.mem_items.mpr ⟨slot, hslot⟩))
    rw [Rules.itemType?_eq hitems] at hfreed
    rw [hd] at hafter hmoved
    simp only [Option.elim_some, addUpTo, hsame] at hafter hmoved
    omega

/-- **Equipping never overloads.**  For a character that is not freed from capacity, in an orderly state in
which the weight of the inventory is known: an accepted request leaves an inventory no heavier than the
capacity, or than it was before. -/
theorem inventoryWeight_le_of_tryEquip (rules : Rules) (hook : EquipHook σ) (w : Wearer)
    (request : EquipRequest) (s : σ) {outcome : EquipOutcome} (hk : hook.KeepsWeight) (ho : w.Orderly rules)
    (hweight : w.character.inventoryWeight = inventoryWeight rules w.character w.arena)
    (hflag : w.character.flags.has .hasInfiniteCapacity = false)
    (hok : (tryEquip rules hook w request s).value.2.2 = .ok outcome) :
    (tryEquip rules hook w request s).value.1.character.inventoryWeight ≤
      max w.character.capacity w.character.inventoryWeight := by
  obtain ⟨p, n, t, hplan, -⟩ := exists_plan_of_tryEquip hok
  obtain ⟨source, type, hr, rfl, hpos, hle, hplanned⟩ := planned_of_plan hplan
  obtain ⟨hand, htaken, hlanded⟩ := exists_hand_of_move hr hplanned
  obtain ⟨hl, htype⟩ := Rules.get?_of_resolve? hr
  obtain ⟨types, hitems⟩ := Rules.exists_items htype
  have hpart := ho.stackable_of_lt hl htype hpos
  have hbefore := inventoryWeight_eq_burden hitems ho.acyclic ho.known
  have hafter := inventoryWeight_eq_burden hitems (hlanded.acyclic htaken hplanned ho.acyclic)
    (hlanded.every_type (Q := fun kind => (rules.itemType? kind).isSome)
      (htaken.every_type (Q := fun kind => (rules.itemType? kind).isSome) ho.sound hl ho.known))
  rw [inventoryWeight_tryEquip hk hplan, hafter, hweight, hbefore]
  by_cases hc : w.Carries request.item
  · -- what was carried only changes its place
    have htake := htaken.burden_add_load_le ho htype hl hc hpart
    have hland := hlanded.burden_le ho htaken hl hle htype hplanned
    omega
  · exact burden_le_of_hasCapacity ho hr hplanned htaken hlanded hle hpart hc hflag hitems
      (hasCapacity_of_plan hitems hplan) (hweight.trans hbefore)

/-! ## A helmet for a cap -/

/-- A cap on the head, a helmet on the ground and room for ten pounds. -/
def capWearer : Wearer where
  character := { id := ⟨1⟩, name := "Tester", capacity := 10, inventoryWeight := 6,
                 equipment := Equipment.empty.wear .head ⟨0, 0⟩ }
  arena := ((Arena.empty.insert ⟨⟨1⟩, 1, 0, []⟩).1.insert ⟨⟨2⟩, 1, 0, []⟩).1

/-- A cap weighs six pounds and a helmet eight. -/
def helmetRules : Rules where
  items := some fun kind => some { weight := if kind = ⟨1⟩ then 6 else 8, positions := ⟨1⟩ }

theorem orderly_capWearer : capWearer.Orderly helmetRules where
  sound := (Arena.sound_empty.insert _).insert _
  acyclic := (Arena.acyclic_empty.of_lists fun _ _ => Arena.lists_of_insert rfl).of_lists
    fun _ _ => Arena.lists_of_insert rfl
  live x hx := by
    have hnamings : capWearer.namings x = [(⟨0, 0⟩ : ItemId)].count x := by
      show [(⟨0, 0⟩ : ItemId)].count x + (0 + (0 + 0)) = _
      omega
    rw [hnamings, List.count_pos_iff, List.mem_singleton] at hx
    exact ⟨⟨⟨1⟩, 1, 0, []⟩, by rw [hx]; rfl⟩
  owned x item _ := by
    have hone : [(⟨0, 0⟩ : ItemId)].count x ≤ 1 := List.count_le_length
    show [(⟨0, 0⟩ : ItemId)].count x + (0 + (0 + 0)) ≤ 1
    omega
  proper := by
    have hplain : ∀ kind, helmetRules.Proper ⟨kind, 1, 0, []⟩ := fun kind =>
      ⟨_, rfl, fun _ => rfl, fun h => absurd rfl h⟩
    have hs := Arena.sound_empty.insert ⟨⟨1⟩, 1, 0, []⟩
    exact hs.every_insert (Arena.sound_empty.every_insert Arena.every_empty (hplain _)) (hplain _)

theorem inventoryWeight_le_of_tryEquip_capWearer :
    capWearer.Orderly helmetRules ∧
      (tryEquip helmetRules .idle capWearer ⟨⟨1, 0⟩, .named .head, 1⟩ ()).value.2.2 =
        .ok ⟨⟨1, 0⟩, .slot .head, some ⟨0, 0⟩⟩ ∧
      (tryEquip helmetRules .idle capWearer ⟨⟨1, 0⟩, .named .head, 1⟩ ()).value.1.character.inventoryWeight ≤
        max 10 6 := by
  have hok : (tryEquip helmetRules .idle capWearer ⟨⟨1, 0⟩, .named .head, 1⟩ ()).value.2.2 =
      .ok ⟨⟨1, 0⟩, .slot .head, some ⟨0, 0⟩⟩ := by decide
  exact ⟨orderly_capWearer, hok, inventoryWeight_le_of_tryEquip helmetRules .idle capWearer _ ()
    EquipHook.keepsWeight_idle orderly_capWearer rfl rfl hok⟩

end Dressing

end Adventurer
