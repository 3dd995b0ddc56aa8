import Adventurer.Proofs.Dressing.Conservation
import Adventurer.Proofs.Dressing.Nesting
import Adventurer.Proofs.Equipment

/-!
# The preferred destination

Where an item lands is searched for in one pass over the slots and then breadth first through the containers.
The order of preference is: a worn stack that the item can join, a free slot, a container with a stack that
it can join, any container.  Here the order is written out (`preferred?`) without the search, which leaves
it only where a free slot comes before all the stacks (`PassesBy`).
-/

namespace Adventurer

/-- The slot is searched before the other one. -/
def Slot.Before (slot other : Slot) : Prop := Enumerated.index slot < Enumerated.index other

theorem Slot.pairwise_all : Slot.all.Pairwise Slot.Before := by
  unfold Slot.Before
  decide

namespace Dressing

section Lists

variable {α : Type} {r : α → α → Prop} {p q : α → Bool}

/-- Of two tests that exclude each other: the first in a list in order to pass either is the first to pass `p`,
or else the first to pass `q`, unless something that passes `q` comes before all that pass `p`. -/
theorem find?_or_iff (hasymm : ∀ x y, r x y → ¬ r y x) (hpq : ∀ x, p x = true → q x = false) :
    ∀ {l : List α}, l.Pairwise r →
      (l.find? (fun x => p x || q x) = (l.find? p).or (l.find? q) ↔
        ¬ ∃ x ∈ l, q x = true ∧ (∃ y ∈ l, p y = true) ∧ ∀ y ∈ l, p y = true → r x y)
  | [], _ => by simp
  | x :: l, h => by
    obtain ⟨hx, hl⟩ := List.pairwise_cons.mp h
    cases hp : p x with
    | true =>
      refine iff_of_true (by simp [hp]) ?_
      rintro ⟨y, hy, hqy, -, hall⟩
      have hyx := hall x List.mem_cons_self hp
      rcases List.mem_cons.mp hy with rfl | hmem
      · rw [hpq y hp] at hqy
        cases hqy
      · exact hasymm _ _ hyx (hx y hmem)
    | false =>
      cases hq : q x with
      | true =>
        cases hfind : l.find? p with
        | none =>
          refine iff_of_true (by simp [hp, hq, hfind]) ?_
          rintro ⟨-, -, -, ⟨y, hy, hpy⟩, -⟩
          rcases List.mem_cons.mp hy with rfl | hmem
          · rw [hp] at hpy
            cases hpy
          · exact List.find?_eq_none.mp hfind y hmem hpy
        | some y =>
          have hpy := List.find?_some hfind
          have hne : ∀ {z}, p z = true → z ≠ x := fun hpz he => by simp [he, hp] at hpz
          refine iff_of_false ?_ (not_not.mpr ?_)
          · simpa [hp, hq, hfind] using (hne hpy).symm
          · refine ⟨x, List.mem_cons_self, hq, ⟨y, ?_, hpy⟩, fun z hz hpz => ?_⟩
            · exact List.mem_cons_of_mem x (List.mem_of_find?_eq_some hfind)
            · exact hx z ((List.mem_cons.mp hz).resolve_left (hne hpz))
      | false =>
        simpa [hp, hq] using find?_or_iff hasymm hpq hl

end Lists

variable {rules : Rules} {c : Character} {a : Arena} {id box : ItemId} {item : Item} {type : ItemType}
  {slot : Slot}

/-! ## Slots -/

/-- The slot holds another stack of the same type with room, and takes the whole item. -/
def joins (rules : Rules) (c : Character) (a : Arena) (id : ItemId) (item : Item) (type : ItemType)
    (slot : Slot) : Bool :=
  type.stackable && (c.equipment.get slot).any (isOpenStack a id item.type) &&
    slotAccepts rules c a id item type item.count slot

/-- The slot is free and takes the whole item. -/
def fills (rules : Rules) (c : Character) (a : Arena) (id : ItemId) (item : Item) (type : ItemType)
    (slot : Slot) : Bool :=
  c.equipment.isFree slot && slotAccepts rules c a id item type item.count slot

theorem isDestination_eq : isDestination rules c a id item type =
    fun slot => joins rules c a id item type slot || fills rules c a id item type slot := by
  funext slot
  unfold isDestination joins fills Equipment.isFree
  cases c.equipment.get slot <;> simp

theorem fills_eq_false (h : joins rules c a id item type slot = true) :
    fills rules c a id item type slot = false := by
  unfold joins at h
  unfold fills Equipment.isFree
  cases hg : c.equipment.get slot with
  | none => simp [hg] at h
  | some occupant => rfl

/-- A free slot that takes the item comes before every stack that the item can join. -/
def PassesBy (rules : Rules) (c : Character) (a : Arena) (id : ItemId) (item : Item) (type : ItemType) :
    Prop :=
  ∃ free, fills rules c a id item type free = true ∧ (∃ stack, joins rules c a id item type stack = true) ∧
    ∀ stack, joins rules c a id item type stack = true → free.Before stack

/-- The slot that an item prefers: the first with a stack that it can join, and else the first free one. -/
def preferredSlot? (rules : Rules) (c : Character) (a : Arena) (id : ItemId) (item : Item) (type : ItemType) :
    Option Slot :=
  (Slot.all.find? (joins rules c a id item type)).or (Slot.all.find? (fills rules c a id item type))

/-- One pass over the slots finds the preferred one, unless it passes by the stacks. -/
theorem find?_isDestination_iff : Slot.all.find? (isDestination rules c a id item type) =
    preferredSlot? rules c a id item type ↔ ¬ PassesBy rules c a id item type := by
  have hiff := find?_or_iff (r := Slot.Before) (p := joins rules c a id item type)
    (q := fills rules c a id item type) (fun _ _ h h' => lt_asymm h h') (fun _ => fills_eq_false)
    Slot.pairwise_all
  rw [isDestination_eq, preferredSlot?, hiff, PassesBy]
  simp only [Slot.mem_all, true_and, true_implies]

/-- A pass that does so finds the first free slot. -/
theorem find?_isDestination_of_passesBy (h : PassesBy rules c a id item type) :
    ∃ free, Slot.all.find? (isDestination rules c a id item type) = some free ∧
      Slot.all.find? (fills rules c a id item type) = some free := by
  obtain ⟨free, hfree, -, hbefore⟩ := h
  have hiff := find?_or_iff (r := Slot.Before) (p := fills rules c a id item type)
    (q := joins rules c a id item type) (fun _ _ h h' => lt_asymm h h')
    (fun slot hfills => by
      by_contra hjoins
      rw [fills_eq_false (Bool.eq_true_of_not_eq_false hjoins)] at hfills
      cases hfills)
    Slot.pairwise_all
  have hfirst := hiff.mpr fun ⟨stack, _, hstack, _, hall⟩ =>
    lt_asymm (hbefore stack hstack) (hall free (Slot.mem_all free) hfree)
  obtain ⟨found, hfound⟩ := Option.isSome_iff_exists.mp
    (List.find?_isSome.mpr ⟨free, Slot.mem_all free, hfree⟩)
  refine ⟨found, ?_, hfound⟩
  rw [isDestination_eq]
  simp only [Bool.or_comm (joins rules c a id item type _)]
  rw [hfirst, hfound, Option.some_or]

theorem find?_isDestination_eq_none_iff : Slot.all.find? (isDestination rules c a id item type) = none ↔
    ∀ slot, joins rules c a id item type slot = false ∧ fills rules c a id item type slot = false := by
  simp only [List.find?_eq_none, isDestination_eq, Bool.not_eq_true, Bool.or_eq_false_iff, Slot.mem_all,
    true_implies]

/-! ## Containers -/

/-- The container lists a stack that the item can join. -/
def hasRoom (a : Arena) (id : ItemId) (item : Item) (type : ItemType) (box : ItemId) : Bool :=
  type.stackable && ((a.get? box).elim [] (·.contents)).any (isOpenStack a id item.type)

/-- The containers from a level on that do not lie inside the item, those of a level before what is inside
them. -/
def outside (rules : Rules) (a : Arena) (id : ItemId) : Nat → List ItemId → List ItemId
  | 0, _ => []
  | depth + 1, level =>
    (level.filter fun box => !a.isWithin id box) ++ outside rules a id depth (nextLevel rules a id level)

/-- The search finds the first container with a stack to join, and else the first of all. -/
theorem searchContainers_eq_or : ∀ (depth : Nat) (level : List ItemId) (first : Option ItemId),
    searchContainers rules a id item type depth level first =
      ((outside rules a id depth level).find? (hasRoom a id item type)).or
        (first.or (outside rules a id depth level).head?)
  | 0, _, first => by simp [searchContainers, outside]
  | depth + 1, level, first => by
    have ih := searchContainers_eq_or depth (nextLevel rules a id level)
      (first.or (level.filter fun box => !a.isWithin id box).head?)
    unfold outside
    rw [searchContainers, List.find?_append, List.head?_append]
    simp only
    split
    · next box hbox =>
      have hfound : (level.filter fun box => !a.isWithin id box).find? (hasRoom a id item type) = some box :=
        hbox
      rw [hfound]
      rfl
    · next hnone =>
      have hfound : (level.filter fun box => !a.isWithin id box).find? (hasRoom a id item type) = none :=
        hnone
      rw [hfound, Option.none_or]
      exact ih.trans (by rw [Option.or_assoc])

theorem mem_outside_iff : ∀ {depth : Nat} {level : List ItemId}, box ∈ outside rules a id depth level ↔
    ∃ k < depth, box ∈ (nextLevel rules a id)^[k] level ∧ ¬ a.Reaches id box
  | 0, level => by simp [outside]
  | depth + 1, level => by
    rw [outside, List.mem_append, mem_outside_iff, List.mem_filter, ← Arena.isWithin_iff]
    constructor
    · rintro (⟨hbox, hout⟩ | ⟨k, hk, hbox, hout⟩)
      · exact ⟨0, Nat.succ_pos depth, hbox, by simpa using hout⟩
      · exact ⟨k + 1, Nat.succ_lt_succ hk, hbox, hout⟩
    · rintro ⟨k, hk, hbox, hout⟩
      cases k with
      | zero => exact .inl ⟨hbox, by simpa using hout⟩
      | succ k => exact .inr ⟨k, Nat.lt_of_succ_lt_succ hk, hbox, hout⟩

/-- What is found in the order of the levels passes the test, and nothing on a level before does. -/
theorem exists_level_of_find? {p : ItemId → Bool} : ∀ {depth : Nat} {level : List ItemId},
    (outside rules a id depth level).find? p = some box →
    ∃ k, box ∈ (nextLevel rules a id)^[k] level ∧ ¬ a.Reaches id box ∧ p box = true ∧
      ∀ j < k, ∀ other ∈ (nextLevel rules a id)^[j] level, ¬ a.Reaches id other → p other = false
  | 0, level, h => by simp [outside] at h
  | depth + 1, level, h => by
    have hmem : ∀ {other}, other ∈ level.filter (fun box => !a.isWithin id box) ↔
        other ∈ level ∧ ¬ a.Reaches id other := by
      intro other
      rw [List.mem_filter, ← Arena.isWithin_iff, Bool.not_eq_true', Bool.not_eq_true]
    rw [outside, List.find?_append] at h
    cases hfirst : (level.filter fun box => !a.isWithin id box).find? p with
    | some found =>
      rw [hfirst] at h
      obtain rfl := Option.some.inj h
      obtain ⟨hlevel, hout⟩ := hmem.mp (List.mem_of_find?_eq_some hfirst)
      exact ⟨0, hlevel, hout, List.find?_some hfirst, fun j hj => absurd hj (Nat.not_lt_zero j)⟩
    | none =>
      rw [hfirst, Option.none_or] at h
      obtain ⟨k, hk, hout, hp, hbefore⟩ := exists_level_of_find? h
      refine ⟨k + 1, hk, hout, hp, fun j hj other hother hoth => ?_⟩
      cases j with
      | zero => simpa using List.find?_eq_none.mp hfirst other (hmem.mpr ⟨hother, hoth⟩)
      | succ j => exact hbefore j (Nat.lt_of_succ_lt_succ hj) other hother hoth

/-- A container that is worn, or lies in a worn one with so many containers around it. -/
inductive Opens (rules : Rules) (c : Character) (a : Arena) : Nat → ItemId → Prop
  | worn {slot : Slot} {box : ItemId} (h : c.equipment.get slot = some box)
    (hbox : isContainer rules a box = true) : Opens rules c a 0 box
  | inside {k : Nat} {outer box : ItemId} (h : Opens rules c a k outer) (hl : a.Lists outer box)
    (hbox : isContainer rules a box = true) : Opens rules c a (k + 1) box

theorem opens_of_mem_level : ∀ {k : Nat} {box : ItemId},
    box ∈ (nextLevel rules a id)^[k] (wornContainers rules c a id) → Opens rules c a k box
  | 0, box, h => by
    obtain ⟨hworn, hbox⟩ := List.mem_filter.mp h
    obtain ⟨slot, hslot⟩ := Equipment.mem_items.mp hworn
    exact .worn hslot (Bool.and_eq_true_iff.mp hbox).2
  | k + 1, box, h => by
    rw [Function.iterate_succ_apply'] at h
    obtain ⟨hbox, outer, houter, -, hl⟩ := mem_nextLevel.mp h
    exact .inside (opens_of_mem_level houter) hl hbox

/-- What can be opened is on its level, unless it lies inside the item. -/
theorem Opens.mem_level {k : Nat} (h : Opens rules c a k box) (hout : ¬ a.Reaches id box) :
    box ∈ (nextLevel rules a id)^[k] (wornContainers rules c a id) := by
  induction h with
  | @worn slot box hslot hbox =>
    have hne : box ≠ id := fun he => hout (he ▸ Arena.Reaches.refl a box)
    exact List.mem_filter.mpr ⟨Equipment.mem_items.mpr ⟨slot, hslot⟩, by simp [hne, hbox]⟩
  | @inside k outer box _ hl hbox ih =>
    have houter : ¬ a.Reaches id outer := fun hr => hout (hr.tail hl)
    rw [Function.iterate_succ_apply']
    exact mem_nextLevel.mpr ⟨hbox, outer, ih houter, houter, hl⟩

/-- The containers among which an item chooses, in the order in which it does. -/
def openable (rules : Rules) (c : Character) (a : Arena) (id : ItemId) : List ItemId :=
  outside rules a id a.cells.length (wornContainers rules c a id)

/-- In an arena without cycles those are all that can be opened, but for what lies inside the item. -/
theorem mem_openable_iff (h : a.Acyclic) : box ∈ openable rules c a id ↔
    (∃ k, Opens rules c a k box) ∧ ¬ a.Reaches id box := by
  unfold openable
  rw [mem_outside_iff]
  constructor
  · rintro ⟨k, -, hbox, hout⟩
    exact ⟨⟨k, opens_of_mem_level hbox⟩, hout⟩
  · rintro ⟨⟨k, hopens⟩, hout⟩
    have hk := hopens.mem_level hout
    refine ⟨k, ?_, hk, hout⟩
    by_contra hge
    -- the levels have run out before
    have hend := (searchesEnd (w := ⟨c, a⟩) rules h).levels id
    obtain ⟨n, rfl⟩ := Nat.exists_eq_add_of_le' (Nat.le_of_not_lt hge)
    rw [Function.iterate_add_apply, hend, Function.iterate_fixed rfl] at hk
    exact List.not_mem_nil hk

/-- The container passes the test, and none that is less deep does. -/
def Shallowest (rules : Rules) (c : Character) (a : Arena) (id : ItemId) (p : ItemId → Bool)
    (box : ItemId) : Prop :=
  ∃ k, Opens rules c a k box ∧ ¬ a.Reaches id box ∧ p box = true ∧
    ∀ j < k, ∀ other, Opens rules c a j other → ¬ a.Reaches id other → p other = false

theorem shallowest_of_find? {p : ItemId → Bool} (h : (openable rules c a id).find? p = some box) :
    Shallowest rules c a id p box := by
  obtain ⟨k, hk, hout, hp, hbefore⟩ := exists_level_of_find? h
  exact ⟨k, opens_of_mem_level hk, hout, hp,
    fun j hj other hopens hoth => hbefore j hj other (hopens.mem_level hoth) hoth⟩

/-! ## The order of preference -/

/-- The container that an item prefers: the first with a stack that it can join, and else the first. -/
def preferredContainer? (rules : Rules) (c : Character) (a : Arena) (id : ItemId) (item : Item)
    (type : ItemType) : Option ItemId :=
  ((openable rules c a id).find? (hasRoom a id item type)).or (openable rules c a id).head?

/-- Where an item prefers to land: in a slot before a container. -/
def preferred? (rules : Rules) (c : Character) (a : Arena) (id : ItemId) (item : Item) (type : ItemType) :
    Option Destination :=
  ((preferredSlot? rules c a id item type).map .slot).or
    ((preferredContainer? rules c a id item type).map .container)

theorem destination?_eq (hr : rules.resolve? a id = some (item, type)) :
    destination? rules c a id = ((Slot.all.find? (isDestination rules c a id item type)).map .slot).or
      ((preferredContainer? rules c a id item type).map .container) := by
  unfold destination?
  rw [hr]
  simp only [searchContainers_eq_or, Option.none_or]
  cases Slot.all.find? (isDestination rules c a id item type) <;> rfl

/-- The container that an item prefers is the shallowest with a stack to join, and the shallowest of all if
none has one. -/
theorem shallowest_preferredContainer? (h : a.Acyclic)
    (hbox : preferredContainer? rules c a id item type = some box) :
    Shallowest rules c a id (hasRoom a id item type) box ∨
      (∀ k other, Opens rules c a k other → ¬ a.Reaches id other → hasRoom a id item type other = false) ∧
        Shallowest rules c a id (fun _ => true) box := by
  rcases Option.or_eq_some_iff.mp hbox with hfound | ⟨hnone, hhead⟩
  · exact .inl (shallowest_of_find? hfound)
  · refine .inr ⟨fun k other hopens hout => ?_, shallowest_of_find? ?_⟩
    · simpa using List.find?_eq_none.mp hnone other ((mem_openable_iff h).mpr ⟨⟨k, hopens⟩, hout⟩)
    · cases hall : openable rules c a id with
      | nil =>
        rw [hall] at hhead
        cases hhead
      | cons first rest =>
        rw [hall] at hhead
        exact hhead

theorem preferredContainer?_eq_none_iff (h : a.Acyclic) : preferredContainer? rules c a id item type = none ↔
    ∀ k box, Opens rules c a k box → a.Reaches id box := by
  have hempty : preferredContainer? rules c a id item type = none ↔ openable rules c a id = [] := by
    unfold preferredContainer?
    rw [Option.or_eq_none_iff, List.head?_eq_none_iff]
    exact and_iff_right_of_imp fun hnil => by rw [hnil]; rfl
  rw [hempty, List.eq_nil_iff_forall_not_mem]
  simp only [mem_openable_iff h, not_and_not_right, forall_exists_index]
  exact forall_comm

/-- A destination tells the slot that it names, if any. -/
theorem slot_or_container_inj {s t : Option Slot} {box : Option ItemId} :
    (s.map Destination.slot).or (box.map .container) = (t.map Destination.slot).or (box.map .container) ↔
      s = t := by
  cases s <;> cases t <;> cases box <;> simp

/-- **Where an item lands.**  In an arena without cycles an item lands where it prefers to, just if no free
slot that takes it comes before all the stacks that it can join; else it lands in the first free one.  A
container in which it lands is the shallowest with a stack to join, or the shallowest of all.  It lands
nowhere just if no slot takes it and no container outside of it can be opened. -/
theorem destination?_eq_preferred?_iff (rules : Rules) (c : Character) (a : Arena) (id : ItemId)
    (item : Item) (type : ItemType) (h : a.Acyclic) (hr : rules.resolve? a id = some (item, type)) :
    (destination? rules c a id = preferred? rules c a id item type ↔
      ¬ PassesBy rules c a id item type) ∧
    (PassesBy rules c a id item type →
      destination? rules c a id = (Slot.all.find? (fills rules c a id item type)).map .slot) ∧
    (∀ box, destination? rules c a id = some (.container box) →
      Shallowest rules c a id (hasRoom a id item type) box ∨
        (∀ k other, Opens rules c a k other → ¬ a.Reaches id other →
          hasRoom a id item type other = false) ∧ Shallowest rules c a id (fun _ => true) box) ∧
    (destination? rules c a id = none ↔
      (∀ slot, joins rules c a id item type slot = false ∧ fills rules c a id item type slot = false) ∧
        ∀ k box, Opens rules c a k box → a.Reaches id box) := by
  rw [destination?_eq hr]
  refine ⟨?_, fun hpass => ?_, fun box hbox => ?_, ?_⟩
  · rw [preferred?, slot_or_container_inj]
    exact find?_isDestination_iff
  · obtain ⟨free, hfirst, hfree⟩ := find?_isDestination_of_passesBy hpass
    rw [hfirst, hfree]
    rfl
  · refine shallowest_preferredContainer? h ?_
    cases hslot : Slot.all.find? (isDestination rules c a id item type) with
    | some slot =>
      rw [hslot] at hbox
      cases hbox
    | none =>
      rw [hslot] at hbox
      obtain ⟨found, hfound, heq⟩ := Option.map_eq_some_iff.mp hbox
      rw [hfound, Destination.container.inj heq]
  · rw [Option.or_eq_none_iff, Option.map_eq_none_iff, Option.map_eq_none_iff,
      find?_isDestination_eq_none_iff, preferredContainer?_eq_none_iff h]

theorem destination?_eq_preferred?_iff_archer :
    archer.arena.Acyclic ∧
      destination? arrowRules archer.character archer.arena ⟨1, 0⟩ = some (.slot .ammo) := by
  have h : archer.arena.Acyclic := (Arena.acyclic_empty.of_lists fun _ _ => Arena.lists_of_insert rfl).of_lists
    fun _ _ => Arena.lists_of_insert rfl
  have hiff := (destination?_eq_preferred?_iff arrowRules archer.character archer.arena ⟨1, 0⟩
    ⟨⟨1⟩, 10, 0, []⟩ { stackable := true, positions := ⟨512⟩ } h rfl).1
  refine ⟨h, (hiff.mpr ?_).trans (by decide)⟩
  rintro ⟨free, hfree, -⟩
  cases free <;> exact absurd hfree (by decide)

/-- Forty snowballs in the left hand and ten on the ground. -/
def thrower : Wearer where
  character := { id := ⟨1⟩, name := "Tester", equipment := Equipment.empty.wear .left ⟨0, 0⟩ }
  arena := ((Arena.empty.insert ⟨⟨1⟩, 40, 0, []⟩).1.insert ⟨⟨1⟩, 10, 0, []⟩).1

/-- Snowballs are held in either hand. -/
def snowballRules : Rules where
  items := some fun _ => some { stackable := true, positions := ⟨48⟩ }

/-- They land in the free right hand, although those in the left one have room for them. -/
theorem snowballs_apart :
    destination? snowballRules thrower.character thrower.arena ⟨1, 0⟩ = some (.slot .right) ∧
      preferred? snowballRules thrower.character thrower.arena ⟨1, 0⟩ ⟨⟨1⟩, 10, 0, []⟩
        { stackable := true, positions := ⟨48⟩ } = some (.slot .left) := by
  decide

end Dressing

end Adventurer
