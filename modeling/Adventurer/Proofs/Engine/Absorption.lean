import Adventurer.Proofs.Engine.Ownership

/-!
# What a hit costs

A hit goes through the slots and spends charges on the way, in an arena that changes under it, and what it
uses up is destroyed afterwards together with all that lies inside.  If no live item is named twice then each
worn item is met once and as it was before the hit (`Hit.passed`), and what is destroyed takes nothing along
that is worn elsewhere.  So the hit costs each worn item of a known type as many charges as percentages of it
apply, and nothing else changes (`absorb_spends_charges`).
-/

namespace Adventurer

variable {σ τ : Type}

/-! ## Worn items of a known type -/

namespace Wearer

variable {w : Wearer} {slot : Slot} {id : ItemId} {item : Item} {type : ItemType} {rules : Rules}

/-- The item in a slot, and its type, are known. -/
structure Wears (rules : Rules) (w : Wearer) (slot : Slot) (id : ItemId) (item : Item) (type : ItemType) :
    Prop where
  worn : w.character.equipment.get slot = some id
  known : rules.resolve? w.arena id = some (item, type)

theorem Wears.held (h : w.Wears rules slot id item type) : w.arena.get? id = some item :=
  (Rules.get?_of_resolve? h.known).1

end Wearer

/-! ## One slot after the other -/

namespace Hit

variable {rules : Rules} {c : Character} {a : Arena} {hit : Hit} {slot : Slot} {x : ItemId}

/-- The number of percentages that apply to a hit and are not zero: that of the element, and that of the
field where the hit comes from one. -/
def tolls (hit : Hit) (type : ItemType) : Nat :=
  (if type.absorb hit.combat ≠ 0 then 1 else 0) +
    if hit.field = true ∧ type.fieldAbsorb hit.combat ≠ 0 then 1 else 0

theorem length_shares (hit : Hit) (type : ItemType) : (hit.shares type).length = hit.tolls type := by
  unfold shares tolls
  cases hit.field <;> by_cases h : type.absorb hit.combat = 0 <;>
    by_cases h' : type.fieldAbsorb hit.combat = 0 <;> simp [h, h']

/-- What an item has to pay if it is worn: nothing where its type is not known. -/
def tollOf (rules : Rules) (a : Arena) (hit : Hit) (id : ItemId) : Nat :=
  (rules.resolve? a id).elim 0 fun known => hit.tolls known.2

/-- The hit uses up the charges of the item in a slot. -/
def usesUp (rules : Rules) (a : Arena) (e : Equipment) (hit : Hit) (slot : Slot) : Bool :=
  ((e.get slot).bind (rules.resolve? a)).any fun known => exhausts (hit.tolls known.2) known.1

theorem map_spend_zero (held : Option Item) : held.map (spend 0) = held := by cases held <;> rfl

theorem resolve?_congr {b : Arena} (h : b.get? x = a.get? x) : rules.resolve? b x = rules.resolve? a x := by
  unfold Rules.resolve?
  rw [h]

/-- An item that has not been met yet pays what it would have paid at first. -/
theorem get?_passSlot {p : Passage}
    (hfresh : ∀ id, c.equipment.get slot = some id → p.arena.get? id = a.get? id) :
    (passSlot rules c hit p slot).arena.get? x =
      if c.equipment.get slot = some x then (a.get? x).map (spend (tollOf rules a hit x))
      else p.arena.get? x := by
  unfold passSlot
  cases hworn : c.equipment.get slot with
  | none => simp
  | some id =>
    have hsame : p.arena.get? id = a.get? id := hfresh id hworn
    rw [Option.bind_some, resolve?_congr hsame]
    cases hknown : rules.resolve? a id with
    | none =>
      simp only [Option.map_none, Option.some.injEq]
      split_ifs with hx
      · subst hx
        rw [tollOf, hknown, hsame, Option.elim_none, map_spend_zero]
      · rfl
    | some known =>
      obtain ⟨item, type⟩ := known
      simp only [Option.map_some, Option.some.injEq, Arena.get?_modify]
      by_cases hx : x = id
      · subst hx
        rw [if_pos rfl, if_pos rfl, hsame, length_shares, tollOf, hknown, Option.elim_some]
      · rw [if_neg hx, if_neg (Ne.symm hx)]

theorem exhausted_passSlot {p : Passage}
    (hfresh : ∀ id, c.equipment.get slot = some id → p.arena.get? id = a.get? id) :
    (passSlot rules c hit p slot).exhausted =
      p.exhausted ++ [slot].filter (usesUp rules a c.equipment hit) := by
  unfold passSlot
  cases hworn : c.equipment.get slot with
  | none => simp [usesUp, hworn]
  | some id =>
    rw [Option.bind_some, resolve?_congr (hfresh id hworn)]
    cases hknown : rules.resolve? a id with
    | none => simp [usesUp, hworn, hknown]
    | some known =>
      obtain ⟨item, type⟩ := known
      have huses : usesUp rules a c.equipment hit slot = exhausts (hit.tolls type) item := by
        simp [usesUp, hworn, hknown]
      rw [List.filter_singleton, huses]
      simp only [Option.map_some, length_shares]
      cases exhausts (hit.tolls type) item <;> simp

/-- The slots that a hit has passed have paid, each for what is worn there, and all else is as it was.  The
induction is on the slots: the item of the next one has not paid yet, since it is worn nowhere else. -/
theorem passed (rules : Rules) (c : Character) (hit : Hit) (amount : Int)
    (hone : ∀ slot other id item, a.get? id = some item → c.equipment.get slot = some id →
      c.equipment.get other = some id → other = slot) (slots : List Slot) (hn : slots.Nodup) :
    (∀ x, (slots.foldl (hit.passSlot rules c) ⟨a, amount, []⟩).arena.get? x =
      (a.get? x).map (spend (if x ∈ slots.filterMap c.equipment.get then tollOf rules a hit x else 0))) ∧
    (slots.foldl (hit.passSlot rules c) ⟨a, amount, []⟩).exhausted =
      slots.filter (usesUp rules a c.equipment hit) := by
  induction slots using List.reverseRecOn with
  | nil =>
    refine ⟨fun x => ?_, rfl⟩
    exact (map_spend_zero _).symm
  | append_singleton slots slot ih =>
    obtain ⟨hslots, -, hdisjoint⟩ := List.nodup_append.mp hn
    have hnew : slot ∉ slots := fun hmem => hdisjoint slot hmem slot (List.mem_singleton_self _) rfl
    obtain ⟨harena, hexhausted⟩ := ih hslots
    rw [List.foldl_concat]
    have hfresh : ∀ id, c.equipment.get slot = some id →
        (slots.foldl (hit.passSlot rules c) ⟨a, amount, []⟩).arena.get? id = a.get? id := by
      intro id hworn
      rw [harena id]
      cases hl : a.get? id with
      | none => rfl
      | some item =>
        have hunpaid : id ∉ slots.filterMap c.equipment.get := by
          intro hmem
          obtain ⟨other, hother, hget⟩ := List.mem_filterMap.mp hmem
          exact hnew (hone slot other id item hl hworn hget ▸ hother)
        rw [if_neg hunpaid, map_spend_zero]
    constructor
    · intro x
      have hmet : x ∈ (slots ++ [slot]).filterMap c.equipment.get ↔
          x ∈ slots.filterMap c.equipment.get ∨ c.equipment.get slot = some x := by
        simp only [List.mem_filterMap, List.mem_append, List.mem_singleton, or_and_right, exists_or,
          exists_eq_left]
      rw [get?_passSlot hfresh, harena x]
      simp only [hmet]
      by_cases hworn : c.equipment.get slot = some x <;> simp [hworn]
    · rw [exhausted_passSlot hfresh, hexhausted, List.filter_append]

end Hit

/-! ## What is destroyed -/

namespace Arena

variable {a : Arena}

/-- Removing items one after the other loses what lies within any of them at first. -/
theorem loses_removeAll (a : Arena) (ids : List ItemId) :
    Loses a (ids.foldl remove a) fun x => ∃ id ∈ ids, a.Reaches id x := by
  have hstep : ∀ b child, b.size ≤ a.size → Loses b (b.remove child) (b.Reaches child) :=
    fun b child _ => loses_removeTree b.cells.length b child List.countP_le_length
  have hsize : ∀ (b : Arena) child, (b.remove child).size ≤ b.size :=
    fun b child => size_removeTree_le b.cells.length b child
  exact loses_foldl hstep hsize ids a (Nat.le_refl _)

end Arena

namespace Wearer

variable {w : Wearer} {slot : Slot}

/-- Empties one slot and destroys what is worn there. -/
def dispose (w : Wearer) (slot : Slot) : Wearer :=
  match w.character.equipment.get slot with
  | none => w
  | some id => (w.mapEquipment (·.clear slot)).mapArena (·.remove id)

theorem get_dispose (w : Wearer) (slot other : Slot) :
    (w.dispose slot).character.equipment.get other =
      if other = slot then none else w.character.equipment.get other := by
  unfold dispose
  cases hworn : w.character.equipment.get slot with
  | none =>
    simp only
    split_ifs with same
    · rw [same, hworn]
    · rfl
  | some id =>
    show (w.character.equipment.clear slot).get other = _
    rw [Equipment.get_clear]
    simp only [eq_comm]

theorem get_foldl_dispose (slots : List Slot) (w : Wearer) (other : Slot) :
    (slots.foldl dispose w).character.equipment.get other =
      if other ∈ slots then none else w.character.equipment.get other := by
  induction slots generalizing w with
  | nil => simp
  | cons slot slots ih =>
    rw [List.foldl_cons, ih, get_dispose]
    by_cases h : other ∈ slots <;> by_cases h' : other = slot <;> simp [h, h']

/-- Each slot still holds its item when its turn comes. -/
theorem arena_foldl_dispose {slots : List Slot} (hn : slots.Nodup) (w : Wearer) :
    (slots.foldl dispose w).arena =
      (slots.filterMap w.character.equipment.get).foldl Arena.remove w.arena := by
  induction slots generalizing w with
  | nil => rfl
  | cons slot slots ih =>
    obtain ⟨hnew, hrest⟩ := List.nodup_cons.mp hn
    have hothers : slots.filterMap (w.dispose slot).character.equipment.get =
        slots.filterMap w.character.equipment.get := by
      apply List.filterMap_congr
      intro other hother
      have hne : other ≠ slot := fun same => hnew (same ▸ hother)
      rw [get_dispose, if_neg hne]
    rw [List.foldl_cons, ih hrest, hothers]
    unfold dispose
    cases hworn : w.character.equipment.get slot with
    | none => rw [List.filterMap_cons_none hworn]
    | some id =>
      rw [List.filterMap_cons_some hworn, List.foldl_cons]
      rfl

/-- A discard empties its slots one after the other; what follows touches neither slots nor items. -/
theorem discard_eq (rules : Rules) (w : Wearer) (slots : List Slot) :
    (w.discard rules slots).value.arena = (slots.foldl dispose w).arena ∧
      (w.discard rules slots).value.character.equipment =
        (slots.foldl dispose w).character.equipment := by
  have hcleared : ∀ (slots : List Slot) (v : Wearer), (slots.foldlM (fun (w : Wearer) slot =>
      match w.character.equipment.get slot with
      | none => (pure w : Told Wearer)
      | some id => do
        Told.tell (.inventorySlot slot none)
        pure ((w.mapEquipment (·.clear slot)).mapArena (·.remove id))) v).value =
          slots.foldl dispose v := by
    intro slots
    induction slots with
    | nil => exact fun _ => rfl
    | cons slot slots ih =>
      intro v
      rw [List.foldlM_cons, Told.value_bind, ih, List.foldl_cons]
      unfold dispose
      cases v.character.equipment.get slot <;> rfl
  unfold discard
  split_ifs with hnone
  · rw [List.isEmpty_iff.mp hnone]
    exact ⟨rfl, rfl⟩
  · rw [Told.value_bind, arena_refresh, equipment_refresh]
    exact ⟨congrArg (·.arena) (hcleared slots w), congrArg (·.character.equipment) (hcleared slots w)⟩

theorem get_discard (rules : Rules) (w : Wearer) (slots : List Slot) (other : Slot) :
    (w.discard rules slots).value.character.equipment.get other =
      if other ∈ slots then none else w.character.equipment.get other := by
  rw [(discard_eq rules w slots).2, get_foldl_dispose]

end Wearer

/-! ## A whole hit -/

namespace Hit

variable {rules : Rules} {hit : Hit} {w : Wearer} {slot : Slot} {id x : ItemId} {item : Item} {type : ItemType}

/-- The hit uses up the item in a slot: it has charges, and no more than percentages apply. -/
def Exhausts (rules : Rules) (w : Wearer) (hit : Hit) (slot : Slot) (id : ItemId) : Prop :=
  ∃ item type, w.Wears rules slot id item type ∧ 0 < item.charges ∧ item.charges ≤ hit.tolls type

theorem Exhausts.worn (h : hit.Exhausts rules w slot id) :
    w.character.equipment.get slot = some id := by
  obtain ⟨item, type, hwears, -⟩ := h
  exact hwears.worn

theorem usesUp_iff :
    usesUp rules w.arena w.character.equipment hit slot = true ↔ ∃ id, Exhausts rules w hit slot id := by
  unfold usesUp exhausts Exhausts
  constructor
  · intro h
    obtain ⟨⟨item, type⟩, hknown, hspent⟩ := Option.any_eq_true _ _ |>.mp h
    obtain ⟨id, hworn, hresolve⟩ := Option.bind_eq_some_iff.mp hknown
    simp only [Bool.and_eq_true, decide_eq_true_iff] at hspent
    exact ⟨id, item, type, ⟨hworn, hresolve⟩, hspent⟩
  · rintro ⟨id, item, type, ⟨hworn, hresolve⟩, hspent⟩
    rw [hworn, Option.bind_some, hresolve]
    simpa using hspent

/-- The item pays for the hit: it is worn, of a known type, with charges and a percentage that applies. -/
def Charges (rules : Rules) (w : Wearer) (hit : Hit) (id : ItemId) : Prop :=
  ∃ slot item type, w.Wears rules slot id item type ∧ 0 < item.charges ∧ 0 < hit.tolls type

/-- What a hit is expected to leave behind of the wearer `w`. -/
structure Settles (rules : Rules) (hit : Hit) (w v : Wearer) (told : Absorbed) : Prop where
  /-- An item with charges left stays where it is. -/
  spent : ∀ slot id item type, w.Wears rules slot id item type → 0 < hit.tolls type →
    hit.tolls type < item.charges → v.character.equipment.get slot = some id ∧
      v.arena.get? id = some { item with charges := item.charges - hit.tolls type }
  /-- An item that is used up goes with all that lies in it. -/
  usedUp : ∀ slot id, hit.Exhausts rules w slot id → slot ∈ told.exhausted ∧
    v.character.equipment.get slot = none ∧ ∀ x, w.arena.isWithin id x = true → v.arena.get? x = none
  once : told.exhausted.Nodup
  listed : ∀ slot ∈ told.exhausted, ∃ id, hit.Exhausts rules w slot id
  slots : ∀ slot, slot ∉ told.exhausted →
    v.character.equipment.get slot = w.character.equipment.get slot
  others : ∀ x, ¬ hit.Charges rules w x →
    (∀ slot id, hit.Exhausts rules w slot id → w.arena.isWithin id x = false) →
      v.arena.get? x = w.arena.get? x
  damage : 0 ≤ told.damage

/-- Every worn item has paid once, and the slots of those used up are told. -/
theorem absorb_of_pos (hw : w.WellOwned) (hpos : 0 < hit.amount) :
    (∀ x, (hit.absorb rules w.character w.arena).1.get? x = (w.arena.get? x).map
      (spend (if x ∈ w.character.equipment.items then tollOf rules w.arena hit x else 0))) ∧
    (hit.absorb rules w.character w.arena).2.exhausted =
      Slot.all.filter (usesUp rules w.arena w.character.equipment hit) := by
  unfold absorb
  rw [if_neg (Int.not_le.mpr hpos)]
  exact passed rules w.character hit hit.amount
    (fun slot other id item hl hs ho => hw.slot_eq hl hs ho) Slot.all Slot.nodup_all

/-- A worn item of a known type pays what applies to it. -/
theorem get?_absorb_of_wears (hw : w.WellOwned) (hpos : 0 < hit.amount)
    (h : w.Wears rules slot id item type) :
    (hit.absorb rules w.character w.arena).1.get? id = some (spend (hit.tolls type) item) := by
  have hworn : id ∈ w.character.equipment.items := Equipment.mem_items.mpr ⟨slot, h.worn⟩
  have htoll : tollOf rules w.arena hit id = hit.tolls type := by rw [tollOf, h.known, Option.elim_some]
  rw [(absorb_of_pos hw hpos).1 id, if_pos hworn, htoll, h.held, Option.map_some]

/-- An item that does not pay is as it was, worn or not. -/
theorem get?_absorb_of_not_charges (hw : w.WellOwned) (hpos : 0 < hit.amount)
    (h : ¬ hit.Charges rules w x) :
    (hit.absorb rules w.character w.arena).1.get? x = w.arena.get? x := by
  rw [(absorb_of_pos hw hpos).1 x]
  by_cases hworn : x ∈ w.character.equipment.items
  · rw [if_pos hworn]
    cases hknown : rules.resolve? w.arena x with
    | none => rw [tollOf, hknown, Option.elim_none, map_spend_zero]
    | some known =>
      obtain ⟨item, type⟩ := known
      obtain ⟨slot, hslot⟩ := Equipment.mem_items.mp hworn
      have hwears : w.Wears rules slot x item type := ⟨hslot, hknown⟩
      have hfree : item.charges = 0 ∨ hit.tolls type = 0 := by
        by_contra hcharged
        exact h ⟨slot, item, type, hwears, by omega, by omega⟩
      have hsame : spend (hit.tolls type) item = item := by
        have hcharges : item.charges - hit.tolls type = item.charges := by omega
        rw [spend, hcharges]
      rw [tollOf, hknown, Option.elim_some, hwears.held, Option.map_some, hsame]
  · rw [if_neg hworn, map_spend_zero]

theorem mem_exhausted_iff (hw : w.WellOwned) (hpos : 0 < hit.amount) :
    slot ∈ (hit.absorb rules w.character w.arena).2.exhausted ↔
      ∃ id, hit.Exhausts rules w slot id := by
  rw [(absorb_of_pos hw hpos).2, List.mem_filter, usesUp_iff]
  exact and_iff_right (Slot.mem_all slot)

/-- Spending charges moves nothing. -/
theorem reaches_absorb (rules : Rules) (w : Wearer) (hit : Hit) {root x : ItemId} :
    (hit.absorb rules w.character w.arena).1.Reaches root x ↔ w.arena.Reaches root x := by
  have hspend : ∀ (a : Arena) id spent box y, (a.modify id (spend spent)).Lists box y ↔ a.Lists box y :=
    fun a id spent box y => Arena.lists_modify fun _ => rfl
  have hlists : ∀ box y, (hit.absorb rules w.character w.arena).1.Lists box y ↔ w.arena.Lists box y :=
    Engine.absorbed_induction (P := fun a => ∀ box y, a.Lists box y ↔ w.arena.Lists box y)
      (fun a id spent h box y => (hspend a id spent box y).trans (h box y))
      rules w.character hit (fun _ _ => Iff.rfl)
  exact ⟨fun h => h.mono fun _ _ => (hlists _ _).mp, fun h => h.mono fun _ _ => (hlists _ _).mpr⟩

theorem absorb_damage_nonneg (rules : Rules) (w : Wearer) (hit : Hit) :
    0 ≤ (hit.absorb rules w.character w.arena).2.damage := by
  unfold absorb
  split_ifs
  · exact Int.le_refl 0
  · exact le_max_right _ _

/-- What keeps a charge lies in nothing that is used up: it is worn, so nothing lists it. -/
theorem Exhausts.not_reaches {used : Slot} {root : ItemId} (hx : hit.Exhausts rules w used root)
    (hw : w.WellOwned) (h : w.Wears rules slot id item type) (hleft : hit.tolls type < item.charges) :
    ¬ w.arena.Reaches root id := by
  intro hr
  have hroot : id = root := by
    by_contra hne
    obtain ⟨box, -, hlist⟩ := hr.exists_lists hne
    exact hw.not_lists h.held h.worn hlist
  subst hroot
  obtain ⟨item', type', hwears, -, hspent⟩ := hx
  have hsame : (item, type) = (item', type') := Option.some.inj (h.known.symm.trans hwears.known)
  obtain ⟨rfl, rfl⟩ := Prod.mk.inj hsame
  omega

/-- Discarding what a hit has used up takes just the items that lie within it. -/
theorem loses_discard (hw : w.WellOwned) (hpos : 0 < hit.amount) :
    Arena.Loses (hit.absorb rules w.character w.arena).1
      ({ w with arena := (hit.absorb rules w.character w.arena).1 }.discard rules
        (hit.absorb rules w.character w.arena).2.exhausted).value.arena
      fun x => ∃ slot id, hit.Exhausts rules w slot id ∧ w.arena.Reaches id x := by
  set a := (hit.absorb rules w.character w.arena).1
  set exhausted := (hit.absorb rules w.character w.arena).2.exhausted with hexhausted
  have hnodup : exhausted.Nodup := by
    rw [hexhausted, (absorb_of_pos hw hpos).2]
    exact Slot.nodup_all.filter _
  have hgone : ∀ x, (∃ slot id, hit.Exhausts rules w slot id ∧ w.arena.Reaches id x) ↔
      ∃ id ∈ exhausted.filterMap w.character.equipment.get, a.Reaches id x := by
    intro x
    simp only [List.mem_filterMap, a, reaches_absorb]
    constructor
    · rintro ⟨slot, id, hx, hr⟩
      exact ⟨id, ⟨slot, (mem_exhausted_iff hw hpos).mpr ⟨id, hx⟩, hx.worn⟩, hr⟩
    · rintro ⟨id, ⟨slot, hmem, hworn⟩, hr⟩
      obtain ⟨other, hx⟩ := (mem_exhausted_iff hw hpos).mp hmem
      have same : other = id := Option.some.inj (hx.worn.symm.trans hworn)
      exact ⟨slot, id, same ▸ hx, hr⟩
  rw [(Wearer.discard_eq rules _ exhausted).1, Wearer.arena_foldl_dispose hnodup,
    funext fun x => propext (hgone x)]
  exact Arena.loses_removeAll a _

end Hit

namespace Engine

variable {e : Engine σ τ} {s : Situation σ τ} {hit : Hit}

/-- **What a hit costs.**  Where no live item is named twice among slots and contents, a hit takes from each
worn item with charges one charge for each percentage that applies, destroys those that it leaves without a
charge together with all that lies in them, tells just their slots, and changes no other item and no other
slot. -/
theorem absorb_spends_charges (e : Engine σ τ) (s : Situation σ τ) (hw : s.wearer.WellOwned) (hit : Hit)
    (hpos : 0 < hit.amount) :
    hit.Settles e.rules s.wearer (e.absorb s hit).value.1.wearer (e.absorb s hit).value.2 := by
  set w := s.wearer
  set told := (e.absorb s hit).value.2
  set v := (e.absorb s hit).value.1.wearer
  set a := (hit.absorb e.rules w.character w.arena).1
  have hlose : Arena.Loses a v.arena
      fun x => ∃ slot id, hit.Exhausts e.rules w slot id ∧ w.arena.Reaches id x :=
    Hit.loses_discard hw hpos
  have hlisted : ∀ slot, slot ∈ told.exhausted ↔ ∃ id, hit.Exhausts e.rules w slot id :=
    fun slot => Hit.mem_exhausted_iff hw hpos
  have hslots : ∀ slot, v.character.equipment.get slot =
      if slot ∈ told.exhausted then none else w.character.equipment.get slot :=
    fun slot => Wearer.get_discard e.rules { w with arena := a } told.exhausted slot
  have honce : told.exhausted.Nodup := by
    have heq : told.exhausted = _ := (Hit.absorb_of_pos hw hpos).2
    rw [heq]
    exact Slot.nodup_all.filter _
  refine ⟨?spent, ?usedUp, honce, fun slot => (hlisted slot).mp, ?slots, ?others,
    Hit.absorb_damage_nonneg e.rules w hit⟩
  case spent =>
    intro slot id item type hwears htolls hleft
    have hkept : ∀ other worn, hit.Exhausts e.rules w other worn → ¬ w.arena.Reaches worn id :=
      fun other worn hx => hx.not_reaches hw hwears hleft
    have huntold : slot ∉ told.exhausted := by
      intro hmem
      obtain ⟨worn, hx⟩ := (hlisted slot).mp hmem
      have hid : worn = id := Option.some.inj (hx.worn.symm.trans hwears.worn)
      exact hkept slot worn hx (hid ▸ Arena.Reaches.refl w.arena id)
    constructor
    · rw [hslots, if_neg huntold]
      exact hwears.worn
    · rw [hlose.kept id fun ⟨other, worn, hx, hr⟩ => hkept other worn hx hr]
      exact Hit.get?_absorb_of_wears hw hpos hwears
  case usedUp =>
    intro slot id hx
    have hmem := (hlisted slot).mpr ⟨id, hx⟩
    refine ⟨hmem, ?_, fun x hin => ?_⟩
    · rw [hslots, if_pos hmem]
    · exact hlose.dead x ⟨slot, id, hx, Arena.isWithin_iff.mp hin⟩
  case slots =>
    intro slot huntold
    rw [hslots, if_neg huntold]
  case others =>
    intro x hfree hout
    have hkept : ¬ ∃ slot id, hit.Exhausts e.rules w slot id ∧ w.arena.Reaches id x := by
      rintro ⟨slot, id, hx, hr⟩
      have hin := Arena.isWithin_iff.mpr hr
      rw [hout slot id hx] at hin
      exact absurd hin (by simp)
    rw [hlose.kept x hkept]
    exact Hit.get?_absorb_of_not_charges hw hpos hfree

/-! ## A bag worn out -/

/-- A bag with one charge and a coin in it is on the back, and a ring with five charges on the finger. -/
def wornOut : Situation Unit Unit where
  wearer :=
    { character :=
        { id := ⟨1⟩, name := "Tester"
          equipment := (({} : Equipment).wear .backpack ⟨1, 0⟩).wear .ring ⟨2, 0⟩ }
      arena := (((Arena.empty.insert ⟨⟨3⟩, 1, 0, []⟩).1.insert
        ⟨⟨1⟩, 1, 1, [⟨0, 0⟩]⟩).1.insert ⟨⟨2⟩, 1, 5, []⟩).1 }
  hook := ()
  rates := ()

/-- The rules of a world where bags protect against fire, and rings besides against fields of fire. -/
def fireRules : Rules where
  items := some fun kind =>
    some (if kind = ⟨2⟩ then (({} : ItemType).withAbsorb .fire 10).withFieldAbsorb .fire 20
      else if kind = ⟨1⟩ then ({ container := true } : ItemType).withAbsorb .fire 5 else {})

theorem wellOwned_wornOut : wornOut.wearer.WellOwned := by
  intro x item _
  have hnames : wornOut.wearer.namings x = ([⟨1, 0⟩, ⟨2, 0⟩, ⟨0, 0⟩] : List ItemId).count x := by
    have hsplit : ([⟨1, 0⟩, ⟨2, 0⟩, ⟨0, 0⟩] : List ItemId) =
        wornOut.wearer.character.equipment.items ++ [⟨0, 0⟩] := by decide
    rw [hsplit, List.count_append]
    show _ + (0 + ([(⟨0, 0⟩ : ItemId)].count x + (0 + 0))) = _
    omega
  rw [hnames]
  exact List.nodup_iff_count_le_one.mp (by decide) x

/-- The ring spends two charges; the bag is gone, and the coin with it. -/
theorem absorb_spends_charges_wornOut :
    wornOut.wearer.WellOwned ∧ (0 : Int) < 10 ∧
      (((plain fireRules).absorb wornOut ⟨10, .fire, true, false⟩).value.1.arena.get? ⟨2, 0⟩).map
        (·.charges) = some 3 ∧
      ((plain fireRules).absorb wornOut ⟨10, .fire, true, false⟩).value.1.arena.get? ⟨0, 0⟩ = none := by
  have h := absorb_spends_charges (plain fireRules) wornOut wellOwned_wornOut ⟨10, .fire, true, false⟩
    (by decide)
  have hring : wornOut.wearer.Wears fireRules .ring ⟨2, 0⟩ ⟨⟨2⟩, 1, 5, []⟩
      ((({} : ItemType).withAbsorb .fire 10).withFieldAbsorb .fire 20) := ⟨rfl, rfl⟩
  have hbag : Hit.Exhausts fireRules wornOut.wearer ⟨10, .fire, true, false⟩ .backpack ⟨1, 0⟩ :=
    ⟨⟨⟨1⟩, 1, 1, [⟨0, 0⟩]⟩, ({ container := true } : ItemType).withAbsorb .fire 5, ⟨rfl, rfl⟩, by decide,
      by decide⟩
  have hleft := (h.spent .ring ⟨2, 0⟩ _ _ hring (by decide) (by decide)).2
  have hgone := (h.usedUp .backpack ⟨1, 0⟩ hbag).2.2 ⟨0, 0⟩ (by decide)
  exact ⟨wellOwned_wornOut, by decide, congrArg (Option.map (·.charges)) hleft, hgone⟩

end Engine

end Adventurer
