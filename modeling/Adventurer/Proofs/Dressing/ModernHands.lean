import Adventurer.Proofs.Dressing.Hands

/-!
# The hands under the modern rules

The right hand is for shields and quivers, the left one for weapons, and next to a two-handed item there
is only a distance weapon with a quiver of its own ammunition (`ModernHands`).  What a quiver holds
changes when something is put into it, and nobody looks at the hands then.  The three ways in which an
accepted request breaks the rule are those of `Mismatch`.
-/

namespace Adventurer

open Dressing (Vacates)

variable {σ : Type} {rules : Rules} {types : ItemLookup} {w v : Wearer} {id box : ItemId}
  {source item held left right : Item} {type : ItemType} {count n : Nat} {slot : Slot}
  {hand done : Wearer × ItemId} {ammo : AmmoType} {a b : Arena} {contents : List ItemId}

/-! ## Pairs -/

/-- The item is of a known two-handed type. -/
def TwoHanded (types : ItemLookup) (item : Item) : Prop :=
  ∃ type, types item.type = some type ∧ type.isTwoHanded

/-- The ammunition among some items is all of one kind. -/
def Draws (types : ItemLookup) (a : Arena) (contents : List ItemId) (ammo : AmmoType) : Prop :=
  ∀ c ∈ contents, ∀ held type, a.get? c = some held → types held.type = some type →
    type.ammoType = .none ∨ type.ammoType = ammo

/-- A distance weapon and a quiver of its ammunition. -/
def Paired (types : ItemLookup) (a : Arena) (left right : Item) : Prop :=
  ∃ weapon quiver, types left.type = some weapon ∧ types right.type = some quiver ∧
    weapon.weaponType = .distance ∧ quiver.quiver ∧ Draws types a right.contents weapon.ammoType

theorem twoHanded_congr (h : item.type = held.type) : TwoHanded types item ↔ TwoHanded types held := by
  unfold TwoHanded
  rw [h]

theorem twoHanded_iff (h : types item.type = some type) : TwoHanded types item ↔ type.isTwoHanded := by
  unfold TwoHanded
  rw [h]
  constructor
  · rintro ⟨type', he, htwo⟩
    exact Option.some.inj he ▸ htwo
  · exact fun htwo => ⟨type, rfl, htwo⟩

/-- A pair looks at the types of the two items and at the contents of the right one. -/
theorem Paired.congr {left' right' : Item} (h : Paired types a left right) (hl : left'.type = left.type)
    (hr : right'.type = right.type)
    (hd : ∀ ammo, Draws types a right.contents ammo → Draws types b right'.contents ammo) :
    Paired types b left' right' := by
  obtain ⟨weapon, quiver, hw, hq, hdist, hquiver, hdraws⟩ := h
  exact ⟨weapon, quiver, hl ▸ hw, hr ▸ hq, hdist, hquiver, hd _ hdraws⟩

theorem Dressing.quiverHoldsOnly_iff {quiver : ItemId} : quiverHoldsOnly rules a quiver ammo = true ↔
    ∃ bag, a.get? quiver = some bag ∧ Draws rules.itemType? a bag.contents ammo := by
  unfold quiverHoldsOnly Draws
  rw [Option.any_eq_true]
  refine exists_congr fun bag => and_congr_right fun _ => ?_
  rw [List.all_eq_true]
  refine forall₂_congr fun c _ => ?_
  constructor
  · intro hall held type hl ht
    rw [Rules.resolve?_eq_some.mpr ⟨hl, ht⟩, Option.all_some, Bool.or_eq_true, decide_eq_true_iff,
      decide_eq_true_iff] at hall
    exact hall
  · intro hall
    cases hres : rules.resolve? a c with
    | none => rfl
    | some found =>
      obtain ⟨hl, ht⟩ := Rules.get?_of_resolve? hres
      rw [Option.all_some, Bool.or_eq_true, decide_eq_true_iff, decide_eq_true_iff]
      exact hall found.1 found.2 hl ht

namespace Wearer

/-- The rule of the hands: the right hand holds shields and quivers, the left hand no off-hand item, and
if both hands are occupied and something in them is two-handed, they hold a pair. -/
structure ModernHands (types : ItemLookup) (w : Wearer) : Prop where
  right : ∀ item, w.inSlot? .right = some item →
    ∃ type, types item.type = some type ∧ (type.isShield ∨ type.quiver)
  left : ∀ item type, w.inSlot? .left = some item → types item.type = some type →
    ¬ type.weaponType.isOffHand
  paired : ∀ left right, w.inSlot? .left = some left → w.inSlot? .right = some right →
    TwoHanded types left ∨ TwoHanded types right → Paired types w.arena left right

theorem ModernHands.of_eq (h : w.ModernHands types) (ha : v.arena = w.arena)
    (he : v.character.equipment = w.character.equipment) : v.ModernHands types := by
  have hin : v.inSlot? = w.inSlot? := by
    funext slot
    unfold inSlot?
    rw [ha, he]
  refine ⟨?_, ?_, ?_⟩
  · rw [hin]
    exact h.right
  · rw [hin]
    exact h.left
  · rw [hin, ha]
    exact h.paired

/-! ## Fading -/

theorem Fades.draws (hf : Fades w v) (hr : Regular n w) (hl : w.arena.get? box = some source)
    (hc : contents ⊆ source.contents) (h : Draws types w.arena source.contents ammo) :
    Draws types v.arena contents ammo := by
  intro c hm held type hheld htype
  obtain ⟨old, ho, ht, -⟩ := hf.live c held (hr.issued_of_lists ⟨source, hl, hc hm⟩) hheld
  exact h c (hc hm) old type ho (ht ▸ htype)

theorem Fades.modernHands (hf : Fades w v) (hr : Regular n w) (h : w.ModernHands types) :
    v.ModernHands types where
  right item hv := by
    obtain ⟨old, ho, ht, -⟩ := hf.inSlot? hr hv
    rw [ht]
    exact h.right old ho
  left item type hv htype := by
    obtain ⟨old, ho, ht, -⟩ := hf.inSlot? hr hv
    exact h.left old type ho (ht ▸ htype)
  paired l r hl hr' htwo := by
    obtain ⟨oldL, hoL, htL, -⟩ := hf.inSlot? hr hl
    obtain ⟨oldR, hoR, htR, hcR⟩ := hf.inSlot? hr hr'
    obtain ⟨x, -, hx⟩ := inSlot?_eq_some.mp hoR
    have hpair := h.paired oldL oldR hoL hoR
      (htwo.imp (twoHanded_congr htL).mp (twoHanded_congr htR).mp)
    exact hpair.congr htL htR fun _ hd => hf.draws hr hx hcR hd

/-! ## Something put into a slot -/

theorem ModernHands.wear_of_ne (h : w.ModernHands types) (hright : slot ≠ .right) (hleft : slot ≠ .left)
    (id : ItemId) : (w.mapEquipment (·.wear slot id)).ModernHands types := by
  have hr := inSlot?_wear w slot .right id
  have hl := inSlot?_wear w slot .left id
  rw [if_neg hright] at hr
  rw [if_neg hleft] at hl
  refine ⟨?_, ?_, ?_⟩
  · rw [hr]
    exact h.right
  · rw [hl]
    exact h.left
  · rw [hr, hl]
    exact h.paired

theorem modernHands_wear_left_iff (h : w.ModernHands types) (hl : w.arena.get? id = some item)
    (ht : types item.type = some type) (hoff : ¬ type.weaponType.isOffHand) :
    (w.mapEquipment (·.wear .left id)).ModernHands types ↔
      ∀ right, w.inSlot? .right = some right → TwoHanded types item ∨ TwoHanded types right →
        Paired types w.arena item right := by
  have hright : (w.mapEquipment (·.wear .left id)).inSlot? .right = w.inSlot? .right :=
    inSlot?_wear w .left .right id
  have hleft : (w.mapEquipment (·.wear .left id)).inSlot? .left = some item :=
    (inSlot?_wear w .left .left id).trans hl
  constructor
  · intro hv right hr
    exact hv.paired item right hleft (hright.trans hr)
  · intro hpair
    refine ⟨?_, fun new newType hnew hnewType => ?_, fun left right hleft' hr => ?_⟩
    · rw [hright]
      exact h.right
    · obtain rfl := Option.some.inj (hleft.symm.trans hnew)
      obtain rfl := Option.some.inj (ht.symm.trans hnewType)
      exact hoff
    · obtain rfl := Option.some.inj (hleft.symm.trans hleft')
      exact hpair right (hright.symm.trans hr)

theorem modernHands_wear_right_iff (h : w.ModernHands types) (hl : w.arena.get? id = some item)
    (ht : types item.type = some type) (hright : type.isShield ∨ type.quiver) :
    (w.mapEquipment (·.wear .right id)).ModernHands types ↔
      ∀ left, w.inSlot? .left = some left → TwoHanded types left ∨ TwoHanded types item →
        Paired types w.arena left item := by
  have hleft : (w.mapEquipment (·.wear .right id)).inSlot? .left = w.inSlot? .left :=
    inSlot?_wear w .right .left id
  have hin : (w.mapEquipment (·.wear .right id)).inSlot? .right = some item :=
    (inSlot?_wear w .right .right id).trans hl
  constructor
  · intro hv left hl'
    exact hv.paired left item (hleft.trans hl') hin
  · intro hpair
    refine ⟨fun new hnew => ?_, ?_, fun left right hl' hr => ?_⟩
    · obtain rfl := Option.some.inj (hin.symm.trans hnew)
      exact ⟨type, ht, hright⟩
    · rw [hleft]
      exact h.left
    · obtain rfl := Option.some.inj (hin.symm.trans hr)
      exact hpair left (hleft.symm.trans hl')

/-! ## Something put into a container -/

theorem draws_listed (w : Wearer) (box id : ItemId) :
    Draws types (w.mapArena (·.modify box (Arena.enlist id))).arena contents ammo ↔
      Draws types w.arena contents ammo := by
  unfold Draws
  refine forall₂_congr fun c _ => ?_
  constructor
  · intro h held type hl ht
    have hnew := get?_listed w box id c
    rw [hl, Option.map_some] at hnew
    exact h _ type hnew (by split_ifs <;> exact ht)
  · intro h held type hl ht
    rw [get?_listed] at hl
    obtain ⟨old, ho, rfl⟩ := Option.map_eq_some_iff.mp hl
    exact h old type ho (by split_ifs at ht <;> exact ht)

theorem draws_concat : Draws types a (contents ++ [id]) ammo ↔
    Draws types a contents ammo ∧ Draws types a [id] ammo := List.forall_mem_append

theorem draws_singleton (hl : a.get? id = some item) (ht : types item.type = some type) :
    Draws types a [id] ammo ↔ type.ammoType = .none ∨ type.ammoType = ammo := by
  constructor
  · exact fun hd => hd id (List.mem_singleton_self id) item type hl ht
  · intro ham c hc held heldType hheld hheldType
    rw [List.mem_singleton.mp hc, hl] at hheld
    obtain rfl := Option.some.inj hheld
    obtain rfl := Option.some.inj (ht.symm.trans hheldType)
    exact ham

/-- What is put into a container makes a pair of it and a weapon only if it fits the weapon. -/
theorem paired_listed_iff (hl : w.arena.get? id = some item) (ht : types item.type = some type)
    {left' right' : Item} (hleft : left'.type = left.type) (hright : right' = Arena.enlist id right) :
    Paired types (w.mapArena (·.modify box (Arena.enlist id))).arena left' right' ↔
      Paired types w.arena left right ∧ ∀ weapon, types left.type = some weapon →
        type.ammoType = .none ∨ type.ammoType = weapon.ammoType := by
  subst hright
  constructor
  · rintro ⟨weapon, quiver, hw, hq, hdist, hquiver, hdraws⟩
    rw [hleft] at hw
    rw [Arena.enlist, draws_listed, draws_concat, draws_singleton hl ht] at hdraws
    refine ⟨⟨weapon, quiver, hw, hq, hdist, hquiver, hdraws.1⟩, fun weapon' hw' => ?_⟩
    obtain rfl := Option.some.inj (hw.symm.trans hw')
    exact hdraws.2
  · rintro ⟨⟨weapon, quiver, hw, hq, hdist, hquiver, hdraws⟩, hammo⟩
    refine ⟨weapon, quiver, hleft ▸ hw, hq, hdist, hquiver, ?_⟩
    rw [Arena.enlist, draws_listed, draws_concat, draws_singleton hl ht]
    exact ⟨hdraws, hammo weapon hw⟩

/-- What a slot shows after something was put into a container. -/
theorem exists_of_inSlot?_listed
    (hin : (w.mapArena (·.modify box (Arena.enlist id))).inSlot? slot = some item) :
    ∃ old, w.inSlot? slot = some old ∧ item.type = old.type ∧
      (w.character.equipment.get slot = some box → item = Arena.enlist id old) ∧
      (w.character.equipment.get slot ≠ some box → item = old) := by
  rw [inSlot?_listed] at hin
  obtain ⟨old, ho, rfl⟩ := Option.map_eq_some_iff.mp hin
  by_cases hbox : w.character.equipment.get slot = some box
  · rw [if_pos hbox]
    exact ⟨old, ho, rfl, fun _ => rfl, fun hn => absurd hbox hn⟩
  · rw [if_neg hbox]
    exact ⟨old, ho, rfl, fun hb => absurd hb hbox, fun _ => rfl⟩

/-- An item put into a container keeps the rule, unless the container is a quiver next to a weapon of
other ammunition. -/
theorem modernHands_listed_iff (h : w.ModernHands types) (hl : w.arena.get? id = some item)
    (ht : types item.type = some type) :
    (w.mapArena (·.modify box (Arena.enlist id))).ModernHands types ↔
      (w.character.equipment.get .right = some box → ∀ left right weapon,
        w.inSlot? .left = some left → w.inSlot? .right = some right →
        TwoHanded types left ∨ TwoHanded types right → types left.type = some weapon →
        type.ammoType = .none ∨ type.ammoType = weapon.ammoType) := by
  constructor
  · intro hv hbox left right weapon hleft hright htwo hweapon
    have hin : ∀ {slot old}, w.inSlot? slot = some old →
        ∃ new, (w.mapArena (·.modify box (Arena.enlist id))).inSlot? slot = some new := by
      intro slot old ho
      rw [inSlot?_listed, ho]
      exact ⟨_, rfl⟩
    obtain ⟨left', hleft'⟩ := hin hleft
    obtain ⟨right', hright'⟩ := hin hright
    obtain ⟨oldL, hoL, htL, -, -⟩ := exists_of_inSlot?_listed hleft'
    obtain ⟨oldR, hoR, htR, hnew, -⟩ := exists_of_inSlot?_listed hright'
    obtain rfl := Option.some.inj (hleft.symm.trans hoL)
    obtain rfl := Option.some.inj (hright.symm.trans hoR)
    have hpair := hv.paired left' right' hleft' hright'
      (htwo.imp (twoHanded_congr htL).mpr (twoHanded_congr htR).mpr)
    exact ((paired_listed_iff hl ht htL (hnew hbox)).mp hpair).2 weapon hweapon
  · intro hammo
    refine ⟨fun item' hin => ?_, fun item' type' hin ht' => ?_, fun left' right' hin hin' htwo => ?_⟩
    · obtain ⟨old, ho, hot, -, -⟩ := exists_of_inSlot?_listed hin
      rw [hot]
      exact h.right old ho
    · obtain ⟨old, ho, hot, -, -⟩ := exists_of_inSlot?_listed hin
      exact h.left old type' ho (hot ▸ ht')
    · obtain ⟨left, hleft, htL, -, -⟩ := exists_of_inSlot?_listed hin
      obtain ⟨right, hright, htR, hnew, hsame⟩ := exists_of_inSlot?_listed hin'
      have htwo' := htwo.imp (twoHanded_congr htL).mp (twoHanded_congr htR).mp
      have hpair := h.paired left right hleft hright htwo'
      by_cases hbox : w.character.equipment.get .right = some box
      · refine (paired_listed_iff hl ht htL (hnew hbox)).mpr ⟨hpair, fun weapon hw => ?_⟩
        exact hammo hbox left right weapon hleft hright htwo' hw
      · refine hpair.congr htL htR fun ammo hd => ?_
        rw [hsame hbox, draws_listed]
        exact hd

/-! ## The item in hand -/

namespace Taken

variable (ht : Taken w id source count hand)
include ht

/-- What stays in a slot keeps its type. -/
theorem exists_inSlot? (hs : w.arena.Sound) (hv : ¬ Vacates w id source count slot)
    (hin : w.inSlot? slot = some item) :
    ∃ kept, hand.1.inSlot? slot = some kept ∧ kept.type = item.type := by
  obtain ⟨x, hg, hl⟩ := inSlot?_eq_some.mp hin
  obtain ⟨kept, hk, htype, -⟩ := ht.exists_same hs hl
  obtain ⟨-, hsame⟩ := (ht.get_hand slot).resolve_left fun h => hv h.1
  exact ⟨kept, inSlot?_eq_some.mpr ⟨x, hsame.trans hg, hk⟩, htype⟩

theorem not_vacates_of_inSlot? (hin : hand.1.inSlot? slot = some item) :
    ¬ Vacates w id source count slot := by
  rcases ht.get_hand slot with ⟨-, hnone⟩ | ⟨hv, -⟩
  · rw [inSlot?_of_get_eq_none hnone] at hin
    simp at hin
  · exact hv

/-- Taking a weapon, even out of the quiver, makes no other ammunition fit it. -/
theorem paired_iff (hr : Regular (n + 1) w) (hl : w.arena.get? id = some source) {right right' : Item}
    (hheld : held.type = source.type)
    (hin : w.inSlot? .right = some right) (hin' : hand.1.inSlot? .right = some right') :
    Paired types hand.1.arena held right' ↔ Paired types w.arena source right := by
  obtain ⟨x, hg, hx⟩ := inSlot?_eq_some.mp hin
  obtain ⟨-, hsame⟩ := (ht.get_hand .right).resolve_left fun h => ht.not_vacates_of_inSlot? hin' h.1
  obtain ⟨kept, hk, hkt, hkc⟩ := ht.exists_same hr.sound hx
  obtain ⟨old, ho, -, hsub⟩ := (ht.fades hr).live x kept (hr.issued_of_get hg) hk
  obtain rfl := Option.some.inj (hx.symm.trans ho)
  obtain rfl : kept = right' := by
    obtain ⟨y, hy, hy'⟩ := inSlot?_eq_some.mp hin'
    obtain rfl := Option.some.inj ((hsame.trans hg).symm.trans hy)
    exact Option.some.inj (hk.symm.trans hy')
  constructor
  · rintro ⟨weapon, quiver, hw, hq, hdist, hquiver, hdraws⟩
    refine ⟨weapon, quiver, hheld ▸ hw, hkt ▸ hq, hdist, hquiver, fun c hc item itemType hci hct => ?_⟩
    by_cases he : c = id
    · -- the weapon itself lies in the quiver
      subst he
      obtain rfl := Option.some.inj (hl.symm.trans hci)
      rw [hheld] at hw
      exact .inr (congrArg _ (Option.some.inj (hct.symm.trans hw)))
    · obtain ⟨item', hi', hit', -⟩ := ht.exists_same hr.sound hci
      exact hdraws c (hkc c hc he) item' itemType hi' (hit' ▸ hct)
  · intro hpair
    exact hpair.congr hheld hkt fun _ hd => (ht.fades hr).draws hr hx hsub hd

end Taken

end Wearer

namespace Dressing

open Wearer

variable {hook : EquipHook σ} {request : EquipRequest} {s : σ} {x : ItemId}

/-- What an accepted request may bring together: a one-handed weapon and a two-handed item that is not a
quiver of its ammunition, a two-handed shield or quiver and an item of no known type, or a weapon and a
quiver into which other ammunition is put. -/
inductive Mismatch (types : ItemLookup) (w : Wearer) (id : ItemId) (item : Item) (type : ItemType)
    (count : Nat) : Destination → Prop
  | weapon {right : Item} (hone : ¬ type.isTwoHanded) (hin : w.inSlot? .right = some right)
    (hstays : ¬ Vacates w id item count .right) (htwo : TwoHanded types right)
    (hno : ¬ Paired types w.arena item right) : Mismatch types w id item type count (.slot .left)
  | shield {left : Item} (htwo : type.isTwoHanded) (hin : w.inSlot? .left = some left)
    (hunknown : types left.type = none) : Mismatch types w id item type count (.slot .right)
  | ammunition {box : ItemId} {left right : Item} {weapon : ItemType}
    (hbox : w.character.equipment.get .right = some box) (hleft : w.inSlot? .left = some left)
    (hstays : ¬ Vacates w id item count .left) (hright : w.inSlot? .right = some right)
    (htwo : TwoHanded types left ∨ TwoHanded types right) (hweapon : types left.type = some weapon)
    (htyped : type.ammoType ≠ .none) (hother : type.ammoType ≠ weapon.ammoType) :
    Mismatch types w id item type count (.container box)

/-- The request is accepted and brings together what does not belong together. -/
def Mispairs (rules : Rules) (hook : EquipHook σ) (w : Wearer) (request : EquipRequest) (s : σ) : Prop :=
  ∃ outcome item type, (tryEquip rules hook w request s).value.2.2 = .ok outcome ∧
    rules.resolve? w.arena request.item = some (item, type) ∧
    Mismatch rules.itemType? w request.item item type (movedCount type request) outcome.destination

theorem fitsModernRight_of_fits {c : Character} (hmodern : rules.config.classicEquipmentSlots = false)
    (hfits : fitsSlot rules a c id item type .right count = .ok ()) :
    fitsModernRight rules a id type (c.equipment.get .left) = .ok () := by
  have hallows := allows_of_fits (by decide) hfits
  unfold fitsSlot at hfits
  simp only [if_pos hallows, hmodern, Bool.false_eq_true, if_false] at hfits
  exact hfits

theorem fitsModernLeft_of_fits {c : Character} (hmodern : rules.config.classicEquipmentSlots = false)
    (hfits : fitsSlot rules a c id item type .left count = .ok ()) :
    fitsModernLeft rules a type (c.equipment.get .right) = .ok () := by
  have hallows := allows_of_fits (by decide) hfits
  unfold fitsSlot at hfits
  simp only [if_pos hallows, hmodern, Bool.false_eq_true, if_false] at hfits
  exact hfits

/-- What the check of the left hand says of a two-handed weapon. -/
theorem paired_of_fitsLeft (htwo : type.isTwoHanded) (htype : rules.itemType? item.type = some type)
    (hin : w.inSlot? .right = some right)
    (hfits : fitsModernLeft rules w.arena type (w.character.equipment.get .right) = .ok ()) :
    Paired rules.itemType? w.arena item right := by
  obtain ⟨x, hg, hl⟩ := inSlot?_eq_some.mp hin
  unfold fitsModernLeft at hfits
  rw [hg] at hfits
  split_ifs at hfits
  have hcheck := require_eq_ok.mp hfits
  simp only [htwo, Bool.not_true, Bool.false_or, Bool.and_eq_true, decide_eq_true_iff] at hcheck
  obtain ⟨⟨hdist, hquiver⟩, hholds⟩ := hcheck
  obtain ⟨⟨right', quiver⟩, hres, hq⟩ := (Option.any_eq_true _ _).mp hquiver
  obtain ⟨hl', hqt⟩ := Rules.get?_of_resolve? hres
  obtain rfl := Option.some.inj (hl.symm.trans hl')
  obtain ⟨bag, hbag, hdraws⟩ := quiverHoldsOnly_iff.mp hholds
  obtain rfl := Option.some.inj (hl.symm.trans hbag)
  exact ⟨type, quiver, htype, hqt, hdist, hq, hdraws⟩

/-- What the check of the right hand says of a shield or quiver and an item of a known type. -/
theorem paired_of_fitsRight {leftType : ItemType} (hl : w.arena.get? id = some item)
    (htype : rules.itemType? item.type = some type) (hin : w.inSlot? .left = some left)
    (hleft : rules.itemType? left.type = some leftType) (htwo : leftType.isTwoHanded ∨ type.isTwoHanded)
    (hfits : fitsModernRight rules w.arena id type (w.character.equipment.get .left) = .ok ()) :
    Paired rules.itemType? w.arena left item := by
  obtain ⟨x, hg, hx⟩ := inSlot?_eq_some.mp hin
  unfold fitsModernRight at hfits
  rw [hg, Option.bind_some, Rules.resolve?_eq_some.mpr ⟨hx, hleft⟩] at hfits
  split_ifs at hfits
  have hcheck := require_eq_ok.mp hfits
  have hnot : (!leftType.isTwoHanded && !type.isTwoHanded) = false := by
    rcases htwo with h | h <;> simp [h]
  simp only [hnot, Bool.false_or, Bool.and_eq_true, decide_eq_true_iff] at hcheck
  obtain ⟨⟨hquiver, hdist⟩, hholds⟩ := hcheck
  obtain ⟨bag, hbag, hdraws⟩ := quiverHoldsOnly_iff.mp hholds
  obtain rfl := Option.some.inj (hl.symm.trans hbag)
  exact ⟨leftType, type, hleft, htype, hdist, hquiver, hdraws⟩

section Taken

variable (hr : Regular (n + 1) w) (ht : Taken w id item count hand)
  (hkind : rules.resolve? w.arena id = some (item, type)) (hheld : held.type = item.type)
include hr ht hkind hheld

/-- What the left hand takes pairs with the right hand, unless there is a mismatch. -/
theorem pairs_left_iff
    (hfits : fitsModernLeft rules w.arena type (w.character.equipment.get .right) = .ok ()) :
    (∀ right, hand.1.inSlot? .right = some right →
        TwoHanded rules.itemType? held ∨ TwoHanded rules.itemType? right →
        Paired rules.itemType? hand.1.arena held right) ↔
      ¬ Mismatch rules.itemType? w id item type count (.slot .left) := by
  obtain ⟨hl, htype⟩ := Rules.get?_of_resolve? hkind
  constructor
  · intro hall hm
    cases hm with
    | weapon hone hin hstays htwo hno =>
      obtain ⟨kept, hkept, hkt⟩ := ht.exists_inSlot? hr.sound hstays hin
      have hpair := hall kept hkept (.inr ((twoHanded_congr hkt).mpr htwo))
      exact hno ((ht.paired_iff hr hl hheld hin hkept).mp hpair)
  · intro hn kept hkept htwo
    obtain ⟨right, hin, hkt, -⟩ := (ht.fades hr).inSlot? hr hkept
    refine (ht.paired_iff hr hl hheld hin hkept).mpr ?_
    by_cases hone : type.isTwoHanded
    · exact paired_of_fitsLeft hone htype hin hfits
    · have hright : TwoHanded rules.itemType? right := by
        refine (twoHanded_congr hkt).mp (htwo.resolve_left fun h => hone ?_)
        exact (twoHanded_iff htype).mp ((twoHanded_congr hheld).mp h)
      by_contra hno
      exact hn (.weapon hone hin (ht.not_vacates_of_inSlot? hkept) hright hno)

/-- What the right hand takes pairs with the left hand, unless there is a mismatch. -/
theorem pairs_right_iff (hc : held.contents ⊆ item.contents)
    (hfits : fitsModernRight rules w.arena id type (w.character.equipment.get .left) = .ok ()) :
    (∀ left, hand.1.inSlot? .left = some left →
        TwoHanded rules.itemType? left ∨ TwoHanded rules.itemType? held →
        Paired rules.itemType? hand.1.arena left held) ↔
      ¬ Mismatch rules.itemType? w id item type count (.slot .right) := by
  obtain ⟨hl, htype⟩ := Rules.get?_of_resolve? hkind
  have hheldTwo : TwoHanded rules.itemType? held ↔ type.isTwoHanded :=
    (twoHanded_congr hheld).trans (twoHanded_iff htype)
  constructor
  · intro hall hm
    cases hm with
    | shield htwo hin hunknown =>
      have hstays : ¬ Vacates w id item count .left := by
        rintro ⟨hslot, -⟩
        obtain ⟨x, hg, hx⟩ := inSlot?_eq_some.mp hin
        obtain rfl := Option.some.inj ((Equipment.get_of_slotOf hslot).symm.trans hg)
        obtain rfl := Option.some.inj (hl.symm.trans hx)
        rw [htype] at hunknown
        simp at hunknown
      obtain ⟨kept, hkept, hkt⟩ := ht.exists_inSlot? hr.sound hstays hin
      obtain ⟨weapon, -, hweapon, -⟩ := hall kept hkept (.inr (hheldTwo.mpr htwo))
      rw [hkt, hunknown] at hweapon
      simp at hweapon
  · intro hn kept hkept htwo
    obtain ⟨left, hin, hkt, -⟩ := (ht.fades hr).inSlot? hr hkept
    rw [twoHanded_congr hkt, hheldTwo] at htwo
    cases hleft : rules.itemType? left.type with
    | none =>
      have hno : ¬ TwoHanded rules.itemType? left := by
        rintro ⟨leftType, hknown, -⟩
        rw [hleft] at hknown
        simp at hknown
      exact absurd (.shield (htwo.resolve_left hno) hin hleft) hn
    | some leftType =>
      rw [twoHanded_iff hleft] at htwo
      have hpair := paired_of_fitsRight hl htype hin hleft htwo hfits
      exact hpair.congr hkt hheld fun _ hd => (ht.fades hr).draws hr hl hc hd

end Taken

/-- What a container takes keeps the rule, unless there is a mismatch. -/
theorem pairs_stow_iff (hr : Regular (n + 1) w) (ht : Taken w id item count hand) (hne : box ≠ id) :
    (hand.1.character.equipment.get .right = some box → ∀ left right weapon,
        hand.1.inSlot? .left = some left → hand.1.inSlot? .right = some right →
        TwoHanded rules.itemType? left ∨ TwoHanded rules.itemType? right →
        rules.itemType? left.type = some weapon →
        type.ammoType = .none ∨ type.ammoType = weapon.ammoType) ↔
      ¬ Mismatch rules.itemType? w id item type count (.container box) := by
  have hfades := ht.fades hr
  constructor
  · intro hall hm
    cases hm with
    | ammunition hbox hleft hstays hright htwo hweapon htyped hother =>
      have hquiver : ¬ Vacates w id item count .right := by
        rintro ⟨hslot, -⟩
        exact hne (Option.some.inj (hbox.symm.trans (Equipment.get_of_slotOf hslot)))
      obtain ⟨-, hsame⟩ := (ht.get_hand .right).resolve_left fun h => hquiver h.1
      obtain ⟨left', hleft', hlt⟩ := ht.exists_inSlot? hr.sound hstays hleft
      obtain ⟨right', hright', hrt⟩ := ht.exists_inSlot? hr.sound hquiver hright
      rcases hall (hsame.trans hbox) left' right' _ hleft' hright'
        (htwo.imp (twoHanded_congr hlt).mpr (twoHanded_congr hrt).mpr) (hlt ▸ hweapon) with h | h
      · exact htyped h
      · exact hother h
  · intro hn hbox left' right' weapon hleft' hright' htwo hweapon
    obtain ⟨left, hleft, hlt, -⟩ := hfades.inSlot? hr hleft'
    obtain ⟨right, hright, hrt, -⟩ := hfades.inSlot? hr hright'
    by_contra hammo
    rw [not_or] at hammo
    exact hn (.ammunition (hfades.get .right box hbox) hleft (ht.not_vacates_of_inSlot? hleft') hright
      (htwo.imp (twoHanded_congr hlt).mp (twoHanded_congr hrt).mp) (hlt ▸ hweapon) hammo.1 hammo.2)

/-- An item that joins a stack is where its type has been before. -/
theorem not_mismatch_of_joined {stack : ItemId} {onto : Item} {p : Plan} (hw : w.ModernHands rules.itemType?)
    (hplanned : Planned rules w request item type count p)
    (hp : ∀ slot displaced, p ≠ .wear slot displaced)
    (htype : rules.itemType? item.type = some type) (honto : w.arena.get? stack = some onto)
    (hsame : onto.type = item.type) (hin : ∀ box, p = .stow box → w.arena.Lists box stack) :
    ¬ Mismatch rules.itemType? w request.item item type count (p.outcome x).destination := by
  intro hm
  cases hplanned with
  | fill => exact hp _ _ rfl
  | again => exact hp _ _ rfl
  | exchange => exact hp _ _ rfl
  | @merge there worn held hworn _ _ hheld hht =>
    have hthere : w.inSlot? there = some held := inSlot?_eq_some.mpr ⟨worn, hworn, hheld⟩
    cases hm with
    | weapon hone hright hstays htwo hno =>
      have hpair := hw.paired held _ hthere hright (.inr htwo)
      exact hno (hpair.congr hht.symm rfl fun _ hd => hd)
    | shield htwo hleft hunknown =>
      have hheldTwo : TwoHanded rules.itemType? held :=
        (twoHanded_congr hht).mpr ((twoHanded_iff htype).mpr htwo)
      obtain ⟨weapon, -, hweapon, -⟩ := hw.paired _ held hleft hthere (.inr hheldTwo)
      rw [hunknown] at hweapon
      simp at hweapon
  | @stow box =>
    cases hm with
    | ammunition hbox hleft hstays hright htwo hweapon htyped hother =>
      obtain ⟨weapon', quiver, hw', -, -, -, hdraws⟩ := hw.paired _ _ hleft hright htwo
      obtain rfl := Option.some.inj (hweapon.symm.trans hw')
      obtain ⟨bag, hbag, hstack⟩ := hin box rfl
      obtain ⟨y, hy, hy'⟩ := inSlot?_eq_some.mp hright
      obtain rfl := Option.some.inj (hbox.symm.trans hy)
      obtain rfl := Option.some.inj (hbag.symm.trans hy')
      rcases hdraws stack hstack onto type honto (by rw [hsame]; exact htype) with h | h
      · exact htyped h
      · exact hother h

theorem fitsLeft_isOffHand {right : Option ItemId} (h : fitsModernLeft rules a type right = .ok ()) :
    ¬ type.weaponType.isOffHand := by
  intro hoff
  unfold fitsModernLeft at h
  rw [if_pos hoff] at h
  simp at h

theorem fitsRight_shield {left : Option ItemId} (h : fitsModernRight rules a id type left = .ok ()) :
    type.isShield ∨ type.quiver := by
  by_contra hno
  unfold fitsModernRight at h
  rw [if_pos (by simpa [not_or] using hno)] at h
  simp at h

/-- A request keeps the rule of the hands exactly if it brings nothing together that does not belong
together. -/
theorem modernHands_tryEquip_iff (hmodern : rules.config.classicEquipmentSlots = false)
    (hk : hook.KeepsSlots) (hr : Regular (n + 1) w) (hw : w.ModernHands rules.itemType?) :
    (tryEquip rules hook w request s).value.1.ModernHands rules.itemType? ↔
      ¬ Mispairs rules hook w request s := by
  cases hres : (tryEquip rules hook w request s).value.2.2 with
  | error e =>
    obtain ⟨t, -, he⟩ := tryEquip_of_error hres
    rw [he]
    refine iff_of_true hw ?_
    rintro ⟨outcome, -, -, hok, -⟩
    rw [hres] at hok
    exact absurd hok (by simp)
  | ok outcome =>
    obtain ⟨p, item, type, hand, done, hkind, hle, hplanned, htaken, hlanded, ha, he, ho⟩ :=
      exists_hand_of_tryEquip hres
    obtain ⟨hl, htype⟩ := Rules.get?_of_resolve? hkind
    have hiff : (tryEquip rules hook w request s).value.1.ModernHands rules.itemType? ↔
        done.1.ModernHands rules.itemType? :=
      ⟨fun h => h.of_eq ha.symm (he hk).symm, fun h => h.of_eq ha (he hk)⟩
    have hmis : Mispairs rules hook w request s ↔
        Mismatch rules.itemType? w request.item item type (movedCount type request)
          outcome.destination := by
      constructor
      · rintro ⟨outcome', item', type', hok, hkind', hm⟩
        obtain rfl := Except.ok.inj (hres.symm.trans hok)
        obtain ⟨rfl, rfl⟩ := Prod.mk.inj (Option.some.inj (hkind.symm.trans hkind'))
        exact hm
      · exact fun hm => ⟨outcome, item, type, hres, hkind, hm⟩
    rw [hiff, hmis]
    have hhand := (htaken.fades hr).modernHands hr hw
    have hreg := htaken.regular hr
    obtain ⟨held, hheld, hheldType, hheldIn⟩ := htaken.exists_hand hr.sound hl
    have hknown : rules.itemType? held.type = some type := by rw [hheldType]; exact htype
    cases hlanded with
    | @worn there displaced =>
      have hd : outcome.destination = .slot there := by rw [ho]; rfl
      rw [hd]
      have hfits := fits_of_tryEquip hres hkind hd
      by_cases hright : there = .right
      · subst hright
        have hcheck := fitsModernRight_of_fits hmodern hfits
        rw [modernHands_wear_right_iff hhand hheld hknown (fitsRight_shield hcheck)]
        exact pairs_right_iff hr htaken hkind hheldType hheldIn hcheck
      · by_cases hleft : there = .left
        · subst hleft
          have hcheck := fitsModernLeft_of_fits hmodern hfits
          rw [modernHands_wear_left_iff hhand hheld hknown (fitsLeft_isOffHand hcheck)]
          exact pairs_left_iff hr htaken hkind hheldType hcheck
        · refine iff_of_true (hhand.wear_of_ne hright hleft _) ?_
          intro hm
          cases hm with
          | weapon => exact hleft rfl
          | shield => exact hright rfl
    | joined hp hne hs hheld' htypes _ _ hin =>
      refine iff_of_true ((fades_joinStack hand.1 hand.2 _ _).modernHands hreg hhand) ?_
      rw [ho]
      exact not_mismatch_of_joined hw hplanned hp htype hheld' htypes fun box h => lists_of_joinable? (hin box h)
    | @listed box =>
      have hne : box ≠ request.item := by
        cases hplanned with
        | stow _ _ hnot => exact fun he => hnot (he ▸ Arena.Reaches.refl _ _)
      rw [modernHands_listed_iff hhand hheld hknown, ho]
      exact pairs_stow_iff hr htaken hne

end Dressing

end Adventurer
