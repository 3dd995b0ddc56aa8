import Adventurer.Proofs.Dressing.Hands

/-!
# The hands under the classic rules

A two-handed item is alone in the hands, and no two shields and no two weapons are held (`ClassicHands`).
An item is checked against the other hand as it is before the move.  So a request can break the rule in
one way: the item is let pass because it lies in the other hand itself, and then stays there (`Straddles`).
-/

namespace Adventurer

open Dressing (Vacates)

variable {σ : Type} {rules : Rules} {types : ItemLookup} {w v : Wearer} {id : ItemId} {item : Item}
  {type : ItemType} {count n : Nat} {slot other : Slot} {hand : Wearer × ItemId}

theorem Slot.oppositeHand_symm (h : slot.oppositeHand = some other) : other.oppositeHand = some slot := by
  revert h
  cases slot <;> cases other <;> decide

theorem Slot.oppositeHand_ne (h : slot.oppositeHand = some other) : other ≠ slot := by
  revert h
  cases slot <;> cases other <;> decide

/-- No two items of the type may be in the hands. -/
def ItemType.HeldOnce (type : ItemType) : Prop :=
  type.isTwoHanded ∨ type.isShield ∨ ¬ type.weaponType.isOffHand

namespace Wearer

/-- The rule of the hands: a two-handed item is alone, and there are no two shields and no two weapons. -/
structure ClassicHands (types : ItemLookup) (w : Wearer) : Prop where
  twoHanded : ∀ hand other item type, hand.oppositeHand = some other → w.inSlot? hand = some item →
    types item.type = some type → type.isTwoHanded → w.character.equipment.get other = none
  oneShield : ∀ left right leftType rightType, w.inSlot? .left = some left →
    types left.type = some leftType → w.inSlot? .right = some right →
    types right.type = some rightType → ¬ (leftType.isShield ∧ rightType.isShield)
  oneWeapon : ∀ left right leftType rightType, w.inSlot? .left = some left →
    types left.type = some leftType → w.inSlot? .right = some right →
    types right.type = some rightType →
    leftType.weaponType.isOffHand ∨ rightType.weaponType.isOffHand

/-- An item of the type may be in one hand while the other one is as it is. -/
def Suits (types : ItemLookup) (w : Wearer) (type : ItemType) (other : Slot) : Prop :=
  w.character.equipment.get other = none ∨
  ¬ type.isTwoHanded ∧ ∀ held heldType, w.inSlot? other = some held →
    types held.type = some heldType →
    ¬ heldType.isTwoHanded ∧ ¬ (type.isShield ∧ heldType.isShield) ∧
      (type.weaponType.isOffHand ∨ heldType.weaponType.isOffHand)

/-- The rule, told of each hand. -/
theorem classicHands_iff : w.ClassicHands types ↔
    ∀ hand other item type, hand.oppositeHand = some other → w.inSlot? hand = some item →
      types item.type = some type → w.Suits types type other := by
  constructor
  · intro h hand other item type hopp hin htype
    by_cases htwo : type.isTwoHanded
    · exact .inl (h.twoHanded hand other item type hopp hin htype htwo)
    · refine .inr ⟨htwo, fun held heldType hheld hheldType => ⟨fun htwo' => ?_, ?_⟩⟩
      · have hnone := h.twoHanded other hand held heldType (Slot.oppositeHand_symm hopp) hheld hheldType htwo'
        rw [inSlot?_of_get_eq_none hnone] at hin
        simp at hin
      · cases hand <;> cases hopp
        · exact ⟨fun hs => h.oneShield _ _ _ _ hheld hheldType hin htype hs.symm,
            (h.oneWeapon _ _ _ _ hheld hheldType hin htype).symm⟩
        · exact ⟨h.oneShield _ _ _ _ hin htype hheld hheldType,
            h.oneWeapon _ _ _ _ hin htype hheld hheldType⟩
  · intro h
    have hboth : ∀ left right leftType rightType, w.inSlot? .left = some left →
        types left.type = some leftType → w.inSlot? .right = some right →
        types right.type = some rightType → ¬ (leftType.isShield ∧ rightType.isShield) ∧
          (leftType.weaponType.isOffHand ∨ rightType.weaponType.isOffHand) := by
      intro left right leftType rightType hl hlt hr hrt
      rcases h .left .right left leftType rfl hl hlt with hnone | ⟨-, hall⟩
      · rw [inSlot?_of_get_eq_none hnone] at hr
        simp at hr
      · exact (hall right rightType hr hrt).2
    refine ⟨fun hand other item type hopp hin htype htwo => ?_, ?_, ?_⟩
    · exact (h hand other item type hopp hin htype).resolve_right fun hn => hn.1 htwo
    · exact fun l r lt rt hl hlt hr hrt => (hboth l r lt rt hl hlt hr hrt).1
    · exact fun l r lt rt hl hlt hr hrt => (hboth l r lt rt hl hlt hr hrt).2

/-- The rule lasts while slots are only emptied and what is in them keeps its type. -/
theorem ClassicHands.mono (h : w.ClassicHands types)
    (hget : ∀ slot, w.character.equipment.get slot = none → v.character.equipment.get slot = none)
    (hin : ∀ slot item, v.inSlot? slot = some item →
      ∃ old, w.inSlot? slot = some old ∧ item.type = old.type) : v.ClassicHands types where
  twoHanded hand other item type hopp hv ht htwo := by
    obtain ⟨old, ho, he⟩ := hin hand item hv
    exact hget other (h.twoHanded hand other old type hopp ho (he ▸ ht) htwo)
  oneShield l r lt rt hl hlt hr hrt := by
    obtain ⟨oldL, hoL, heL⟩ := hin .left l hl
    obtain ⟨oldR, hoR, heR⟩ := hin .right r hr
    exact h.oneShield oldL oldR lt rt hoL (heL ▸ hlt) hoR (heR ▸ hrt)
  oneWeapon l r lt rt hl hlt hr hrt := by
    obtain ⟨oldL, hoL, heL⟩ := hin .left l hl
    obtain ⟨oldR, hoR, heR⟩ := hin .right r hr
    exact h.oneWeapon oldL oldR lt rt hoL (heL ▸ hlt) hoR (heR ▸ hrt)

theorem ClassicHands.of_eq (h : w.ClassicHands types) (ha : v.arena = w.arena)
    (he : v.character.equipment = w.character.equipment) : v.ClassicHands types := by
  refine h.mono (fun slot hg => he ▸ hg) fun slot item hv => ⟨item, ?_, rfl⟩
  unfold inSlot? at hv ⊢
  rwa [ha, he] at hv

theorem Fades.classicHands (hf : Fades w v) (hr : Regular n w) (h : w.ClassicHands types) :
    v.ClassicHands types := by
  refine h.mono (fun slot hnone => ?_) fun slot item hv => ?_
  · by_contra hsome
    obtain ⟨id, hid⟩ := Option.ne_none_iff_exists'.mp hsome
    rw [hf.get slot id hid] at hnone
    simp at hnone
  · obtain ⟨old, ho, ht, -⟩ := hf.inSlot? hr hv
    exact ⟨old, ho, ht⟩

/-- Putting something into a container changes no type. -/
theorem ClassicHands.listed (h : w.ClassicHands types) (box id : ItemId) :
    (w.mapArena (·.modify box (Arena.enlist id))).ClassicHands types := by
  refine h.mono (fun _ hg => hg) fun slot item hv => ?_
  rw [inSlot?_listed] at hv
  obtain ⟨old, ho, rfl⟩ := Option.map_eq_some_iff.mp hv
  refine ⟨old, ho, ?_⟩
  split_ifs <;> rfl

theorem suits_wear (hne : other ≠ slot) :
    (w.mapEquipment (·.wear slot id)).Suits types type other ↔ w.Suits types type other := by
  unfold Suits
  rw [inSlot?_wear, if_neg (Ne.symm hne)]
  show (w.character.equipment.wear slot id).get other = none ∨ _ ↔ _
  rw [Equipment.get_wear, if_neg (Ne.symm hne)]

/-- An item put into a slot keeps the rule exactly if it suits the other hand. -/
theorem classicHands_wear_iff (h : w.ClassicHands types) (hl : w.arena.get? id = some item)
    (ht : types item.type = some type) (slot : Slot) :
    (w.mapEquipment (·.wear slot id)).ClassicHands types ↔
      ∀ other, slot.oppositeHand = some other → w.Suits types type other := by
  constructor
  · intro hv other hopp
    have hin : (w.mapEquipment (·.wear slot id)).inSlot? slot = some item := by
      rw [inSlot?_wear, if_pos rfl, hl]
    exact (suits_wear (Slot.oppositeHand_ne hopp)).mp
      (classicHands_iff.mp hv slot other item type hopp hin ht)
  · intro hsuits
    refine classicHands_iff.mpr fun hand other held heldType hopp hin htype => ?_
    rw [inSlot?_wear] at hin
    by_cases hs : slot = hand
    · subst hs
      rw [if_pos rfl, hl] at hin
      obtain rfl := Option.some.inj hin
      obtain rfl := Option.some.inj (ht.symm.trans htype)
      exact (suits_wear (Slot.oppositeHand_ne hopp)).mpr (hsuits other hopp)
    · rw [if_neg hs] at hin
      by_cases ho : slot = other
      · -- the other hand is the one that is filled
        subst ho
        rcases hsuits hand (Slot.oppositeHand_symm hopp) with hnone | ⟨htwo, hall⟩
        · rw [inSlot?_of_get_eq_none hnone] at hin
          simp at hin
        · obtain ⟨h1, h2, h3⟩ := hall held heldType hin htype
          refine .inr ⟨h1, fun new newType hnew hnewType => ?_⟩
          rw [inSlot?_wear, if_pos rfl, hl] at hnew
          obtain rfl := Option.some.inj hnew
          obtain rfl := Option.some.inj (ht.symm.trans hnewType)
          exact ⟨htwo, fun hb => h2 hb.symm, h3.symm⟩
      · exact (suits_wear (Ne.symm ho)).mpr (classicHands_iff.mp h hand other held heldType hopp hin htype)

/-- Two items of one type are in the hands only if the type allows it. -/
theorem ClassicHands.not_heldOnce (h : w.ClassicHands types) {held : Item}
    (hopp : slot.oppositeHand = some other) (hin : w.inSlot? slot = some item)
    (ht : types item.type = some type) (hin' : w.inSlot? other = some held)
    (ht' : types held.type = some type) : ¬ type.HeldOnce := by
  intro honce
  rcases classicHands_iff.mp h slot other item type hopp hin ht with hnone | ⟨htwo, hall⟩
  · rw [inSlot?_of_get_eq_none hnone] at hin'
    simp at hin'
  · obtain ⟨-, hs, hoff⟩ := hall held type hin' ht'
    rcases honce with h | h | h
    · exact htwo h
    · exact hs ⟨h, h⟩
    · exact h (hoff.elim id id)

end Wearer

namespace Dressing

open Wearer

variable {hook : EquipHook σ} {request : EquipRequest} {s : σ}

/-- The request is accepted for a hand although the item, of which no two may be held, lies in the other
hand and stays there. -/
def Straddles (rules : Rules) (hook : EquipHook σ) (w : Wearer) (request : EquipRequest) (s : σ) : Prop :=
  ∃ outcome hand other item type, (tryEquip rules hook w request s).value.2.2 = .ok outcome ∧
    outcome.destination = .slot hand ∧ hand.oppositeHand = some other ∧
    rules.resolve? w.arena request.item = some (item, type) ∧ type.HeldOnce ∧
    w.character.equipment.get other = some request.item ∧
    ¬ Vacates w request.item item (movedCount type request) other

/-- A hand is checked against the other one. -/
theorem fitsClassicHand_of_fits {c : Character} {a : Arena}
    (hclassic : rules.config.classicEquipmentSlots = true) (hopp : slot.oppositeHand = some other)
    (hfits : fitsSlot rules a c id item type slot count = .ok ()) :
    fitsClassicHand rules a id item type count (c.equipment.get other) = .ok () := by
  have hallows : type.positions.allows slot = true := by
    refine allows_of_fits ?_ hfits
    rintro rfl
    simp [Slot.oppositeHand] at hopp
  unfold fitsSlot at hfits
  simp only [if_pos hallows, hclassic, if_true] at hfits
  cases slot <;> cases hopp <;> exact hfits

/-- The check of a one-handed item against an item of a known type. -/
theorem fitsClassicHand_of_known {a : Arena} {occupant : ItemId} {held : Item} {heldType : ItemType}
    (htwo : ¬ type.isTwoHanded) (hr : rules.resolve? a occupant = some (held, heldType)) :
    fitsClassicHand rules a id item type count (some occupant) =
      if heldType.isTwoHanded then .error .dropTwoHandedItem
      else if occupant = id && count = item.count then .ok ()
      else if heldType.weaponType = .shield && type.isShield then .error .onlyOneShield
      else require (heldType.weaponType.isOffHand || type.weaponType.isOffHand) .onlyOneWeapon := by
  simp only [fitsClassicHand, if_neg htwo, hr]
  rfl

/-- What the check says of an item in one hand and another item in the other. -/
theorem suits_of_fits {occupant : ItemId} (hg : w.character.equipment.get other = some occupant)
    (hne : occupant ≠ id)
    (hfits : fitsClassicHand rules w.arena id item type count (some occupant) = .ok ()) :
    w.Suits rules.itemType? type other := by
  by_cases htwo : type.isTwoHanded
  · simp only [fitsClassicHand, if_pos htwo] at hfits
    exact absurd (of_decide_eq_true (require_eq_ok.mp hfits)) hne
  · refine .inr ⟨htwo, fun held heldType hin hheld => ?_⟩
    obtain ⟨x, hx, hl⟩ := inSlot?_eq_some.mp hin
    obtain rfl := Option.some.inj (hg.symm.trans hx)
    rw [fitsClassicHand_of_known htwo (Rules.resolve?_eq_some.mpr ⟨hl, hheld⟩)] at hfits
    have hother : ¬ (decide (occupant = id) && decide (count = item.count)) = true := by simp [hne]
    rw [if_neg hother] at hfits
    split_ifs at hfits with hheldTwo hshields
    have hoff := require_eq_ok.mp hfits
    rw [Bool.or_eq_true] at hoff
    exact ⟨hheldTwo, fun hb => hshields (Bool.and_eq_true_iff.mpr hb.symm), hoff.symm⟩

/-- What a hand takes suits the other hand after the item was taken, unless the request straddles. -/
theorem suits_iff_of_fits (hr : Regular (n + 1) w) (ht : Taken w id item count hand)
    (hkind : rules.resolve? w.arena id = some (item, type))
    (hfits : fitsClassicHand rules w.arena id item type count (w.character.equipment.get other) = .ok ()) :
    hand.1.Suits rules.itemType? type other ↔
      ¬ (type.HeldOnce ∧ w.character.equipment.get other = some id ∧ ¬ Vacates w id item count other) := by
  obtain ⟨hl, htype⟩ := Rules.get?_of_resolve? hkind
  rcases ht.get_hand other with ⟨hv, hnone⟩ | ⟨hv, hsame⟩
  · exact iff_of_true (.inl hnone) fun hs => hs.2.2 hv
  · cases hg : w.character.equipment.get other with
    | none =>
      refine iff_of_true (.inl (hsame.trans hg)) ?_
      rintro ⟨-, h, -⟩
      simp at h
    | some occupant =>
      rw [hg] at hfits
      by_cases he : occupant = id
      · -- the item lies in the other hand and stays there
        subst he
        obtain ⟨held, hheld, hheldType, -⟩ := ht.exists_same hr.sound hl
        have hin : hand.1.inSlot? other = some held := inSlot?_eq_some.mpr ⟨occupant, hsame.trans hg, hheld⟩
        have hknown : rules.itemType? held.type = some type := by rw [hheldType]; exact htype
        constructor
        · rintro (hnone | ⟨htwo, hall⟩) ⟨honce, -⟩
          · rw [hsame, hg] at hnone
            simp at hnone
          · obtain ⟨-, hs, hoff⟩ := hall held type hin hknown
            rcases honce with h | h | h
            · exact htwo h
            · exact hs ⟨h, h⟩
            · exact h (hoff.elim id id)
        · intro hn
          have honce : ¬ type.HeldOnce := fun h => hn ⟨h, rfl, hv⟩
          refine .inr ⟨fun h => honce (.inl h), fun held' heldType' hin' ht' => ?_⟩
          obtain rfl := Option.some.inj (hin.symm.trans hin')
          obtain rfl := Option.some.inj (hknown.symm.trans ht')
          refine ⟨fun h => honce (.inl h), fun h => honce (.inr (.inl h.1)), .inl ?_⟩
          by_contra h
          exact honce (.inr (.inr h))
      · refine iff_of_true ?_ fun hs => he (Option.some.inj hs.2.1)
        rcases suits_of_fits hg he hfits with hnone | ⟨htwo, hall⟩
        · exact absurd (hnone.symm.trans hg) (by simp)
        · refine .inr ⟨htwo, fun held heldType hin hheld => ?_⟩
          obtain ⟨old, ho, hot, -⟩ := (ht.fades hr).inSlot? hr hin
          exact hall old heldType ho (hot ▸ hheld)

/-- A request keeps the rule of the hands exactly if it does not straddle. -/
theorem classicHands_tryEquip_iff (hclassic : rules.config.classicEquipmentSlots = true)
    (hk : hook.KeepsSlots) (hr : Regular (n + 1) w) (hw : w.ClassicHands rules.itemType?) :
    (tryEquip rules hook w request s).value.1.ClassicHands rules.itemType? ↔
      ¬ Straddles rules hook w request s := by
  cases hres : (tryEquip rules hook w request s).value.2.2 with
  | error e =>
    obtain ⟨t, -, he⟩ := tryEquip_of_error hres
    rw [he]
    refine iff_of_true hw ?_
    rintro ⟨outcome, -, -, -, -, hok, -⟩
    rw [hres] at hok
    exact absurd hok (by simp)
  | ok outcome =>
    obtain ⟨p, item, type, hand, done, hkind, hle, hplanned, htaken, hlanded, ha, he, ho⟩ :=
      exists_hand_of_tryEquip hres
    obtain ⟨hl, htype⟩ := Rules.get?_of_resolve? hkind
    have hiff : (tryEquip rules hook w request s).value.1.ClassicHands rules.itemType? ↔
        done.1.ClassicHands rules.itemType? :=
      ⟨fun h => h.of_eq ha.symm (he hk).symm, fun h => h.of_eq ha (he hk)⟩
    rw [hiff]
    have hhand := (htaken.fades hr).classicHands hr hw
    have hreg := htaken.regular hr
    cases hlanded with
    | @worn there displaced =>
      obtain ⟨held, hheld, hheldType, -⟩ := htaken.exists_hand hr.sound hl
      have hknown : rules.itemType? held.type = some type := by rw [hheldType]; exact htype
      have hd : outcome.destination = .slot there := by rw [ho]; rfl
      rw [classicHands_wear_iff hhand hheld hknown there]
      constructor
      · rintro hsuits ⟨outcome', there', other, item', type', hok, hd', hopp, hkind', honce, hg, hv⟩
        obtain rfl := Except.ok.inj (hres.symm.trans hok)
        obtain rfl := Destination.slot.inj (hd.symm.trans hd')
        obtain ⟨rfl, rfl⟩ := Prod.mk.inj (Option.some.inj (hkind.symm.trans hkind'))
        have hfits := fitsClassicHand_of_fits hclassic hopp (fits_of_tryEquip hres hkind hd)
        exact (suits_iff_of_fits hr htaken hkind hfits).mp (hsuits other hopp) ⟨honce, hg, hv⟩
      · intro hn other hopp
        have hfits := fitsClassicHand_of_fits hclassic hopp (fits_of_tryEquip hres hkind hd)
        refine (suits_iff_of_fits hr htaken hkind hfits).mpr ?_
        rintro ⟨honce, hg, hv⟩
        exact hn ⟨outcome, there, other, item, type, hres, hd, hopp, hkind, honce, hg, hv⟩
    | joined hp hne hs hheld htypes =>
      refine iff_of_true ((fades_joinStack hand.1 hand.2 _ _).classicHands hreg hhand) ?_
      rintro ⟨outcome', there, other, item', type', hok, hd, hopp, hkind', honce, hg, -⟩
      obtain rfl := Except.ok.inj (hres.symm.trans hok)
      obtain ⟨rfl, rfl⟩ := Prod.mk.inj (Option.some.inj (hkind.symm.trans hkind'))
      cases hplanned with
      | fill => exact hp _ _ rfl
      | again => exact hp _ _ rfl
      | exchange => exact hp _ _ rfl
      | stow => rw [ho] at hd; simp [Plan.outcome] at hd
      | @merge slot stack' held' hslot _ _ hheld' htypes' =>
        rw [ho] at hd
        obtain rfl := Destination.slot.inj hd
        have hknown : rules.itemType? held'.type = some type := by rw [htypes']; exact htype
        exact hw.not_heldOnce hopp (inSlot?_eq_some.mpr ⟨stack', hslot, hheld'⟩) hknown
          (inSlot?_eq_some.mpr ⟨request.item, hg, hl⟩) htype honce
    | listed =>
      refine iff_of_true (hhand.listed _ _) ?_
      rintro ⟨outcome', there, other, item', type', hok, hd, -⟩
      obtain rfl := Except.ok.inj (hres.symm.trans hok)
      rw [ho] at hd
      simp [Plan.outcome] at hd

/-- If every item has one owner, a request straddles only with a part of a two-handed stack. -/
theorem Straddles.twoHanded (h : Straddles rules hook w request s)
    (hclassic : rules.config.classicEquipmentSlots = true) (hw : w.WellOwned) :
    ∃ item type, rules.resolve? w.arena request.item = some (item, type) ∧ type.isTwoHanded ∧
      movedCount type request < item.count := by
  obtain ⟨outcome, there, other, item, type, hok, hd, hopp, hkind, honce, hg, hv⟩ := h
  obtain ⟨hl, htype⟩ := Rules.get?_of_resolve? hkind
  have hslot : w.character.equipment.slotOf request.item = some other :=
    hw.slotOf_of_get hl hg
  have hpart : movedCount type request < item.count := Nat.lt_of_not_le fun hle => hv ⟨hslot, hle⟩
  refine ⟨item, type, hkind, ?_, hpart⟩
  by_contra htwo
  have hfits := fitsClassicHand_of_fits hclassic hopp (fits_of_tryEquip hok hkind hd)
  rw [hg, fitsClassicHand_of_known htwo hkind] at hfits
  have hcount : ¬ (decide (request.item = request.item) &&
      decide (movedCount type request = item.count)) = true := by simp [Nat.ne_of_lt hpart]
  rw [if_neg htwo, if_neg hcount] at hfits
  split_ifs at hfits with hshields
  have hoff := require_eq_ok.mp hfits
  rw [Bool.or_self] at hoff
  rcases honce with h | h | h
  · exact htwo h
  · exact hshields (Bool.and_eq_true_iff.mpr ⟨h, h⟩)
  · exact h hoff

end Dressing

end Adventurer
