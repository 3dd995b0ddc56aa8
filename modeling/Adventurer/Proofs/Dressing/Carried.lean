import Adventurer.Proofs.Dressing.Conservation
import Adventurer.Proofs.Dressing.Ownership

/-!
# What becomes of carried items

After an accepted request each item that was carried still is, lies in what was pushed out, or has been
used up by the stack it joined.  There are two exceptions.  A part of a stack that is asked into the very
slot of that stack takes the slot, and what is left of the stack is nowhere; and a stack that goes onto one
that thirty-two bits do not hold with it is used up without being in there.
-/

namespace Adventurer

open Dressing

variable {σ : Type} {rules : Rules} {w v : Wearer} {request : EquipRequest} {id x box placed : ItemId}
  {source item : Item} {type : ItemType} {count : Nat} {hand done : Wearer × ItemId} {p : Plan}

namespace Wearer

/-- All of `x` was added to the stack `placed`, and all of it is in there. -/
def JoinedWhole (w v : Wearer) (x placed : ItemId) : Prop :=
  ∃ item held grown, w.arena.get? x = some item ∧ v.arena.get? x = none ∧
    w.arena.get? placed = some held ∧ held.type = item.type ∧
    v.arena.get? placed = some grown ∧ grown.type = item.type ∧
    grown.count = held.count + item.count

/-- What has become of an item: it is carried, it is in what was pushed out, or it has joined the stack at
the destination. -/
def Kept (w v : Wearer) (request : EquipRequest) (outcome : EquipOutcome) (x : ItemId) : Prop :=
  ((∃ item, v.arena.get? x = some item) ∧ v.Carries x) ∨
  (∃ other, outcome.displaced = some other ∧ v.arena.Reaches other x) ∨
  (x = request.item ∧ w.JoinedWhole v x outcome.placed)

theorem Carries.of_lists (h : w.Carries x) (he : v.character.equipment = w.character.equipment)
    (hl : ∀ u c, w.arena.Lists u c → v.arena.Lists u c) : v.Carries x := by
  obtain ⟨slot, root, hslot, hr⟩ := h
  exact ⟨slot, root, he ▸ hslot, hr.mono hl⟩

/-! ## The item in hand -/

theorem lists_split (hs : w.arena.Sound) {u c : ItemId} :
    (w.split id source count).1.Lists u c ↔ w.arena.Lists u c :=
  ((sound_rest hs id count).lists_insert rfl).trans lists_rest

namespace Taken

variable (ht : Taken w id source count hand)
include ht

/-- What was carried still is, or lies in the whole item in hand. -/
theorem carries_or (hs : w.arena.Sound) (hc : w.Carries x) :
    hand.1.Carries x ∨ hand.2 = id ∧ hand.1.arena.Reaches id x := by
  cases ht with
  | part => exact Or.inl (hc.of_lists rfl fun u c => (lists_split hs).mpr)
  | @worn cleared _ hslot =>
    obtain ⟨slot, root, hroot, hr⟩ := hc
    by_cases he : cleared = slot
    · subst he
      obtain rfl := Option.some.inj (hroot.symm.trans (Equipment.get_of_slotOf hslot))
      exact Or.inr ⟨rfl, hr⟩
    · refine Or.inl ⟨slot, root, ?_, hr⟩
      show (w.character.equipment.clear cleared).get slot = some root
      rw [Equipment.get_clear, if_neg he]
      exact hroot
  | packed =>
    obtain ⟨slot, root, hroot, hr⟩ := hc
    rcases hr.or_of_except fun u c hne hl => hl.unlist hne with h | h
    · exact Or.inl ⟨slot, root, hroot, h⟩
    · exact Or.inr ⟨rfl, h⟩
  | loose => exact Or.inl hc

end Taken

/-! ## Joining -/

section Joining

variable {moved stack : ItemId} {inHand onto : Item} (hm : w.arena.get? moved = some inHand)
  (hempty : inHand.contents = [])
include hm hempty

/-- What is in hand is gone, and the stack has grown. -/
theorem get?_joinStack (hstack : w.arena.get? stack = some onto) (hne : stack ≠ moved) (count : Nat)
    (x : ItemId) :
    (w.joinStack moved stack count).arena.get? x =
      if x = moved then none
      else if x = stack then some (onto.grow count)
      else w.arena.get? x := by
  show ((w.arena.remove moved).modify stack _).get? x = _
  rw [Arena.get?_modify, get?_remove_stack hm hempty hstack hne, Arena.remove_eq_vacate hm hempty, Arena.get?_vacate hm]
  by_cases hx : x = stack
  · rw [if_pos hx, hx, if_neg hne, if_pos rfl]
    rfl
  · rw [if_neg hx, if_neg hx]

theorem lists_joinStack {u c : ItemId} :
    (w.joinStack moved stack count).arena.Lists u c ↔ w.arena.Lists u c := by
  refine (Arena.lists_modify (Item.contents_grow count)).trans ?_
  rw [Arena.remove_eq_vacate hm hempty]
  exact Arena.lists_vacate hm hempty

end Joining

/-! ## After the move -/

/-- The item is asked, in part, into the slot that already holds it. -/
def SplitsInPlace (w : Wearer) (rules : Rules) (request : EquipRequest) : Prop :=
  ∃ slot item type, request.target = .named slot ∧
    w.character.equipment.get slot = some request.item ∧
    rules.resolve? w.arena request.item = some (item, type) ∧ movedCount type request < item.count

/-- All of a carried stack goes onto a stack that thirty-two bits do not hold with it. -/
def OverflowsWhole (w : Wearer) (rules : Rules) (request : EquipRequest) : Prop :=
  w.Carries request.item ∧ Overflows rules w request ∧
    ∃ item type, rules.resolve? w.arena request.item = some (item, type) ∧
      item.count ≤ movedCount type request

variable {outcome : EquipOutcome} (ht : Taken w request.item source count hand)
  (hs : w.arena.Sound) (hx : w.arena.get? x = some item) (hc : w.Carries x)
include ht hs hx hc

/-- Wearing what is in hand keeps what was carried, or pushes it out. -/
theorem kept_of_worn {slot : Slot}
    (hp : Planned rules w request source type count (.wear slot outcome.displaced))
    (hn : count < source.count → request.target = .named slot →
      w.character.equipment.get slot ≠ some request.item) :
    Kept w (hand.1.mapEquipment (·.wear slot hand.2)) request outcome x := by
  have hworn : (hand.1.character.equipment.wear slot hand.2).get slot = some hand.2 := by
    rw [Equipment.get_wear, if_pos rfl]
  have hlive := ht.exists_of_get? hs hx
  rcases ht.carries_or hs hc with ⟨place, root, hroot, hr⟩ | ⟨hid, hr⟩
  · by_cases he : slot = place
    · -- what held the item was in the way, unless it is the item that is put back
      subst he
      have hbefore := ht.get_of_get hroot
      generalize hd : outcome.displaced = displaced at hp
      cases hp with
      | fill h => exact absurd (h.symm.trans hbefore) (by simp)
      | exchange h =>
        obtain rfl := Option.some.inj (h.symm.trans hbefore)
        exact Or.inr (Or.inl ⟨_, hd, hr⟩)
      | again h hto =>
        obtain rfl := Option.some.inj (h.symm.trans hbefore)
        have hwhole : hand.2 = request.item := by
          cases ht with
          | part hlt => exact absurd h (hn hlt hto)
          | worn => rfl
          | packed => rfl
          | loose => rfl
        exact Or.inl ⟨hlive, slot, hand.2, hworn, hwhole.symm ▸ hr⟩
    · refine Or.inl ⟨hlive, place, root, ?_, hr⟩
      show (hand.1.character.equipment.wear slot hand.2).get place = some root
      rw [Equipment.get_wear, if_neg he]
      exact hroot
  · exact Or.inl ⟨hlive, slot, hand.2, hworn, hid.symm ▸ hr⟩

/-- Putting what is in hand into a carried container keeps what was carried. -/
theorem kept_of_listed (hp : Planned rules w request source type count (.stow box)) :
    Kept w (hand.1.mapArena (·.modify box (Arena.enlist hand.2))) request outcome x := by
  refine Or.inl ⟨?_, ?_⟩
  · exact Arena.exists_modify_iff.mpr (ht.exists_of_get? hs hx)
  · cases hp with
    | stow hbox hcontainer hout =>
      rcases ht.carries_or hs hc with h | ⟨hid, hr⟩
      · exact h.of_lists rfl fun u c hl => hl.enlist
      · -- the container is not in hand, so it is carried, and now it lists the item
        have hbag : hand.1.Carries box := by
          rcases ht.carries_or hs hbox with h | ⟨-, h⟩
          · exact h
          · exact absurd (h.mono fun u c hl => ht.lists_of_lists hl) hout
        obtain ⟨bag, hlive⟩ := exists_of_isContainer hcontainer
        obtain ⟨held, hheld⟩ := ht.exists_of_get? hs hlive
        obtain ⟨slot, root, hroot, hreach⟩ := hbag
        refine ⟨slot, root, hroot, ?_⟩
        have hitem : (hand.1.arena.modify box (Arena.enlist hand.2)).Reaches root hand.2 :=
          (hreach.mono fun u c hl => hl.enlist).tail (Arena.lists_enlist_self hheld)
        have hinside : hand.1.arena.Reaches hand.2 x := by
          rw [hid]
          exact hr
        exact hitem.trans (hinside.mono fun u c hl => hl.enlist)

/-- Joining a stack keeps what was carried; the item that is used up is in the stack. -/
theorem kept_of_joined {stack : ItemId} {held : Item} (hl : w.arena.get? request.item = some source)
    (hle : count ≤ source.count) (hplain : source.contents = []) (hne : stack ≠ request.item)
    (hheld : w.arena.get? stack = some held) (htype : held.type = source.type)
    (hfits : w.Carries request.item → source.count ≤ count → held.count + count ≤ max32)
    (hplaced : outcome.placed = stack) :
    Kept w (hand.1.joinStack hand.2 stack count) request outcome x := by
  obtain ⟨inHand, h1, -, -, h4⟩ := ht.exists_item hs hl hle
  obtain ⟨onto, h5, h6, h7, h8⟩ := ht.exists_other hs hheld hne
  have hempty : inHand.contents = [] := h4 hplain
  have hafter := get?_joinStack h1 hempty h5 h8 count
  by_cases hxh : x = hand.2
  · -- what was live before and is in hand is the whole item
    subst hxh
    obtain ⟨hid, hwhole⟩ := ht.whole_of_live hx
    refine Or.inr (Or.inr ⟨hid, source, held, onto.grow count, hid ▸ hl, ?_,
      hplaced.symm ▸ hheld, htype, ?_, h6.trans htype, ?_⟩)
    · rw [hafter, if_pos rfl]
    · rw [hplaced, hafter, if_neg h8, if_pos rfl]
    · show wrap max32 (onto.count + count) = held.count + source.count
      rw [h7, wrap_of_le (hfits (hid ▸ hc) hwhole), Nat.le_antisymm hle hwhole]
  · left
    refine ⟨?_, ?_⟩
    · obtain ⟨now, hnow⟩ := ht.exists_of_get? hs hx
      rw [hafter, if_neg hxh]
      split_ifs
      · exact ⟨_, rfl⟩
      · exact ⟨now, hnow⟩
    · rcases ht.carries_or hs hc with h | ⟨hid, hr⟩
      · exact h.of_lists rfl fun u c => (lists_joinStack h1 hempty).mpr
      · -- nothing else lies in a stack
        rw [← hid] at hr
        refine absurd (hr.eq_of_not_lists ?_) hxh
        rintro c ⟨bag, hb, hc⟩
        obtain rfl := Option.some.inj (h1.symm.trans hb)
        rw [hempty] at hc
        exact absurd hc List.not_mem_nil

theorem kept_of_landed (h : Landed rules w request.item source type count hand p done)
    (hp : Planned rules w request source type count p) (hl : w.arena.get? request.item = some source)
    (hle : count ≤ source.count) (hplain : type.stackable = true → source.contents = [])
    (hn : ∀ slot, count < source.count → request.target = .named slot →
      w.character.equipment.get slot ≠ some request.item)
    (hover : w.Carries request.item → source.count ≤ count →
      ¬ ∃ box, p = .stow box ∧ w.OverflowsIn rules request.item box count)
    (ho : outcome = p.outcome done.2) :
    Kept w done.1 request outcome x := by
  subst ho
  cases h with
  | @worn slot => exact kept_of_worn ht hs hx hc hp (hn slot)
  | listed => exact kept_of_listed ht hs hx hc hp
  | @joined _ stack held hwear hne hst hheld htype _ hroom hin =>
    refine kept_of_joined ht hs hx hc hl hle (hplain hst) hne hheld htype (fun hcarried hwhole => ?_)
      (placed_outcome p _)
    exact (le_max32_iff_of_joined hwear hheld hroom hin).mpr (hover hcarried hwhole)

end Wearer

/-! ## Accepted requests -/

theorem Wearer.Kept.congr {u : Wearer} {outcome : EquipOutcome} (h : w.Kept v request outcome x)
    (ha : u.arena = v.arena) (he : u.character.equipment = v.character.equipment) :
    w.Kept u request outcome x := by
  unfold Wearer.Kept Wearer.Carries Wearer.JoinedWhole at h ⊢
  rw [ha, he]
  exact h

/-- A request for the slot that holds the item is planned for this slot. -/
theorem eq_wear_of_planned {slot : Slot} (hp : Planned rules w request source type count p)
    (ht : request.target = .named slot) (hslot : w.character.equipment.get slot = some request.item) :
    p = .wear slot none := by
  cases hp with
  | fill h hto =>
    obtain rfl := hto slot ht
    exact absurd (h.symm.trans hslot) (by simp)
  | again _ hto =>
    obtain rfl := SlotTarget.named.inj (ht.symm.trans hto)
    rfl
  | exchange h hne hto =>
    obtain rfl := hto slot ht
    exact absurd (Option.some.inj (h.symm.trans hslot)) hne
  | merge h hne _ _ _ _ hto =>
    obtain rfl := hto slot ht
    exact absurd (Option.some.inj (h.symm.trans hslot)) hne
  | stow _ _ _ hto => exact absurd (ht.symm.trans hto) (by simp)

/-- The part that is split off takes the slot, and the rest of the stack is nowhere. -/
theorem not_kept_of_landed {slot : Slot} {outcome : EquipOutcome}
    (ht : Wearer.Taken w request.item source count hand) (hlt : count < source.count)
    (h : Wearer.Landed rules w request.item source type count hand (.wear slot none) done)
    (hs : w.arena.Sound) (hw : w.WellOwned) (hl : w.arena.get? request.item = some source)
    (hslot : w.character.equipment.get slot = some request.item) (hd : outcome.displaced = none) :
    ¬ w.Kept done.1 request outcome request.item := by
  have hone : w.character.equipment.items.count request.item + w.arena.listings request.item ≤ 1 :=
    hw request.item source hl
  have hworn := Equipment.count_items_pos_iff.mpr ⟨slot, hslot⟩
  have hnew : hand.2 ≠ request.item := fun he => by
    obtain ⟨-, hwhole⟩ := ht.whole_of_live (he ▸ hl)
    omega
  cases h with
  | joined hp => exact absurd rfl (hp slot none)
  | worn =>
    obtain ⟨left, hlive⟩ := ht.exists_of_get? hs hl
    have hclear : ∀ there, (hand.1.character.equipment.wear slot hand.2).get there ≠
        some request.item := by
      intro there h
      have hcount := Equipment.count_items_wear w.character.equipment slot hand.2 request.item
      rw [if_pos hslot, if_neg hnew] at hcount
      have hbefore : (w.character.equipment.wear slot hand.2).get there = some request.item := by
        rw [Equipment.get_wear] at h ⊢
        split_ifs at h ⊢
        · exact h
        · exact ht.get_of_get h
      have := Equipment.count_items_pos_iff.mpr ⟨there, hbefore⟩
      omega
    rintro (⟨-, there, root, hroot, hr⟩ | ⟨other, ho, -⟩ | ⟨-, -, -, -, -, hdead, -⟩)
    · by_cases hx : request.item = root
      · exact hclear there (hx ▸ hroot)
      · obtain ⟨box, -, hlist⟩ := hr.exists_lists hx
        have := Arena.listings_pos_iff.mpr ⟨box, ht.lists_of_lists hlist⟩
        omega
    · rw [hd] at ho
      exact absurd ho (by simp)
    · exact absurd (hdead.symm.trans hlive) (by simp)

/-- What goes onto a stack that overflows is used up, and not all of it is in there. -/
theorem not_kept_of_overflow (ht : Wearer.Taken w request.item source count hand)
    (h : Wearer.Landed rules w request.item source type count hand p done) (hs : w.arena.Sound)
    (hl : w.arena.get? request.item = some source) (hle : count ≤ source.count)
    (hwhole : source.count ≤ count) (hplain : type.stackable = true → source.contents = [])
    (hover : ∃ box, p = .stow box ∧ w.OverflowsIn rules request.item box count) :
    ¬ w.Kept done.1 request (p.outcome done.2) request.item := by
  cases h with
  | worn =>
    obtain ⟨box, hbox, -⟩ := hover
    cases hbox
  | listed hnone =>
    obtain ⟨box, hbox, stack, held, hjoin, -⟩ := hover
    obtain rfl := Plan.stow.inj hbox
    exact absurd (hjoin.symm.trans hnone) (by simp)
  | @joined _ stack held hwear hne hst hheld htype _ hroom hin =>
    have hhand : hand.2 = request.item := by
      cases ht with
      | part hlt => omega
      | worn => rfl
      | packed => rfl
      | loose => rfl
    obtain ⟨inHand, h1, -, -, h4⟩ := ht.exists_item hs hl hle
    obtain ⟨onto, h5, -, h7, h8⟩ := ht.exists_other hs hheld hne
    have hafter := Wearer.get?_joinStack h1 (h4 (hplain hst)) h5 h8 count
    have hdead := (hafter request.item).trans (if_pos hhand.symm)
    rintro (⟨⟨item, hlive⟩, -⟩ | ⟨other, ho, -⟩ | ⟨-, item, held', grown, hitem, -, hheld', -, hgrown, -, hcount⟩)
    · exact absurd (hdead.symm.trans hlive) (by simp)
    · obtain ⟨box, rfl, -⟩ := hover
      cases ho
    · -- all that was asked for would have to be in the stack
      rw [placed_outcome] at hheld' hgrown
      obtain rfl := Option.some.inj (hl.symm.trans hitem)
      obtain rfl := Option.some.inj (hheld.symm.trans hheld')
      obtain rfl := Option.some.inj (hgrown.symm.trans ((hafter stack).trans ((if_neg h8).trans (if_pos rfl))))
      have hsum : wrap max32 (onto.count + count) = held.count + source.count := hcount
      rw [h7, Nat.le_antisymm hwhole hle, wrap_eq_self_iff] at hsum
      exact (Wearer.le_max32_iff_of_joined hwear hheld hroom hin).mp hsum hover

/-- **When no carried item is lost.**  After an accepted request every live item that was carried is kept,
exactly if the request neither asks for a part of a stack in the slot that holds this stack, nor brings the
whole of a carried stack onto one that thirty-two bits do not hold with it. -/
theorem carried_kept_iff (rules : Rules) (hook : EquipHook σ) (w : Wearer) (request : EquipRequest)
    (s : σ) {outcome : EquipOutcome} (hk : hook.KeepsSlots) (hs : w.arena.Sound)
    (hp : w.arena.Every rules.Plain) (hw : w.WellOwned)
    (hok : (tryEquip rules hook w request s).value.2.2 = .ok outcome) :
    (∀ x item, w.arena.get? x = some item → w.Carries x →
      w.Kept (tryEquip rules hook w request s).value.1 request outcome x) ↔
    ¬ w.SplitsInPlace rules request ∧ ¬ w.OverflowsWhole rules request := by
  obtain ⟨p, n, t, hplan, ha, he, ho⟩ := exists_plan_of_tryEquip hok
  obtain ⟨source, type, hkind, rfl, -, hle, hplanned⟩ := planned_of_plan hplan
  obtain ⟨hand, htaken, hlanded⟩ := Wearer.exists_hand_of_move hkind hplanned
  obtain ⟨hl, htype⟩ := Rules.get?_of_resolve? hkind
  have hplain : type.stackable = true → source.contents = [] := fun hst => hp _ source hl ⟨type, htype, hst⟩
  constructor
  · refine fun hkept => ⟨?_, ?_⟩
    · rintro ⟨slot, item, type', htarget, hslot, hkind', hlt⟩
      obtain ⟨rfl, rfl⟩ := Prod.mk.inj (Option.some.inj (hkind.symm.trans hkind'))
      obtain rfl := eq_wear_of_planned hplanned htarget hslot
      have hitem := hkept request.item source hl ⟨slot, request.item, hslot, Arena.Reaches.refl _ _⟩
      refine not_kept_of_landed htaken hlt hlanded hs hw hl hslot ?_ (hitem.congr ha.symm (he hk).symm)
      rw [ho]
      rfl
    · rintro ⟨hc, hover, item, type', hkind', hwhole⟩
      obtain ⟨rfl, rfl⟩ := Prod.mk.inj (Option.some.inj (hkind.symm.trans hkind'))
      have hitem := hkept request.item source hl hc
      rw [ho] at hitem
      exact not_kept_of_overflow htaken hlanded hs hl hle hwhole hplain
        ((overflows_iff_of_plan hplan).mp hover) (hitem.congr ha.symm (he hk).symm)
  · rintro ⟨hsplit, hover⟩ x item hx hc
    refine (Wearer.kept_of_landed htaken hs hx hc hlanded hplanned hl hle hplain ?_ ?_ ho).congr ha (he hk)
    · exact fun slot hlt htarget hslot => hsplit ⟨slot, source, type, htarget, hslot, hkind, hlt⟩
    · exact fun hcarried hwhole hin =>
        hover ⟨hcarried, (overflows_iff_of_plan hplan).mpr hin, source, type, hkind, hwhole⟩

/-! ## Arrows out of the ammunition slot -/

theorem wellOwned_archer : archer.WellOwned := by
  intro x item _
  have hone : [(⟨0, 0⟩ : ItemId)].count x ≤ 1 := List.count_le_length
  show [(⟨0, 0⟩ : ItemId)].count x + (0 + (0 + 0)) ≤ 1
  omega

/-- Three of the worn arrows into the slot where they are: the other ninety-two are live, but neither
carried nor pushed out. -/
theorem worn_arrows_lost :
    archer.WellOwned ∧ archer.Carries ⟨0, 0⟩ ∧
      (tryEquip arrowRules .idle archer ⟨⟨0, 0⟩, .named .ammo, 3⟩ ()).value.2.2 =
        .ok ⟨⟨2, 0⟩, .slot .ammo, none⟩ ∧
      ¬ archer.Kept (tryEquip arrowRules .idle archer ⟨⟨0, 0⟩, .named .ammo, 3⟩ ()).value.1
        ⟨⟨0, 0⟩, .named .ammo, 3⟩ ⟨⟨2, 0⟩, .slot .ammo, none⟩ ⟨0, 0⟩ := by
  refine ⟨wellOwned_archer, Wearer.isCarried_iff.mp (by decide), by decide, ?_⟩
  rintro (⟨-, hc⟩ | ⟨other, ho, -⟩ | ⟨-, -, -, -, -, hdead, -⟩)
  · exact absurd (Wearer.isCarried_iff.mpr hc) (by decide)
  · exact absurd ho (by simp)
  · exact absurd hdead (by decide)

theorem carried_kept_iff_archer :
    archer.arena.Sound ∧ archer.arena.Every arrowRules.Plain ∧ archer.WellOwned ∧
      (tryEquip arrowRules .idle archer ⟨⟨1, 0⟩, .named .ammo, 5⟩ ()).value.2.2 =
        .ok ⟨⟨0, 0⟩, .slot .ammo, none⟩ ∧
      ∀ x item, archer.arena.get? x = some item → archer.Carries x →
        archer.Kept (tryEquip arrowRules .idle archer ⟨⟨1, 0⟩, .named .ammo, 5⟩ ()).value.1
          ⟨⟨1, 0⟩, .named .ammo, 5⟩ ⟨⟨0, 0⟩, .slot .ammo, none⟩ x := by
  have hs : archer.arena.Sound := (Arena.sound_empty.insert _).insert _
  have hp : archer.arena.Every arrowRules.Plain := every_archer (fun _ => rfl) (fun _ => rfl)
  have hb : archer.arena.Every arrowRules.Bounded :=
    every_archer (fun _ => by decide) (fun _ => by decide)
  have hok : (tryEquip arrowRules .idle archer ⟨⟨1, 0⟩, .named .ammo, 5⟩ ()).value.2.2 =
      .ok ⟨⟨0, 0⟩, .slot .ammo, none⟩ := by decide
  refine ⟨hs, hp, wellOwned_archer, hok, ?_⟩
  refine (carried_kept_iff arrowRules .idle archer ⟨⟨1, 0⟩, .named .ammo, 5⟩ () EquipHook.keepsSlots_idle
    hs hp wellOwned_archer hok).mpr ⟨?_, fun h => not_overflows_of_bounded hb h.2.1⟩
  rintro ⟨slot, item, type, htarget, hslot, -⟩
  obtain rfl := SlotTarget.named.inj htarget
  exact absurd hslot (by decide)

end Adventurer
