import Adventurer.Proofs.Dressing.Capacity
import Adventurer.Proofs.Dressing.Ownership

/-!
# Charges

An item without charges has no limit, so one of a type with charges must not be left without any
(`Charged`).  Moves touch no charges; but pieces split off a stack start without charges, and are unlimited
if they are not joined to another stack at once.
-/

namespace Adventurer

/-- An item of a type with charges has some left. -/
def Charged (types : ItemLookup) (item : Item) : Prop :=
  ∀ type, types item.type = some type → 0 < type.charges → 0 < item.charges

variable {types : ItemLookup} {rules : Rules} {w : Wearer} {id x : ItemId} {source item : Item}
  {count : Nat} {hand done : Wearer × ItemId}

namespace Wearer

/-- A part of an item of a type with charges is asked for; how many pieces are asked for may hang on the
type. -/
def AsksPart (types : ItemLookup) (w : Wearer) (id : ItemId) (count : ItemType → Nat) : Prop :=
  ∃ item type, w.arena.get? id = some item ∧ types item.type = some type ∧ 0 < type.charges ∧
    count type < item.count

/-! ## Taking an item in hand -/

theorem Taken.sound (ht : Taken w id source count hand) (hs : w.arena.Sound) : hand.1.arena.Sound := by
  cases ht with
  | part => exact (sound_rest hs id count).insert _
  | worn => exact hs
  | packed => exact hs.modify _ _
  | loose => exact hs

/-- Nothing is left without charges but pieces that were split off. -/
theorem Taken.charged_or_part (ht : Taken w id source count hand) (hs : w.arena.Sound)
    (h : w.arena.Every (Charged types)) (hx : hand.1.arena.get? x = some item) :
    Charged types item ∨ x = hand.2 ∧ count < source.count := by
  cases ht with
  | part hlt =>
    have hrest : (w.rest id count).arena.Every (Charged types) := h.modify fun old ho => h id old ho
    have hinsert : (w.split id source count).1.get? x = some item := hx
    unfold split at hinsert
    rw [(sound_rest hs id count).get?_insert] at hinsert
    split_ifs at hinsert with hnew
    · exact .inr ⟨hnew, hlt⟩
    · exact .inl (hrest x item hinsert)
  | worn => exact .inl (h x item hx)
  | @packed box =>
    have hlist : (w.arena.modify box (Arena.unlist id)).Every (Charged types) :=
      h.modify fun old ho => h box old ho
    exact .inl (hlist x item hx)
  | loose => exact .inl (h x item hx)

/-- Pieces that were split off are an item that was not there before, without charges. -/
theorem Taken.part_uncharged (ht : Taken w id source count hand) (hs : w.arena.Sound)
    (hlt : count < source.count) :
    w.arena.get? hand.2 = none ∧ ∃ held, hand.1.arena.get? hand.2 = some held ∧
      held.type = source.type ∧ held.charges = 0 := by
  cases ht with
  | part =>
    refine ⟨?_, _, (sound_rest hs id count).get?_insert_self _, rfl, rfl⟩
    have hnew : (w.rest id count).arena.get? (w.split id source count).2 = none :=
      Arena.get?_insert_new _ _
    cases hl : w.arena.get? (w.split id source count).2 with
    | none => rfl
    | some old =>
      obtain ⟨item, hitem⟩ : ∃ item, (w.rest id count).arena.get? (w.split id source count).2 = some item :=
        Arena.exists_modify_iff.mpr ⟨old, hl⟩
      rw [hitem] at hnew
      cases hnew
  | worn h => omega
  | packed h => omega
  | loose h => omega

/-! ## Putting it down -/

namespace Landed

variable {type : ItemType} {p : Dressing.Plan} (hland : Landed rules w id source type count hand p done)
include hland

/-- Putting down leaves nothing without charges but what is put down as it is. -/
theorem charged_or_placed {Q : Prop}
    (h : ∀ x item, hand.1.arena.get? x = some item → Charged types item ∨ x = hand.2 ∧ Q)
    (hx : done.1.arena.get? x = some item) : Charged types item ∨ (x = hand.2 ∧ done.2 = hand.2) ∧ Q := by
  cases hland with
  | worn => exact (h x item hx).imp_right fun hnew => ⟨⟨hnew.1, rfl⟩, hnew.2⟩
  | @joined _ stack =>
    left
    have hleft : (hand.1.arena.remove hand.2).Every (Charged types) := fun y held hy => by
      refine (h y held (Arena.get?_of_get?_remove hy)).resolve_right fun hnew => ?_
      rw [hnew.1, Arena.get?_remove_self] at hy
      cases hy
    have hjoined : ((hand.1.arena.remove hand.2).modify stack (Item.grow count)).Every (Charged types) :=
      hleft.modify fun held hheld => hleft stack held hheld
    exact hjoined x item hx
  | @listed box =>
    have hlist : (hand.1.arena.modify box (Arena.enlist hand.2)).get? x = some item := hx
    rw [Arena.get?_modify] at hlist
    split_ifs at hlist with hbox
    · obtain ⟨old, hold, rfl⟩ := Option.map_eq_some_iff.mp hlist
      subst hbox
      exact (h x old hold).imp_right fun hnew => ⟨⟨hnew.1, rfl⟩, hnew.2⟩
    · exact (h x item hlist).imp_right fun hnew => ⟨⟨hnew.1, rfl⟩, hnew.2⟩

/-- What is put down as an item of its own keeps its type and its charges. -/
theorem exists_placed (hplaced : w.arena.get? done.2 = none) {held : Item}
    (hheld : hand.1.arena.get? hand.2 = some held) :
    ∃ item, done.1.arena.get? done.2 = some item ∧ item.type = held.type ∧ item.charges = held.charges := by
  cases hland with
  | worn => exact ⟨held, hheld, rfl, rfl⟩
  | joined _ _ _ hstack =>
    rw [hstack] at hplaced
    cases hplaced
  | @listed box =>
    show ∃ item, (hand.1.arena.modify box (Arena.enlist hand.2)).get? hand.2 = some item ∧ _
    rw [Arena.get?_modify]
    split_ifs with hbox
    · subst hbox
      exact ⟨Arena.enlist hand.2 held, by rw [hheld]; rfl, rfl, rfl⟩
    · exact ⟨held, hheld, rfl, rfl⟩

end Landed

/-! ## Destroying what is used up -/

/-- Whatever has no charges left is worn in one of the slots. -/
def SpentIn (types : ItemLookup) (slots : List Slot) (w : Wearer) : Prop :=
  ∀ x item, w.arena.get? x = some item →
    Charged types item ∨ ∃ slot ∈ slots, w.character.equipment.get slot = some x

theorem SpentIn.charged (h : SpentIn types [] w) : w.arena.Every (Charged types) :=
  fun x item hx => (h x item hx).resolve_right fun ⟨_, hs, _⟩ => List.not_mem_nil hs

theorem SpentIn.tail {slot : Slot} {slots : List Slot} (h : SpentIn types (slot :: slots) w)
    (hnone : w.character.equipment.get slot = none) : SpentIn types slots w := by
  intro x item hx
  refine (h x item hx).imp_right ?_
  rintro ⟨there, hthere, hworn⟩
  rcases List.mem_cons.mp hthere with rfl | hthere
  · rw [hnone] at hworn
    cases hworn
  · exact ⟨there, hthere, hworn⟩

/-- Destroying what a slot holds leaves that slot nothing to account for. -/
theorem SpentIn.destroy {slot : Slot} {slots : List Slot} (h : SpentIn types (slot :: slots) w)
    (hslot : w.character.equipment.get slot = some id) :
    SpentIn types slots ((w.mapEquipment (·.clear slot)).mapArena (·.remove id)) := by
  intro x item hx
  have hold : (w.arena.remove id).get? x = some item := hx
  have hne : x ≠ id := by
    rintro rfl
    rw [Arena.get?_remove_self] at hold
    cases hold
  refine (h x item (Arena.get?_of_get?_remove hold)).imp_right ?_
  rintro ⟨there, hthere, hworn⟩
  have hother : there ≠ slot := by
    rintro rfl
    rw [hslot] at hworn
    exact hne (Option.some.inj hworn).symm
  refine ⟨there, (List.mem_cons.mp hthere).resolve_left hother, ?_⟩
  show (w.character.equipment.clear slot).get there = some x
  rw [Equipment.get_clear, if_neg hother.symm]
  exact hworn

theorem SpentIn.charged_discard {slots : List Slot} (h : SpentIn types slots w) (rules : Rules) :
    (w.discard rules slots).value.arena.Every (Charged types) := by
  unfold discard
  split_ifs with hnone
  · rw [List.isEmpty_iff.mp hnone] at h
    exact h.charged
  · rw [Told.value_bind, arena_refresh]
    refine SpentIn.charged (Told.foldlM_drain (P := fun slots v => SpentIn types slots v) ?_ slots h)
    intro slot slots v hv
    cases hslot : v.character.equipment.get slot with
    | none => exact hv.tail hslot
    | some id => exact hv.destroy hslot

end Wearer

namespace Dressing

variable {σ : Type} {hook : EquipHook σ} {request : EquipRequest} {slot : Slot} {s : σ}

theorem sound_tryEquip (hs : w.arena.Sound) : (tryEquip rules hook w request s).value.1.arena.Sound := by
  cases hres : (tryEquip rules hook w request s).value.2.2 with
  | error refusal =>
    obtain ⟨t, -, he⟩ := tryEquip_of_error hres
    rw [he]
    exact hs
  | ok outcome =>
    obtain ⟨p, item, type, hand, done, -, -, -, htaken, hlanded, ha, -⟩ := exists_hand_of_tryEquip hres
    rw [ha]
    exact hlanded.sound (htaken.sound hs)

theorem sound_tryUnequip (hs : w.arena.Sound) :
    (tryUnequip rules hook w slot count s).value.1.arena.Sound := by
  cases hres : (tryUnequip rules hook w slot count s).value.2.2 with
  | error refusal =>
    obtain ⟨t, -, he⟩ := tryUnequip_of_error hres
    rw [he]
    exact hs
  | ok taken =>
    obtain ⟨id, item, hand, -, -, htaken, ha, -⟩ := exists_hand_of_tryUnequip hres
    rw [ha]
    exact htaken.sound hs

/-- The request is accepted and splits pieces off an item of a type with charges that are then an item of
their own. -/
def SplitsCharged (types : ItemLookup) (rules : Rules) (hook : EquipHook σ) (w : Wearer)
    (request : EquipRequest) (s : σ) : Prop :=
  w.AsksPart types request.item (movedCount · request) ∧
    ∃ outcome, (tryEquip rules hook w request s).value.2.2 = .ok outcome ∧
      w.arena.get? outcome.placed = none

/-- A request to equip leaves every item charged exactly if it splits no charged one. -/
theorem charged_tryEquip_iff (hitems : rules.items = some types) (hs : w.arena.Sound)
    (h : w.arena.Every (Charged types)) :
    (tryEquip rules hook w request s).value.1.arena.Every (Charged types) ↔
      ¬ SplitsCharged types rules hook w request s := by
  cases hres : (tryEquip rules hook w request s).value.2.2 with
  | error refusal =>
    obtain ⟨t, -, he⟩ := tryEquip_of_error hres
    rw [he]
    refine iff_of_true h ?_
    rintro ⟨-, outcome, hok, -⟩
    rw [hres] at hok
    cases hok
  | ok outcome =>
    obtain ⟨p, item, type, hand, done, hkind, -, -, htaken, hlanded, ha, -, ho⟩ :=
      exists_hand_of_tryEquip hres
    obtain ⟨hl, htype⟩ := Rules.get?_of_resolve? hkind
    rw [Rules.itemType?_eq hitems] at htype
    have hplaced : outcome.placed = done.2 := by rw [ho, placed_outcome]
    rw [ha]
    constructor
    · -- pieces put down apart have no charges
      rintro hafter ⟨⟨source, kind, hsource, hkind, hcharges, hpart⟩, outcome', hok, hnew⟩
      obtain rfl : outcome = outcome' := Except.ok.inj (hres.symm.trans hok)
      obtain rfl : item = source := Option.some.inj (hl.symm.trans hsource)
      obtain rfl : type = kind := Option.some.inj (htype.symm.trans hkind)
      rw [hplaced] at hnew
      obtain ⟨-, held, hheld, hsame, hzero⟩ := htaken.part_uncharged hs hpart
      obtain ⟨placed, hdone, hsame', hzero'⟩ := hlanded.exists_placed hnew hheld
      have hpos := hafter _ _ hdone type (by rw [hsame', hsame]; exact htype) hcharges
      omega
    · intro hnone x held hx
      rcases hlanded.charged_or_placed (fun y held hy => htaken.charged_or_part hs h hy) hx with
        hcharged | ⟨⟨rfl, hdone⟩, hpart⟩
      · exact hcharged
      · intro kind hkind hcharges
        obtain ⟨hnew, old, hold, hsame, -⟩ := htaken.part_uncharged hs hpart
        rw [← hdone] at hnew hx
        obtain ⟨placed, hlive, hsame', -⟩ := hlanded.exists_placed hnew hold
        obtain rfl : held = placed := Option.some.inj (hx.symm.trans hlive)
        rw [hsame', hsame] at hkind
        obtain rfl : type = kind := Option.some.inj (htype.symm.trans hkind)
        rw [← hplaced] at hnew
        exact absurd ⟨⟨item, type, hl, htype, hcharges, hpart⟩, outcome, hres, hnew⟩ hnone

/-- The removal is accepted and takes a part of an item of a type with charges. -/
def TakesPart (types : ItemLookup) (rules : Rules) (hook : EquipHook σ) (w : Wearer) (slot : Slot)
    (count : Nat) (s : σ) : Prop :=
  ∃ id taken, w.character.equipment.get slot = some id ∧ w.AsksPart types id (fun _ => count) ∧
    (tryUnequip rules hook w slot count s).value.2.2 = .ok taken

/-- Taking something off leaves every item charged exactly if it takes no part of a charged one. -/
theorem charged_tryUnequip_iff (hs : w.arena.Sound) (h : w.arena.Every (Charged types)) :
    (tryUnequip rules hook w slot count s).value.1.arena.Every (Charged types) ↔
      ¬ TakesPart types rules hook w slot count s := by
  cases hres : (tryUnequip rules hook w slot count s).value.2.2 with
  | error refusal =>
    obtain ⟨t, -, he⟩ := tryUnequip_of_error hres
    rw [he]
    refine iff_of_true h ?_
    rintro ⟨id, taken, -, -, hok⟩
    rw [hres] at hok
    cases hok
  | ok taken =>
    obtain ⟨id, item, hand, hslot, hl, htaken, ha, -⟩ := exists_hand_of_tryUnequip hres
    rw [ha]
    constructor
    · rintro hafter ⟨other, taken', hother, ⟨source, type, hsource, htype, hcharges, hpart⟩, -⟩
      obtain rfl : id = other := Option.some.inj (hslot.symm.trans hother)
      obtain rfl : item = source := Option.some.inj (hl.symm.trans hsource)
      obtain ⟨-, held, hheld, hsame, hzero⟩ := htaken.part_uncharged hs hpart
      have hpos := hafter _ _ hheld type (by rw [hsame]; exact htype) hcharges
      omega
    · intro hnone x held hx
      rcases htaken.charged_or_part hs h hx with hcharged | ⟨rfl, hpart⟩
      · exact hcharged
      · intro type htype hcharges
        obtain ⟨-, old, hold, hsame, -⟩ := htaken.part_uncharged hs hpart
        obtain rfl : held = old := Option.some.inj (hx.symm.trans hold)
        rw [hsame] at htype
        exact absurd ⟨id, taken, hslot, ⟨item, type, hl, htype, hcharges, hpart⟩, hres⟩ hnone

end Dressing

end Adventurer
