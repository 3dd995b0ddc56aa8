import Adventurer.Proofs.Dressing.Moves

/-!
# Ownership

`w.namings x` counts the slots and the contents lists that name `x`, and a wearer is `WellOwned` if no
live item is named twice.  Most of what happens only takes names away (`Shrinks`).  A move adds one, for
the item that is put down, which is therefore right if that item was not named in the hand: it is not,
unless it lies in a container that the character does not carry, where nobody looks for it.
-/

namespace Adventurer

variable {w v u : Wearer} {id x box : ItemId} {source item : Item} {type : ItemType} {count n : Nat}
  {hand done : Wearer × ItemId} {p : Dressing.Plan}

/-- What each step of a loop hands on with one item less to come holds at the end with none. -/
theorem Told.foldlM_drain {α β : Type} {P : List β → α → Prop} {step : α → β → Told α}
    (h : ∀ b l a, P (b :: l) a → P l (step a b).value) :
    ∀ (l : List β) {a : α}, P l a → P [] (l.foldlM step a).value
  | [], _, ha => ha
  | b :: l, a, ha => by
    rw [List.foldlM_cons, Told.value_bind]
    exact Told.foldlM_drain h l (h b l a ha)

/-- What each step of a loop keeps, the loop keeps. -/
theorem Told.foldlM_induction {α β : Type} {P : α → Prop} {step : α → β → Told α}
    (h : ∀ a b, P a → P (step a b).value) (l : List β) {a : α} (ha : P a) : P (l.foldlM step a).value :=
  Told.foldlM_drain (P := fun _ a => P a) (fun b _ a => h a b) l ha

namespace Wearer

/-- How often an item is named: in the slots and in the contents lists of all items. -/
def namings (w : Wearer) (x : ItemId) : Nat :=
  w.character.equipment.items.count x + w.arena.listings x

/-- Every live item is named at most once. -/
def WellOwned (w : Wearer) : Prop := ∀ x item, w.arena.get? x = some item → w.namings x ≤ 1

/-- The arena is sound, only ids that it has given out are named, and each of its cells can be used `n`
more times. -/
structure Regular (n : Nat) (w : Wearer) : Prop where
  sound : w.arena.Sound
  issued : ∀ x, 0 < w.namings x → w.arena.Issued x
  room : Arena.Room n w.arena

theorem Regular.mono {m : Nat} (h : Regular n w) (hm : m ≤ n) : Regular m w :=
  ⟨h.sound, h.issued, h.room.mono hm⟩

namespace WellOwned

/-- A live item is worn in one slot at most. -/
theorem slot_eq {slot other : Slot} {id : ItemId} {item : Item} (hw : w.WellOwned)
    (hl : w.arena.get? id = some item) (hs : w.character.equipment.get slot = some id)
    (ho : w.character.equipment.get other = some id) : other = slot := by
  by_contra hne
  have htwo := Equipment.two_le_count_items hs ho hne
  have hone : w.character.equipment.items.count id + w.arena.listings id ≤ 1 := hw id item hl
  omega

/-- What is worn is listed nowhere. -/
theorem not_lists {slot : Slot} {box id : ItemId} {item : Item} (hw : w.WellOwned)
    (hl : w.arena.get? id = some item) (hs : w.character.equipment.get slot = some id) :
    ¬ w.arena.Lists box id := by
  intro hlist
  have hlisted := Arena.listings_pos_iff.mpr ⟨box, hlist⟩
  have hworn := Equipment.count_items_pos_iff.mpr ⟨slot, hs⟩
  have hone : w.character.equipment.items.count id + w.arena.listings id ≤ 1 := hw id item hl
  omega

end WellOwned

/-! ## Names taken away -/

/-- Items and namings have only become fewer. -/
structure Shrinks (w v : Wearer) : Prop where
  live : ∀ x item, v.arena.get? x = some item → ∃ old, w.arena.get? x = some old
  namings_le : ∀ x, v.namings x ≤ w.namings x
  sound : w.arena.Sound → v.arena.Sound
  generations : v.arena.generations = w.arena.generations

namespace Shrinks

theorem refl (w : Wearer) : Shrinks w w := ⟨fun _ item h => ⟨item, h⟩, fun _ => le_rfl, fun h => h, rfl⟩

theorem trans (h : Shrinks w v) (h' : Shrinks v u) : Shrinks w u where
  live x item hx := by
    obtain ⟨old, ho⟩ := h'.live x item hx
    exact h.live x old ho
  namings_le x := (h'.namings_le x).trans (h.namings_le x)
  sound hs := h'.sound (h.sound hs)
  generations := h'.generations.trans h.generations

theorem wellOwned (h : Shrinks w v) (hw : w.WellOwned) : v.WellOwned := by
  intro x item hx
  obtain ⟨old, ho⟩ := h.live x item hx
  exact (h.namings_le x).trans (hw x old ho)

theorem regular (h : Shrinks w v) (hr : Regular n w) : Regular n v where
  sound := h.sound hr.sound
  issued x hx :=
    (Arena.issued_congr h.generations).mpr
      (hr.issued x (Nat.lt_of_lt_of_le hx (h.namings_le x)))
  room := ⟨hr.room.le, by rw [h.generations]; exact hr.room.cells⟩

end Shrinks

/-- Only the arena and the slots matter. -/
theorem shrinks_of_eq (ha : v.arena = w.arena)
    (he : v.character.equipment = w.character.equipment) : Shrinks w v where
  live _ item hx := ⟨item, ha ▸ hx⟩
  namings_le _ := by unfold namings; rw [ha, he]
  sound hs := ha ▸ hs
  generations := by rw [ha]

theorem shrinks_clear (w : Wearer) (slot : Slot) : Shrinks w (w.mapEquipment (·.clear slot)) where
  live _ item hx := ⟨item, hx⟩
  namings_le x := by
    have h := Equipment.count_items_clear w.character.equipment slot x
    show (w.character.equipment.clear slot).items.count x + w.arena.listings x ≤ w.namings x
    unfold namings
    omega
  sound hs := hs
  generations := rfl

/-- A change that lists nothing new. -/
theorem shrinks_modify (w : Wearer) (id : ItemId) {change : Item → Item}
    (hc : ∀ item x, (change item).contents.count x ≤ item.contents.count x) :
    Shrinks w (w.mapArena (·.modify id change)) where
  live x item hx := by
    exact Arena.exists_modify_iff.mp ⟨item, hx⟩
  namings_le x := by
    show w.character.equipment.items.count x + (w.arena.modify id change).listings x ≤ w.namings x
    unfold namings
    cases hl : w.arena.get? id with
    | none => rw [Arena.modify_eq_self hl]
    | some item =>
      have h1 := Arena.listings_modify hl change x
      have h2 := hc item x
      omega
  sound hs := hs.modify _ _
  generations := Arena.generations_modify _ _ _

theorem shrinks_remove (w : Wearer) (id : ItemId) : Shrinks w (w.mapArena (·.remove id)) where
  live _ item hx := ⟨item, Arena.get?_of_get?_remove hx⟩
  namings_le _ := Nat.add_le_add_left (Arena.tally_remove_le w.arena id) _
  sound hs := hs.remove id
  generations := Arena.generations_remove _ _

theorem shrinks_joinStack (w : Wearer) (moved stack : ItemId) (count : Nat) :
    Shrinks w (w.joinStack moved stack count) :=
  (shrinks_remove w moved).trans (shrinks_modify _ stack fun _ _ => le_rfl)

theorem shrinks_refresh (rules : Rules) (w : Wearer) : Shrinks w (w.refresh rules).value :=
  shrinks_of_eq (arena_refresh rules w) (equipment_refresh rules w)

theorem shrinks_unlist (w : Wearer) (box id : ItemId) :
    Shrinks w (w.mapArena (·.modify box (Arena.unlist id))) :=
  shrinks_modify w box fun _ x => List.erase_sublist.count_le x

theorem shrinks_rest (w : Wearer) (id : ItemId) (count : Nat) : Shrinks w (w.rest id count) :=
  shrinks_modify w id fun _ _ => le_rfl

/-- What is kept when slots are emptied, items are destroyed and all is brought up to date, is kept when
what is worn is discarded. -/
theorem discard_induction {P : Wearer → Prop} (hclear : ∀ v slot, P v → P (v.mapEquipment (·.clear slot)))
    (hremove : ∀ v id, P v → P (v.mapArena (·.remove id)))
    (hrefresh : ∀ rules v, P v → P (v.refresh rules).value) (rules : Rules) (slots : List Slot)
    (hw : P w) : P (w.discard rules slots).value := by
  unfold discard
  split_ifs
  · exact hw
  · rw [Told.value_bind]
    refine hrefresh rules _ (Told.foldlM_induction (fun v slot hv => ?_) slots hw)
    cases v.character.equipment.get slot with
    | none => exact hv
    | some id => exact hremove _ id (hclear v slot hv)

/-! ## The item in hand -/

namespace Taken

variable (ht : Taken w id source count hand)
include ht

theorem namings_le (hs : w.arena.Sound) (x : ItemId) : hand.1.namings x ≤ w.namings x := by
  cases ht with
  | part =>
    have hrest := shrinks_rest w id count
    have h := (hrest.sound hs).tally_insert (f := fun item => item.contents.count x)
      { type := source.type, count }
    refine le_trans (le_of_eq ?_) (hrest.namings_le x)
    exact congrArg (w.character.equipment.items.count x + ·) h
  | worn => exact (shrinks_clear w _).namings_le x
  | packed => exact (shrinks_unlist w _ id).namings_le x
  | loose => exact le_rfl

/-- Taking makes no item live but the one in hand. -/
theorem exists_of_live (hs : w.arena.Sound) (hx : hand.1.arena.get? x = some item)
    (hne : x ≠ hand.2) : ∃ old, w.arena.get? x = some old := by
  cases ht with
  | part =>
    have hrest := shrinks_rest w id count
    have hx' : (w.split id source count).1.get? x = some item := hx
    have hne' : x ≠ (w.split id source count).2 := hne
    unfold split at hx' hne'
    rw [(hrest.sound hs).get?_insert, if_neg hne'] at hx'
    exact hrest.live x item hx'
  | worn => exact ⟨item, hx⟩
  | packed => exact (shrinks_unlist w _ id).live x item hx
  | loose => exact ⟨item, hx⟩

theorem regular (hr : Regular (n + 1) w) : Regular n hand.1 := by
  have hle := ht.namings_le hr.sound
  cases ht with
  | part =>
    have hrest := shrinks_rest w id count
    have hm := hrest.regular hr
    refine ⟨hm.sound.insert _, fun x hx => ?_, hm.sound.room_insert hm.room _⟩
    refine hm.sound.issued_insert hm.room _ ((Arena.issued_congr hrest.generations).mpr ?_)
    exact hr.issued x (Nat.lt_of_lt_of_le hx (hle x))
  | worn => exact ((shrinks_clear w _).regular hr).mono (Nat.le_succ n)
  | packed => exact ((shrinks_unlist w _ id).regular hr).mono (Nat.le_succ n)
  | loose => exact hr.mono (Nat.le_succ n)

/-- The item in hand is named nowhere, unless it is whole and lies in a container that the character
does not carry. -/
theorem namings_hand (hr : Regular (n + 1) w) (hw : w.WellOwned)
    (hl : w.arena.get? id = some source) :
    hand.1.namings hand.2 = 0 ∨
      hand = (w, id) ∧ (∀ slot, w.character.equipment.get slot ≠ some id) ∧
        ∃ box, w.arena.Lists box id ∧ ¬ w.Carries box := by
  have hle := ht.namings_le hr.sound
  have hid : w.character.equipment.items.count id + w.arena.listings id ≤ 1 := hw id source hl
  cases ht with
  | part =>
    have hrest := shrinks_rest w id count
    have hm := hrest.regular hr
    left
    by_contra hpos
    refine hm.sound.not_issued_insert hm.room { type := source.type, count } ?_
    refine (Arena.issued_congr hrest.generations).mpr ?_
    exact hr.issued _ (Nat.lt_of_lt_of_le (Nat.pos_of_ne_zero hpos) (hle _))
  | @worn slot _ hslot =>
    left
    have h := Equipment.count_items_clear w.character.equipment slot id
    rw [if_pos (Equipment.get_of_slotOf hslot)] at h
    show (w.character.equipment.clear slot).items.count id + w.arena.listings id = 0
    omega
  | @packed box _ _ _ hlist =>
    left
    obtain ⟨bag, hb, hx⟩ := hlist
    have h1 := Arena.listings_modify hb (Arena.unlist id) id
    have h2 : (Arena.unlist id bag).contents.count id = bag.contents.count id - 1 :=
      List.count_erase_self
    have h3 := List.count_pos_iff.mpr hx
    show w.character.equipment.items.count id + (w.arena.modify box (Arena.unlist id)).listings id = 0
    omega
  | loose _ hs hbox =>
    by_cases hlist : ∃ box, w.arena.Lists box id
    · obtain ⟨box, hb⟩ := hlist
      exact Or.inr ⟨rfl, hs, box, hb, fun hc => hbox box hc hb⟩
    · left
      have h1 := mt Arena.listings_pos_iff.mp hlist
      have h2 : ¬ 0 < w.character.equipment.items.count id := fun h => by
        obtain ⟨slot, hslot⟩ := Equipment.count_items_pos_iff.mp h
        exact hs slot hslot
      show w.character.equipment.items.count id + w.arena.listings id = 0
      omega

/-- What lies in a container that the character does not carry is taken in hand and left there. -/
theorem eq_of_lists (hw : w.WellOwned) (hl : w.arena.get? id = some source)
    (hid : hand.2 = id) (hlist : w.arena.Lists box id) (hc : ¬ w.Carries box) :
    hand = (w, id) ∧ ∀ slot, w.character.equipment.get slot ≠ some id := by
  have hone : w.character.equipment.items.count id + w.arena.listings id ≤ 1 := hw id source hl
  have hpos := Arena.listings_pos_iff.mpr ⟨box, hlist⟩
  cases ht with
  | part hlt =>
    obtain ⟨-, hwhole⟩ := Taken.whole_of_live (.part hlt) (hid.symm ▸ hl)
    omega
  | worn _ hslot =>
    have hworn := Equipment.count_items_pos_iff.mpr ⟨_, Equipment.get_of_slotOf hslot⟩
    omega
  | packed _ _ hcarried hother =>
    have htwo := Arena.two_le_listings hother hlist (fun he => hc (he ▸ hcarried))
    omega
  | loose _ hs => exact ⟨rfl, hs⟩

theorem wellOwned (hr : Regular (n + 1) w) (hw : w.WellOwned)
    (hl : w.arena.get? id = some source) : hand.1.WellOwned := by
  intro x item hx
  by_cases hne : x = hand.2
  · subst hne
    rcases ht.namings_hand hr hw hl with h | ⟨rfl, -⟩
    · omega
    · exact hw id source hl
  · obtain ⟨old, ho⟩ := ht.exists_of_live hr.sound hx hne
    exact (ht.namings_le hr.sound x).trans (hw x old ho)

end Taken

/-! ## Putting it down -/

namespace Landed

variable (h : Landed rules w id source type count hand p done)
include h

/-- Putting an item down names that item once more, and no other. -/
theorem namings_le (x : ItemId) :
    done.1.namings x ≤ hand.1.namings x + if x = hand.2 then 1 else 0 := by
  cases h with
  | @worn slot =>
    have hwear := Equipment.count_items_wear hand.1.character.equipment slot hand.2 x
    show (hand.1.character.equipment.wear slot hand.2).items.count x + hand.1.arena.listings x ≤ _
    unfold namings
    simp only [eq_comm (a := hand.2)] at hwear
    omega
  | joined => exact ((shrinks_joinStack hand.1 hand.2 _ count).namings_le x).trans (Nat.le_add_right _ _)
  | @listed box =>
    show hand.1.character.equipment.items.count x +
      (hand.1.arena.modify box (Arena.enlist hand.2)).listings x ≤ _
    unfold namings
    cases hl : hand.1.arena.get? box with
    | none =>
      rw [Arena.modify_eq_self hl]
      omega
    | some bag =>
      have hlist := Arena.listings_modify hl (Arena.enlist hand.2) x
      have hone : [hand.2].count x = if x = hand.2 then 1 else 0 := by
        simp only [List.count_singleton, beq_iff_eq, eq_comm (a := hand.2)]
      simp only [Arena.enlist, List.count_append, hone] at hlist
      omega

theorem exists_of_live (hx : done.1.arena.get? x = some item) :
    ∃ old, hand.1.arena.get? x = some old := by
  cases h with
  | worn => exact ⟨item, hx⟩
  | joined => exact (shrinks_joinStack hand.1 hand.2 _ count).live x item hx
  | listed => exact Arena.exists_modify_iff.mp ⟨item, hx⟩

theorem generations_eq : done.1.arena.generations = hand.1.arena.generations := by
  cases h with
  | worn => rfl
  | joined => exact (shrinks_joinStack hand.1 hand.2 _ count).generations
  | listed => exact Arena.generations_modify _ _ _

theorem sound (hs : hand.1.arena.Sound) : done.1.arena.Sound := by
  cases h with
  | worn => exact hs
  | joined => exact (shrinks_joinStack hand.1 hand.2 _ count).sound hs
  | listed => exact hs.modify _ _

theorem regular (hr : Regular n hand.1) (hl : hand.1.arena.get? hand.2 = some item) :
    Regular n done.1 where
  sound := h.sound hr.sound
  issued x hx := by
    refine (Arena.issued_congr h.generations_eq).mpr ?_
    by_cases hne : x = hand.2
    · rw [hne]
      exact Arena.issued_of_get? hl
    · have hle := h.namings_le x
      rw [if_neg hne] at hle
      exact hr.issued x (by omega)
  room := ⟨hr.room.le, by rw [h.generations_eq]; exact hr.room.cells⟩

/-- An item in hand that is named nowhere may be put down. -/
theorem wellOwned (hw : hand.1.WellOwned) (h0 : hand.1.namings hand.2 = 0) : done.1.WellOwned := by
  intro x item hx
  obtain ⟨old, ho⟩ := h.exists_of_live hx
  have hle := h.namings_le x
  have hold := hw x old ho
  by_cases hne : x = hand.2
  · rw [if_pos hne, hne, h0] at hle
    rw [hne]
    exact hle
  · rw [if_neg hne] at hle
    omega

/-- What was joined to a stack is not at the destination; anything else is. -/
theorem hand_eq (hplaced : done.2 = id) : hand.2 = id := by
  cases h with
  | worn => exact hplaced
  | joined _ hne => exact absurd hplaced hne
  | listed => exact hplaced

/-- An item that was joined to a stack is named by nobody new. -/
theorem wellOwned_of_ne (hw : hand.1.WellOwned) (hne : done.2 ≠ hand.2) : done.1.WellOwned := by
  cases h with
  | worn => exact absurd rfl hne
  | joined => exact (shrinks_joinStack hand.1 hand.2 _ count).wellOwned hw
  | listed => exact absurd rfl hne

end Landed

/-- An item that some container still lists may not be put down anywhere else. -/
theorem Landed.not_wellOwned {rules : Rules} {request : EquipRequest}
    (h : Landed rules w request.item source type count (w, request.item) p done)
    (hp : Dressing.Planned rules w request source type count p) (hplaced : done.2 = request.item)
    (hl : w.arena.get? request.item = some source)
    (hs : ∀ slot, w.character.equipment.get slot ≠ some request.item)
    (hlist : w.arena.Lists box request.item) : ¬ done.1.WellOwned := by
  have hpos := Arena.listings_pos_iff.mpr ⟨box, hlist⟩
  intro hw
  cases h with
  | @worn slot =>
    have hwear := Equipment.count_items_wear w.character.equipment slot request.item request.item
    rw [if_neg (hs slot), if_pos rfl] at hwear
    have htwo : (w.character.equipment.wear slot request.item).items.count request.item +
      w.arena.listings request.item ≤ 1 := hw request.item source hl
    omega
  | joined _ hne => exact hne hplaced
  | @listed there =>
    obtain ⟨bag, hb⟩ : ∃ bag, w.arena.get? there = some bag := by
      cases hp with
      | stow _ hcontainer => exact Dressing.exists_of_isContainer hcontainer
    have hgrown := Arena.listings_modify hb (Arena.enlist request.item) request.item
    simp only [Arena.enlist, List.count_append, List.count_singleton_self] at hgrown
    obtain ⟨live, hlive⟩ : ∃ live,
        (w.arena.modify there (Arena.enlist request.item)).get? request.item = some live :=
      Arena.exists_modify_iff.mpr ⟨source, hl⟩
    have htwo : w.character.equipment.items.count request.item +
        (w.arena.modify there (Arena.enlist request.item)).listings request.item ≤ 1 :=
      hw request.item live hlive
    omega

end Wearer

namespace Dressing

open Wearer (Regular shrinks_of_eq)

variable {σ : Type} {rules : Rules} {hook : EquipHook σ} {request : EquipRequest} {slot : Slot} {s : σ}

/-- The request is accepted and moves a whole item that lies in a container outside. -/
def Poaches (rules : Rules) (hook : EquipHook σ) (w : Wearer) (request : EquipRequest) (s : σ) : Prop :=
  ∃ outcome, (tryEquip rules hook w request s).value.2.2 = .ok outcome ∧
    outcome.placed = request.item ∧ ∃ box, w.arena.Lists box request.item ∧ ¬ w.Carries box

theorem placed_outcome (p : Plan) (x : ItemId) : (p.outcome x).placed = x := by cases p <;> rfl

theorem regular_tryEquip (hk : hook.KeepsSlots) (hr : Regular (n + 1) w) :
    Regular n (tryEquip rules hook w request s).value.1 := by
  cases hres : (tryEquip rules hook w request s).value.2.2 with
  | error e =>
    obtain ⟨t, -, he⟩ := tryEquip_of_error hres
    rw [he]
    exact hr.mono (Nat.le_succ n)
  | ok outcome =>
    obtain ⟨p, item, type, hand, done, hkind, hle, -, htaken, hlanded, ha, he, -⟩ :=
      exists_hand_of_tryEquip hres
    obtain ⟨held, hheld, -⟩ :=
      htaken.exists_item hr.sound (Rules.get?_of_resolve? hkind).1 hle
    exact (shrinks_of_eq ha (he hk)).regular (hlanded.regular (htaken.regular hr) hheld)

/-- A request keeps a wearer well owned, unless it moves a whole item that lies in a container
outside. -/
theorem wellOwned_tryEquip_iff (hk : hook.KeepsSlots) (hr : Regular (n + 1) w) (hw : w.WellOwned) :
    (tryEquip rules hook w request s).value.1.WellOwned ↔ ¬ Poaches rules hook w request s := by
  cases hres : (tryEquip rules hook w request s).value.2.2 with
  | error e =>
    obtain ⟨t, -, he⟩ := tryEquip_of_error hres
    rw [he]
    refine iff_of_true hw ?_
    rintro ⟨outcome, hok, -⟩
    rw [hres] at hok
    exact absurd hok (by simp)
  | ok outcome =>
    obtain ⟨p, item, type, hand, done, hkind, hle, hplanned, htaken, hlanded, ha, he, ho⟩ :=
      exists_hand_of_tryEquip hres
    obtain ⟨hl, -⟩ := Rules.get?_of_resolve? hkind
    have hplaced : outcome.placed = done.2 := by rw [ho, placed_outcome]
    constructor
    · rintro hafter ⟨outcome', hok, hitem, box, hlist, hc⟩
      obtain rfl : outcome = outcome' := Except.ok.inj (hres.symm.trans hok)
      rw [hplaced] at hitem
      have hsame := (shrinks_of_eq ha.symm (he hk).symm).wellOwned hafter
      have hhand : hand.2 = request.item := hlanded.hand_eq hitem
      obtain ⟨rfl, hs⟩ := htaken.eq_of_lists hw hl hhand hlist hc
      exact hlanded.not_wellOwned hplanned hitem hl hs hlist hsame
    · intro hpoach
      refine (shrinks_of_eq ha (he hk)).wellOwned ?_
      rcases htaken.namings_hand hr hw hl with h0 | ⟨rfl, hs, box, hlist, hc⟩
      · exact hlanded.wellOwned (htaken.wellOwned hr hw hl) h0
      · by_cases hitem : done.2 = request.item
        · exact absurd ⟨outcome, hres, hplaced.trans hitem, box, hlist, hc⟩ hpoach
        · exact hlanded.wellOwned_of_ne hw hitem

theorem regular_tryUnequip {count : Nat} (hk : hook.KeepsSlots) (hr : Regular (n + 1) w) :
    Regular n (tryUnequip rules hook w slot count s).value.1 := by
  cases hres : (tryUnequip rules hook w slot count s).value.2.2 with
  | error e =>
    obtain ⟨t, -, he⟩ := tryUnequip_of_error hres
    rw [he]
    exact hr.mono (Nat.le_succ n)
  | ok taken =>
    obtain ⟨id, item, hand, -, -, htaken, ha, he⟩ := exists_hand_of_tryUnequip hres
    exact (shrinks_of_eq ha (he hk)).regular (htaken.regular hr)

/-- Taking something off keeps a wearer well owned. -/
theorem wellOwned_tryUnequip {count : Nat} (hk : hook.KeepsSlots) (hr : Regular (n + 1) w)
    (hw : w.WellOwned) : (tryUnequip rules hook w slot count s).value.1.WellOwned := by
  cases hres : (tryUnequip rules hook w slot count s).value.2.2 with
  | error e =>
    obtain ⟨t, -, he⟩ := tryUnequip_of_error hres
    rw [he]
    exact hw
  | ok taken =>
    obtain ⟨id, item, hand, -, hl, htaken, ha, he⟩ := exists_hand_of_tryUnequip hres
    exact (shrinks_of_eq ha (he hk)).wellOwned (htaken.wellOwned hr hw hl)

end Dressing

end Adventurer
