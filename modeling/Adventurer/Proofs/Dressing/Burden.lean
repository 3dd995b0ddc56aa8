import Adventurer.Proofs.Arena.Load
import Adventurer.Proofs.Dressing.Carried
import Adventurer.Proofs.Dressing.Nesting

/-!
# The burden of a wearer

The burden adds the loads of everything worn.  Taking an item in hand takes its load off the burden, if it
was carried (`Taken.burden_add_load_le`), and else leaves the burden as it was.  Putting it down adds the
load once, because there is one way to each carried item at most (`times_le_one`), and what is pushed out
goes with all that is in it (`Landed.burden_le`).
-/

namespace Adventurer

open Dressing

variable {rules : Rules} {w v : Wearer} {request : EquipRequest} {id x box : ItemId} {source item : Item}
  {type : ItemType} {count : Nat} {slot : Slot} {hand done : Wearer × ItemId} {p : Plan}
  {f : ItemId → Item → Nat}

/-- What a plan pushes out of its slot. -/
def Dressing.Plan.displaced : Plan → Option ItemId
  | .wear _ displaced => displaced
  | .merge _ _ | .stow _ => none

/-- Two outfits that differ in one slot only add up alike but for that slot. -/
theorem Equipment.sum_items_except (e e' : Equipment) (slot : Slot)
    (h : ∀ t, t ≠ slot → e'.get t = e.get t) (s : ItemId → Nat) :
    (e'.items.map s).sum + (e.get slot).elim 0 s = (e.items.map s).sum + (e'.get slot).elim 0 s := by
  have hone : ∀ worn : Option ItemId, (worn.toList.map s).sum = worn.elim 0 s := fun worn => by
    cases worn <;> simp
  have hperm := ((e.perm_items_except e' slot h).map s).sum_eq
  rw [List.map_append, List.map_append, List.sum_append, List.sum_append, hone, hone] at hperm
  exact hperm

namespace Wearer

/-- The sum of `f` over everything worn and all that is inside. -/
def burden (f : ItemId → Item → Nat) (w : Wearer) : Nat :=
  (w.character.equipment.items.map (w.arena.load f)).sum

/-- The number of ways from what is worn to an item. -/
def times (w : Wearer) (x : ItemId) : Nat :=
  (w.character.equipment.items.map fun root => w.arena.ways root x).sum

/-! ## Ways from what is worn -/

theorem times_eq_burden (h : w.arena.Acyclic) (hl : w.arena.get? x = some item) :
    w.times x = w.character.equipment.items.count x + w.burden fun _ bag => bag.contents.count x := by
  unfold times burden
  rw [List.map_congr_left fun root _ => h.ways_eq hl root, List.sum_map_add, Arena.sum_ite_eq_count]

theorem burden_eq_zero (h : w.arena.Acyclic)
    (hz : ∀ x item, w.arena.get? x = some item → f x item = 0) : w.burden f = 0 := by
  unfold burden
  rw [List.map_congr_left fun root _ => h.load_eq_zero fun x held _ hx => hz x held hx]
  simp

theorem burden_congr (h : w.arena.Acyclic) {g : ItemId → Item → Nat}
    (hfg : ∀ x item, w.arena.get? x = some item → g x item = f x item) : w.burden g = w.burden f := by
  unfold burden
  rw [List.map_congr_left fun root _ => h.load_congr h fun x _ => ⟨rfl, hfg x⟩]

/-- Where every live item is named once at most, one way leads to it at most. -/
theorem times_le_one (h : w.arena.Acyclic) (hw : w.WellOwned) {x : ItemId} {item : Item}
    (hl : w.arena.get? x = some item) : w.times x ≤ 1 := by
  induction x using h.wellFounded.1.induction generalizing item with
  | _ x ih =>
    have hone : w.character.equipment.items.count x + w.arena.listings x ≤ 1 := hw x item hl
    rw [times_eq_burden h hl]
    by_cases hlisted : ∃ box, w.arena.Lists box x
    · -- the one container that lists the item lists it once, and no way leads there twice
      obtain ⟨box, hbox⟩ := hlisted
      have hpos := Arena.listings_pos_iff.mpr ⟨box, hbox⟩
      have hways : (w.burden fun _ bag => bag.contents.count x) = w.times box := by
        refine burden_congr h fun other bag hbag => ?_
        by_cases ho : other = box
        · have hle : bag.contents.count x ≤ w.arena.listings x :=
            Arena.le_tally (f := fun item => item.contents.count x) hbag
          obtain ⟨held, hheld, hx⟩ := hbox
          rw [ho, hheld] at hbag
          have hmem := List.count_pos_iff.mpr (Option.some.inj hbag ▸ hx)
          rw [if_pos ho]
          omega
        · rw [if_neg ho]
          refine List.count_eq_zero.mpr fun hmem => ?_
          have := Arena.two_le_listings hbox ⟨bag, hbag, hmem⟩ ho
          omega
      obtain ⟨bag, hbag, -⟩ := id hbox
      have := ih box hbox hbag
      omega
    · have hzero : (w.burden fun _ bag => bag.contents.count x) = 0 :=
        burden_eq_zero h fun box bag hbag => List.count_eq_zero.mpr fun hmem =>
          hlisted ⟨box, bag, hbag, hmem⟩
      omega

theorem one_le_times (h : w.arena.Acyclic) (hc : w.Carries x) (hl : w.arena.get? x = some item) :
    1 ≤ w.times x := by
  obtain ⟨slot, root, hslot, hr⟩ := hc
  have hworn := Equipment.mem_items.mpr ⟨slot, hslot⟩
  exact (h.one_le_ways hr hl).trans
    (List.le_sum_of_mem (List.mem_map_of_mem (f := fun root => w.arena.ways root x) hworn))

/-! ## Slots -/

theorem burden_clear (hs : w.character.equipment.get slot = some id) :
    w.burden f = (w.mapEquipment (·.clear slot)).burden f + w.arena.load f id := by
  have hsum := w.character.equipment.sum_items_except (w.character.equipment.clear slot) slot
    (fun t ht => by rw [Equipment.get_clear, if_neg (Ne.symm ht)]) (w.arena.load f)
  rw [hs, Equipment.get_clear, if_pos rfl] at hsum
  exact hsum.symm

theorem burden_wear (w : Wearer) (slot : Slot) (id : ItemId) :
    (w.mapEquipment (·.wear slot id)).burden f +
      (w.character.equipment.get slot).elim 0 (w.arena.load f) = w.burden f + w.arena.load f id := by
  have hsum := w.character.equipment.sum_items_except (w.character.equipment.wear slot id) slot
    (fun t ht => by rw [Equipment.get_wear, if_neg (Ne.symm ht)]) (w.arena.load f)
  rw [Equipment.get_wear, if_pos rfl] at hsum
  exact hsum

/-- What makes every load heavier by `k` for each way to an item does so with the burden. -/
theorem burden_eq_add {k : Nat} (he : v.character.equipment = w.character.equipment)
    (h : ∀ root, v.arena.load f root = w.arena.load f root + w.arena.ways root x * k) :
    v.burden f = w.burden f + w.times x * k := by
  unfold burden times
  rw [he, List.map_congr_left fun root _ => h root, List.sum_map_add, List.sum_map_mul_right]

end Wearer

/-! ## Orderly states -/

/-- The item is of a known type, is one piece if the type does not stack, and holds something only if it is
a container. -/
def Rules.Proper (rules : Rules) (item : Item) : Prop :=
  ∃ type, rules.itemType? item.type = some type ∧ (type.stackable = false → item.count = 1) ∧
    (item.contents ≠ [] → type.container = true)

namespace Wearer

/-- No item lies inside itself, every id that is named is live and named once, and every item is what its
type allows. -/
structure Orderly (rules : Rules) (w : Wearer) : Prop where
  sound : w.arena.Sound
  acyclic : w.arena.Acyclic
  live : ∀ x, 0 < w.namings x → ∃ item, w.arena.get? x = some item
  owned : w.WellOwned
  proper : w.arena.Every rules.Proper

/-- The weight of each item alone. -/
def heft (rules : Rules) : ItemId → Item → Nat := fun _ item => item.heft rules.itemType?

theorem heft_of_stackable (item : Item) (ht : rules.itemType? item.type = some type)
    (hs : type.stackable = true) (x : ItemId) : heft rules x item = type.weight * item.count := by
  simp [heft, Item.heft, ht, hs]

theorem Orderly.live_of_carries (ho : w.Orderly rules) (hc : w.Carries x) :
    ∃ item, w.arena.get? x = some item := by
  obtain ⟨slot, root, hslot, hr⟩ := hc
  refine ho.live x ?_
  unfold namings
  by_cases hx : x = root
  · have := Equipment.count_items_pos_iff.mpr ⟨slot, hx ▸ hslot⟩
    omega
  · obtain ⟨box, -, hlist⟩ := hr.exists_lists hx
    have := Arena.listings_pos_iff.mpr ⟨box, hlist⟩
    omega

theorem Orderly.known (ho : w.Orderly rules) :
    w.arena.Every fun item => (rules.itemType? item.type).isSome := fun x item hx => by
  obtain ⟨type, htype, -⟩ := ho.proper x item hx
  rw [htype]
  rfl

theorem Orderly.min_totalWeight (ho : w.Orderly rules) (x : ItemId) :
    min max32 (w.arena.totalWeight rules.itemType? x) = min max32 (w.arena.load (heft rules) x) :=
  ho.acyclic.min_totalWeight ho.known x

/-- Only stacks have parts. -/
theorem Orderly.stackable_of_lt (ho : w.Orderly rules) (hl : w.arena.get? id = some source)
    (htype : rules.itemType? source.type = some type) (hpos : 0 < count) (hlt : count < source.count) :
    type.stackable = true := by
  obtain ⟨type', htype', hone, -⟩ := ho.proper id source hl
  obtain rfl := Option.some.inj (htype.symm.trans htype')
  by_contra hs
  have := hone (by simpa using hs)
  omega

/-! ## The item in hand -/

section Taken

variable (ho : w.Orderly rules) (ht : Taken w id source count hand)
include ho ht

theorem Taken.wellOwned_of_orderly : hand.1.WellOwned := by
  intro x item _
  refine (ht.namings_le ho.sound x).trans ?_
  by_cases hx : 0 < w.namings x
  · obtain ⟨old, hl⟩ := ho.live x hx
    exact ho.owned x old hl
  · omega

end Taken

section Hand

variable (ho : w.Orderly rules)
include ho

/-- What is split off is out of all that is carried. -/
theorem burden_split : ({ w with arena := (w.split id source count).1 } : Wearer).burden f =
    (w.rest id count).burden f := by
  have hrest : (w.rest id count).arena.Acyclic := ho.acyclic.of_lists fun _ _ => lists_rest.mp
  have hacyclic : (w.split id source count).1.Acyclic :=
    hrest.of_lists fun _ _ => Arena.lists_of_insert rfl
  refine congrArg List.sum (List.map_congr_left fun root hroot => ?_)
  refine hrest.load_congr hacyclic fun x hx => ⟨?_, fun _ _ => rfl⟩
  obtain ⟨slot, hslot⟩ := Equipment.mem_items.mp hroot
  obtain ⟨item, hlive⟩ := ho.live_of_carries ⟨slot, root, hslot, hx.mono fun _ _ => lists_rest.mp⟩
  obtain ⟨held, hheld⟩ := exists_of_rest id count hlive
  exact ((sound_rest ho.sound id count).get?_insert_of_live _ hheld).trans hheld.symm

variable (htype : rules.itemType? source.type = some type)
include htype

/-- A part of a stack weighs as much as is asked for. -/
theorem load_split (hs : type.stackable = true) :
    (w.split id source count).1.load (heft rules) (w.split id source count).2 = type.weight * count := by
  have hacyclic : (w.split id source count).1.Acyclic :=
    ho.acyclic.of_lists fun _ _ hlist => lists_rest.mp (Arena.lists_of_insert rfl hlist)
  have hnew := (sound_rest ho.sound id count).get?_insert_self { type := source.type, count }
  unfold split at hacyclic ⊢
  rw [hacyclic.load_eq hnew, heft_of_stackable { type := source.type, count } htype hs]
  simp

variable (hl : w.arena.get? id = some source) (hc : w.Carries id)
include hl hc

/-- A stack that is carried weighs down by what is split off it. -/
theorem burden_rest_add_le (hs : type.stackable = true) (hlt : count < source.count) :
    (w.rest id count).burden (heft rules) + type.weight * count ≤ w.burden (heft rules) := by
  have hrest : (w.rest id count).arena.Acyclic := ho.acyclic.of_lists fun _ _ => lists_rest.mp
  have hleft : (w.rest id count).arena.get? id = some { source with count := source.count - count } :=
    Arena.get?_modify_self hl _
  have hheft : heft rules id source =
      heft rules id { source with count := source.count - count } + type.weight * count := by
    rw [heft_of_stackable source htype hs,
      heft_of_stackable { source with count := source.count - count } htype hs, ← Nat.mul_add,
      Nat.sub_add_cancel hlt.le]
  have hburden : w.burden (heft rules) = (w.rest id count).burden (heft rules) +
      (w.rest id count).times id * (type.weight * count) :=
    burden_eq_add rfl (hrest.load_heavier ho.acyclic hleft hl
      (fun y hy => (Arena.get?_modify_of_ne hy _).symm) rfl hheft)
  have hways := one_le_times hrest (hc.of_lists rfl fun _ _ => lists_rest.mpr) hleft
  have := Nat.mul_le_mul_right (type.weight * count) hways
  omega

omit htype hl hc in
/-- A container that is carried weighs down by what it lists. -/
theorem burden_unlist_add_le (hc : w.Carries box) (hlist : w.arena.Lists box id) :
    (w.mapArena (·.modify box (Arena.unlist id))).burden (heft rules) +
      (w.arena.modify box (Arena.unlist id)).load (heft rules) id ≤ w.burden (heft rules) := by
  have hacyclic : (w.arena.modify box (Arena.unlist id)).Acyclic :=
    ho.acyclic.of_lists fun _ _ => Arena.lists_of_unlist
  have hcarried : (w.mapArena (·.modify box (Arena.unlist id))).Carries box := by
    obtain ⟨slot, root, hslot, hr⟩ := hc
    rcases hr.or_of_except fun u c hne hlists => hlists.unlist hne with h | h
    · exact ⟨slot, root, hslot, h⟩
    · exact absurd (h.mono fun _ _ => Arena.lists_of_unlist) (ho.acyclic.not_reaches hlist)
  obtain ⟨bag, hbag, hin⟩ := hlist
  have hburden : w.burden (heft rules) = (w.mapArena (·.modify box (Arena.unlist id))).burden (heft rules) +
      (w.mapArena (·.modify box (Arena.unlist id))).times box *
        (w.arena.modify box (Arena.unlist id)).load (heft rules) id :=
    burden_eq_add rfl (ho.acyclic.load_unlist hbag hin fun _ => rfl)
  have hways := one_le_times hacyclic hcarried (Arena.get?_modify_self hbag _)
  have := Nat.mul_le_mul_right ((w.arena.modify box (Arena.unlist id)).load (heft rules) id) hways
  omega

/-- Taking a carried item in hand takes its load off the burden. -/
theorem Taken.burden_add_load_le (ht : Taken w id source count hand)
    (hpart : count < source.count → type.stackable = true) :
    hand.1.burden (heft rules) + hand.1.arena.load (heft rules) hand.2 ≤ w.burden (heft rules) := by
  cases ht with
  | part hlt =>
    show ({ w with arena := (w.split id source count).1 } : Wearer).burden _ +
      (w.split id source count).1.load _ _ ≤ _
    rw [burden_split ho, load_split ho htype (hpart hlt)]
    exact burden_rest_add_le ho htype hl hc (hpart hlt) hlt
  | worn _ hs => exact (burden_clear (Equipment.get_of_slotOf hs)).ge
  | packed _ _ hbox hlist => exact burden_unlist_add_le ho hbox hlist
  | loose _ hs hbox =>
    obtain ⟨slot, root, hslot, hr⟩ := hc
    by_cases hx : id = root
    · exact absurd (hx ▸ hslot) (hs slot)
    · obtain ⟨box, hreach, hlist⟩ := hr.exists_lists hx
      exact absurd hlist (hbox box ⟨slot, root, hslot, hreach⟩)

end Hand

/-! ## An item from outside -/

/-- An item that is not carried is taken where it is, or a part is split off it. -/
theorem Taken.eq_of_not_carries (hn : ¬ w.Carries id) (ht : Taken w id source count hand) :
    hand = (w, id) ∧ source.count ≤ count ∨
      hand = ({ w with arena := (w.split id source count).1 }, (w.split id source count).2) ∧
        count < source.count := by
  cases ht with
  | part hlt => exact .inr ⟨rfl, hlt⟩
  | @worn slot _ hs => exact absurd ⟨slot, id, Equipment.get_of_slotOf hs, Arena.Reaches.refl _ _⟩ hn
  | packed _ _ hbox hlist =>
    obtain ⟨slot, root, hslot, hr⟩ := hbox
    exact absurd ⟨slot, root, hslot, hr.tail hlist⟩ hn
  | loose hge => exact .inl ⟨rfl, hge⟩

section Outside

variable (ho : w.Orderly rules) (hn : ¬ w.Carries id) (ht : Taken w id source count hand)
include ho hn ht

/-- Taking an item that is not carried leaves all that is carried alone. -/
theorem Taken.same_of_not_carries : hand.1.character.equipment = w.character.equipment ∧
    ∀ root, w.Carries root → hand.1.arena.load f root = w.arena.load f root := by
  rcases ht.eq_of_not_carries hn with ⟨rfl, -⟩ | ⟨rfl, -⟩
  · exact ⟨rfl, fun _ _ => rfl⟩
  · refine ⟨rfl, fun root hroot => ?_⟩
    have hacyclic : (w.split id source count).1.Acyclic :=
      ho.acyclic.of_lists fun _ _ hlist => lists_rest.mp (Arena.lists_of_insert rfl hlist)
    refine ho.acyclic.load_congr hacyclic fun x hx => ⟨?_, fun _ _ => rfl⟩
    have hcarried : w.Carries x := by
      obtain ⟨slot, top, hslot, hr⟩ := hroot
      exact ⟨slot, top, hslot, hr.trans hx⟩
    have hne : x ≠ id := by
      rintro rfl
      exact hn hcarried
    obtain ⟨item, hlive⟩ := ho.live_of_carries hcarried
    have hleft :=
      (Arena.get?_modify_of_ne hne fun item => { item with count := item.count - count }).trans hlive
    exact ((sound_rest ho.sound id count).get?_insert_of_live _ hleft).trans hlive.symm

theorem Taken.burden_of_not_carries : hand.1.burden f = w.burden f := by
  obtain ⟨he, hload⟩ := ht.same_of_not_carries ho hn (f := f)
  unfold burden
  rw [he]
  refine congrArg List.sum (List.map_congr_left fun root hroot => hload root ?_)
  obtain ⟨slot, hslot⟩ := Equipment.mem_items.mp hroot
  exact ⟨slot, root, hslot, Arena.Reaches.refl _ _⟩

variable (hl : w.arena.get? id = some source) (htype : rules.itemType? source.type = some type)
  (hle : count ≤ source.count) (hpart : count < source.count → type.stackable = true)
include hl htype hle hpart

/-- The load of what is in hand: no more than that of the item, and that of the pieces if it holds
nothing. -/
theorem Taken.load_le_of_not_carries :
    hand.1.arena.load (heft rules) hand.2 ≤ w.arena.load (heft rules) id ∧
      (type.container = false → hand.1.arena.load (heft rules) hand.2 =
        if type.stackable then type.weight * count else type.weight) := by
  have hload := ho.acyclic.load_eq (f := heft rules) hl
  rcases ht.eq_of_not_carries hn with ⟨rfl, hge⟩ | ⟨rfl, hlt⟩
  · refine ⟨le_rfl, fun hcontainer => ?_⟩
    obtain ⟨type', htype', -, hplain⟩ := ho.proper id source hl
    obtain rfl := Option.some.inj (htype.symm.trans htype')
    have hempty : source.contents = [] := by
      by_contra hne
      rw [hplain hne] at hcontainer
      cases hcontainer
    rw [hload, hempty, Nat.le_antisymm hle hge]
    simp [heft, Item.heft, htype]
  · have hst := hpart hlt
    have hpiece : (w.split id source count).1.load (heft rules) (w.split id source count).2 =
      type.weight * count := load_split ho htype hst
    have hpieces := Nat.mul_le_mul_left type.weight hlt.le
    rw [hpiece, if_pos hst, hload, heft_of_stackable _ htype hst]
    exact ⟨by omega, fun _ => rfl⟩

/-- What is taken in hand weighs no more than what the capacity was asked for. -/
theorem Taken.load_le_movedWeight :
    min max32 (hand.1.arena.load (heft rules) hand.2) ≤
      movedWeight rules.itemType? w.arena id source type count := by
  obtain ⟨hload, hpieces⟩ := ht.load_le_of_not_carries ho hn hl htype hle hpart
  unfold movedWeight
  split_ifs with hcontainer hst
  · -- a container is weighed with its contents
    have hweight := ho.min_totalWeight id
    omega
  · rw [hpieces (by simpa using hcontainer), if_pos hst, Nat.min_eq_left hle]
    rfl
  · rw [hpieces (by simpa using hcontainer), if_neg hst]
    exact Nat.min_le_right _ _

end Outside

/-! ## Putting it down -/

/-- A stack that grows weighs at most as much more as what it grows by. -/
theorem burden_grow_le {stack : ItemId} {held : Item} (hacyclic : w.arena.Acyclic) (hw : w.WellOwned)
    (hstack : w.arena.get? stack = some held) (htype : rules.itemType? held.type = some type)
    (hs : type.stackable = true) (count : Nat) :
    (w.mapArena (·.modify stack (Item.grow count))).burden (heft rules) ≤
      w.burden (heft rules) + type.weight * count := by
  have hafter : (w.arena.modify stack (Item.grow count)).Acyclic :=
    hacyclic.of_lists fun _ _ => (Arena.lists_modify (Item.contents_grow count)).mp
  rcases Nat.le_total (held.grow count).count held.count with hless | hmore
  · -- the count has gone round, and nothing else has changed
    have hload : ∀ root, (w.arena.modify stack (Item.grow count)).load (heft rules) root ≤
        w.arena.load (heft rules) root := fun root => by
      refine hacyclic.load_le hafter (fun x new hx => ?_) root
      rw [Arena.get?_modify] at hx
      split_ifs at hx with he
      · rw [hstack] at hx
        obtain rfl := Option.some.inj hx
        refine ⟨held, he ▸ hstack, rfl, ?_⟩
        rw [heft_of_stackable (held.grow count) htype hs, heft_of_stackable held htype hs]
        exact Nat.mul_le_mul_left _ hless
      · exact ⟨new, hx, rfl, le_rfl⟩
    exact (List.sum_le_sum fun root _ => hload root).trans (Nat.le_add_right _ _)
  · have hgrown : heft rules stack (held.grow count) =
        heft rules stack held + type.weight * ((held.grow count).count - held.count) := by
      rw [heft_of_stackable (held.grow count) htype hs, heft_of_stackable held htype hs, ← Nat.mul_add,
        Nat.add_sub_of_le hmore]
    have hburden : (w.mapArena (·.modify stack (Item.grow count))).burden (heft rules) =
        w.burden (heft rules) + w.times stack * (type.weight * ((held.grow count).count - held.count)) :=
      burden_eq_add rfl (hacyclic.load_heavier hafter hstack (Arena.get?_modify_self hstack _)
        (fun y hy => Arena.get?_modify_of_ne hy _) rfl hgrown)
    have hgain : (held.grow count).count - held.count ≤ count := by
      have hsum : (held.grow count).count ≤ held.count + count := wrap_le _ _
      omega
    have hways := Nat.mul_le_mul (times_le_one hacyclic hw hstack) (Nat.mul_le_mul_left type.weight hgain)
    omega

section Landing

variable (ho : w.Orderly rules) (ht : Taken w request.item source count hand)
  (hl : w.arena.get? request.item = some source) (hle : count ≤ source.count)
  (htype : rules.itemType? source.type = some type)
include ho ht

theorem burden_enlist_le (hbox : ∃ bag, w.arena.get? box = some bag)
    (hout : ¬ w.arena.Reaches request.item box) :
    (hand.1.mapArena (·.modify box (Arena.enlist hand.2))).burden (heft rules) ≤
      hand.1.burden (heft rules) + hand.1.arena.load (heft rules) hand.2 := by
  have hacyclic := ht.acyclic ho.acyclic
  obtain ⟨bag, hbag⟩ := hbox
  obtain ⟨held, hheld⟩ := ht.exists_of_get? ho.sound hbag
  have hburden : (hand.1.mapArena (·.modify box (Arena.enlist hand.2))).burden (heft rules) =
      hand.1.burden (heft rules) + hand.1.times box * hand.1.arena.load (heft rules) hand.2 :=
    burden_eq_add rfl (hacyclic.load_enlist hheld (ht.not_reaches hbag hout) fun _ => rfl)
  have hways := times_le_one hacyclic (ht.wellOwned_of_orderly ho) hheld
  have := Nat.mul_le_mul_right (hand.1.arena.load (heft rules) hand.2) hways
  omega

include hl hle htype in
theorem burden_joinStack_le {stack : ItemId} {held : Item} (hne : stack ≠ request.item)
    (hs : type.stackable = true) (hheld : w.arena.get? stack = some held)
    (hsame : held.type = source.type) :
    (hand.1.joinStack hand.2 stack count).burden (heft rules) ≤
      hand.1.burden (heft rules) + hand.1.arena.load (heft rules) hand.2 := by
  have hacyclic := ht.acyclic ho.acyclic
  have hgone : (hand.1.arena.remove hand.2).Acyclic := hacyclic.of_lists fun _ _ => Arena.lists_of_remove
  have hremoved : (hand.1.mapArena (·.remove hand.2)).burden (heft rules) ≤ hand.1.burden (heft rules) :=
    List.sum_le_sum fun root _ => hacyclic.load_le hgone
      (fun x item hx => ⟨item, Arena.get?_of_get?_remove hx, rfl, le_rfl⟩) root
  obtain ⟨inHand, h1, h2, h3, -⟩ := ht.exists_item ho.sound hl hle
  have hpieces : type.weight * count ≤ hand.1.arena.load (heft rules) hand.2 := by
    rw [hacyclic.load_eq h1, heft_of_stackable _ (h2 ▸ htype) hs, h3]
    exact Nat.le_add_right _ _
  cases hstack : (hand.1.arena.remove hand.2).get? stack with
  | none =>
    have hself : hand.1.joinStack hand.2 stack count = hand.1.mapArena (·.remove hand.2) :=
      congrArg (Wearer.mk hand.1.character) (Arena.modify_eq_self hstack _)
    rw [hself]
    omega
  | some onto =>
    obtain ⟨now, hnow, hnowtype, -⟩ := ht.exists_other ho.sound hheld hne
    obtain rfl := Option.some.inj (hnow.symm.trans (Arena.get?_of_get?_remove hstack))
    have hontotype : rules.itemType? now.type = some type := by
      rw [hnowtype, hsame]
      exact htype
    have howned : (hand.1.mapArena (·.remove hand.2)).WellOwned :=
      (shrinks_remove hand.1 hand.2).wellOwned (ht.wellOwned_of_orderly ho)
    have hgrown : (hand.1.joinStack hand.2 stack count).burden (heft rules) ≤
        (hand.1.mapArena (·.remove hand.2)).burden (heft rules) + type.weight * count :=
      burden_grow_le hgone howned hstack hontotype hs count
    omega

include hl hle htype in
/-- Putting an item down makes the burden heavier by its load at most, and lighter by what is pushed out. -/
theorem Landed.burden_le (hp : Planned rules w request source type count p)
    (hland : Landed rules w request.item source type count hand p done) :
    done.1.burden (heft rules) + p.displaced.elim 0 (hand.1.arena.load (heft rules)) ≤
      hand.1.burden (heft rules) + hand.1.arena.load (heft rules) hand.2 := by
  cases hland with
  | @worn slot displaced =>
    have hwear := burden_wear (f := heft rules) hand.1 slot hand.2
    cases hp with
    | fill => exact (Nat.le_add_right _ _).trans hwear.le
    | again => exact (Nat.le_add_right _ _).trans hwear.le
    | exchange h hne =>
      have hkept : hand.1.character.equipment.get slot = w.character.equipment.get slot :=
        ht.get_eq fun hs => hne (Option.some.inj (h.symm.trans (Equipment.get_of_slotOf hs)))
      rw [hkept, h] at hwear
      exact hwear.le
  | joined hwear hne hs hheld hsame =>
    have hnone : p.displaced = none := by
      cases p with
      | wear slot displaced => exact absurd rfl (hwear slot displaced)
      | merge => rfl
      | stow => rfl
    rw [hnone]
    exact burden_joinStack_le ho ht hl hle htype hne hs hheld hsame
  | listed =>
    cases hp with
    | stow _ hbox hout => exact burden_enlist_le ho ht (exists_of_isContainer hbox) hout

end Landing

end Wearer

end Adventurer
