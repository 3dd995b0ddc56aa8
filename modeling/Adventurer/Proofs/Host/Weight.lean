import Adventurer.Proofs.Engine.Nesting
import Adventurer.Proofs.Engine.Weight
import Adventurer.Proofs.Host.Commands

/-!
# The weight of the inventory through a run of commands

Deeds keep the weight right, and no other command touches what is worn or what lies in it, but one: a new
item may get the id of one that is long gone and still named by something carried, and is then carried at
once without being weighed (`Command.Intrudes`).  No id is given out twice as long as no generation wraps.
-/

namespace Adventurer

open Wearer

variable {types : ItemLookup} {w v : Wearer} {item : Item} {x : ItemId} {n : Nat}

/-! ## A new item -/

namespace Wearer

/-- The wearer with one more item in its arena. -/
def create (w : Wearer) (item : Item) : Wearer := { w with arena := (w.arena.insert item).1 }

theorem namings_create (hs : w.arena.Sound) (item : Item) (x : ItemId) :
    (w.create item).namings x = w.namings x + item.contents.count x := by
  show w.character.equipment.items.count x + (w.arena.insert item).1.listings x = _
  unfold Arena.listings namings
  rw [hs.tally_insert, ← Nat.add_assoc]
  rfl

/-- What a new item holds was issued, and so the arena stays regular. -/
theorem regular_create (hr : Regular (n + 1) w) (hc : ∀ x ∈ item.contents, w.arena.Issued x) :
    Regular n (w.create item) where
  sound := hr.sound.insert item
  issued x hx := by
    refine hr.sound.issued_insert hr.room item ?_
    rw [namings_create hr.sound] at hx
    rcases Nat.add_pos_iff_pos_or_pos.mp hx with hold | hnew
    · exact hr.issued x hold
    · exact hc x (List.count_pos_iff.mp hnew)
  room := hr.sound.room_insert hr.room item

theorem namings_pos_of_carries (h : w.Carries x) : 0 < w.namings x := by
  obtain ⟨slot, root, hslot, hr⟩ := h
  by_cases he : x = root
  · have hworn := Equipment.count_items_pos_iff.mpr ⟨slot, hslot⟩
    rw [he]
    exact Nat.lt_of_lt_of_le hworn (Nat.le_add_right _ _)
  · obtain ⟨box, -, hlist⟩ := hr.exists_lists he
    exact Nat.lt_of_lt_of_le (Arena.listings_pos_iff.mpr ⟨box, hlist⟩) (Nat.le_add_left _ _)

/-- A new item has an id that nothing names, so that it is not carried. -/
theorem get?_create_of_carries (hr : Regular (n + 1) w) (item : Item) (h : w.Carries x) :
    (w.create item).arena.get? x = w.arena.get? x := by
  show (w.arena.insert item).1.get? x = _
  rw [hr.sound.get?_insert, if_neg]
  rintro rfl
  exact hr.sound.not_issued_insert hr.room item (hr.issued _ (namings_pos_of_carries h))

theorem Accurate.create (h : w.Accurate types)
    (hsame : ∀ x, w.Carries x → (w.create item).arena.get? x = w.arena.get? x) :
    (w.create item).Accurate types :=
  h.of_sameBelow rfl rfl fun slot root hslot x hx => by rw [hsame x ⟨slot, root, hslot, hx⟩]

/-- A new item lists what it was created with, and nothing lists it. -/
theorem lists_create (hr : Regular (n + 1) w) (hc : ∀ x ∈ item.contents, w.arena.Issued x) {u : ItemId}
    (h : (w.create item).arena.Lists u x) :
    x ≠ (w.arena.insert item).2 ∧ (u ≠ (w.arena.insert item).2 → w.arena.Lists u x) := by
  obtain ⟨bag, hb, hx⟩ := h
  have hlookup : (w.create item).arena.get? u =
      if u = (w.arena.insert item).2 then some item else w.arena.get? u := hr.sound.get?_insert item u
  rw [hlookup] at hb
  have hissued : w.arena.Issued x := by
    split_ifs at hb
    · obtain rfl := Option.some.inj hb
      exact hc x hx
    · refine hr.issued x (Nat.lt_of_lt_of_le ?_ (Nat.le_add_left _ _))
      exact Arena.listings_pos_iff.mpr ⟨u, bag, hb, hx⟩
  refine ⟨fun he => hr.sound.not_issued_insert hr.room item (he ▸ hissued), fun hne => ?_⟩
  rw [if_neg hne] at hb
  exact ⟨bag, hb, hx⟩

theorem acyclic_create (hr : Regular (n + 1) w) (hc : ∀ x ∈ item.contents, w.arena.Issued x)
    (h : w.arena.Acyclic) : (w.create item).arena.Acyclic := by
  intro y hy
  -- a way that does not begin at the new item never comes to it
  have hways : ∀ {u v}, Relation.TransGen (w.create item).arena.Lists u v →
      u ≠ (w.arena.insert item).2 → Relation.TransGen w.arena.Lists u v := by
    intro u v huv
    induction huv using Relation.TransGen.head_induction_on with
    | single hl => exact fun hne => .single ((lists_create hr hc hl).2 hne)
    | head hl _ ih =>
      exact fun hne => .head ((lists_create hr hc hl).2 hne) (ih (lists_create hr hc hl).1)
  obtain ⟨u, -, hl⟩ := Relation.TransGen.tail'_iff.mp hy
  exact h y (hways hy (lists_create hr hc hl).1)

end Wearer

namespace Simulation

/-- The weight of the inventory is the sum of the weights of everything worn. -/
def Weighed (s : Simulation) : Prop := s.wearer.Weighed s.sources.items.find?

/-- Everything worn has a weight. -/
def Weighable (s : Simulation) : Prop := s.wearer.Weighable s.sources.items.find?

end Simulation

/-- The command creates an item in the place of something carried, or under an id that something carried
names. -/
def Command.Intrudes (s : Simulation) : Command → Prop
  | .createItem item => ∃ x, s.wearer.Carries x ∧ (s.arena.insert item).1.get? x ≠ s.arena.get? x
  | _ => False

/-- What the command puts into a new item are ids that the arena has issued. -/
def Command.NamesIssued (s : Simulation) : Command → Prop
  | .createItem item => ∀ x ∈ item.contents, s.arena.Issued x
  | _ => True

namespace Simulation

variable {s : Simulation} {c : Command}

/-- What each deed keeps the deeds of a command keep.  `P n` is what `n` more deeds need. -/
theorem afterDeeds_induction {P : Nat → Wearer → Prop}
    (hstep : ∀ m t d, P (m + 1) t.wearer → P m ((s.engineFor c).perform t d).value.wearer)
    (h : P (n + (s.deeds c).length) s.wearer) : P n (s.afterDeeds c).wearer := by
  unfold afterDeeds Engine.after
  rw [List.foldl_map]
  exact Run.room_of_not_bad (fun m (t : Situation Unit Unit) => P m t.wearer) (fun _ _ => False)
    (fun m t d _ => hstep m t d) (s.deeds c) h fun _ _ _ => not_false

theorem items_engineFor (s : Simulation) (c : Command) :
    (s.engineFor c).rules.items = some s.sources.items.find? := by
  cases c <;> rfl

theorem hook_engineFor (s : Simulation) (c : Command) : (s.engineFor c).hook = .idle := by
  cases c <;> rfl

/-- A command keeps the weight right, unless it creates an item among what is carried. -/
theorem weighed_handle (hs : s.Weighable → s.Weighed) (hc : ¬ c.Intrudes s) :
    (s.handle c).1.Weighable → (s.handle c).1.Weighed := by
  unfold Weighable Weighed
  rw [items_handle]
  show (s.handle c).1.wearer.Accurate s.sources.items.find?
  have haccurate : s.wearer.Accurate s.sources.items.find? := hs
  by_cases hnew : ∃ item, c = .createItem item
  · obtain ⟨item, rfl⟩ := hnew
    refine haccurate.create fun x hx => ?_
    by_contra hne
    exact hc ⟨x, hx, hne⟩
  · refine (s.unmoved_handle c fun item he => hnew ⟨item, he⟩).accurate ?_
    refine afterDeeds_induction (P := fun _ w => w.Accurate s.sources.items.find?) (n := 0)
      (fun _ t d ht => ?_) haccurate
    refine Engine.accurate_perform (s.items_engineFor c) ?_ ?_ ht d
    · rw [hook_engineFor]
      exact EquipHook.keepsSlots_idle
    · rw [hook_engineFor]
      exact EquipHook.keepsWeight_idle

/-- Room for all items that `n` commands and what waits may make. -/
def Roomy (n : Nat) (s : Simulation) : Prop := Regular (n + s.schedule.waiting) s.wearer

theorem roomy_handle (hs : s.Roomy (n + 1)) (hc : c.NamesIssued s) : (s.handle c).1.Roomy n := by
  unfold Roomy at *
  by_cases hnew : ∃ item, c = .createItem item
  · obtain ⟨item, rfl⟩ := hnew
    exact regular_create (hs.mono (by omega : n + s.schedule.waiting + 1 ≤ _)) hc
  · have hmakes : s.makings c = (s.deeds c).length := by
      cases c with
      | createItem item => exact absurd ⟨item, rfl⟩ hnew
      | _ => rfl
    have hle := s.makings_add_waiting_le c
    have hunmoved := s.unmoved_handle c fun item he => hnew ⟨item, he⟩
    refine (shrinks_of_eq hunmoved.arena hunmoved.equipment).regular ?_
    refine afterDeeds_induction (P := Regular) (fun m t d ht => ?_) (hs.mono (by omega))
    refine Engine.regular_perform ?_ ht d
    rw [hook_engineFor]
    exact EquipHook.keepsSlots_idle

theorem acyclic_handle (hs : s.Roomy (n + 1)) (hc : c.NamesIssued s) (h : s.arena.Acyclic) :
    (s.handle c).1.arena.Acyclic := by
  by_cases hnew : ∃ item, c = .createItem item
  · obtain ⟨item, rfl⟩ := hnew
    unfold Roomy at hs
    exact acyclic_create (hs.mono (by omega : s.schedule.waiting + 1 ≤ _)) hc h
  · have hunmoved := s.unmoved_handle c fun item he => hnew ⟨item, he⟩
    have hdeeds : (s.afterDeeds c).wearer.arena.Acyclic :=
      afterDeeds_induction (P := fun _ w => w.arena.Acyclic) (n := 0)
        (fun _ t d ht => Engine.acyclic_perform ht d) h
    rw [← hunmoved.arena] at hdeeds
    exact hdeeds

/-- An id that is issued and named is not given out again, as long as there is room. -/
theorem not_intrudes (hs : s.Roomy (n + 1)) : ¬ c.Intrudes s := by
  cases c with
  | createItem item =>
    rintro ⟨x, hx, hne⟩
    unfold Roomy at hs
    exact hne (get?_create_of_carries (hs.mono (by omega : s.schedule.waiting + 1 ≤ _)) item hx)
  | _ => exact id

theorem roomy_after {before : List Command} (hs : s.Roomy (n + before.length))
    (hissued : ∀ earlier c, earlier ++ [c] <+: before → c.NamesIssued (s.after earlier)) :
    (s.after before).Roomy n ∧ (s.arena.Acyclic → (s.after before).arena.Acyclic) :=
  Run.room_of_not_bad
    (fun m t => t.Roomy m ∧ (s.arena.Acyclic → t.arena.Acyclic)) (fun t c => ¬ c.NamesIssued t)
    (fun _ _ _ hc ht => ⟨roomy_handle ht.1 (not_not.mp hc),
      fun hacyclic => acyclic_handle ht.1 (not_not.mp hc) (ht.2 hacyclic)⟩)
    before ⟨hs, id⟩ fun earlier c hp => not_not.mpr (hissued earlier c hp)

/-- **The weight is never stale.**  A run of commands from a simulation whose inventory weighs what
everything worn weighs: after any of them it does so again, if no command so far has created an item among
what is carried, and if everything worn has a weight at all.  No command does so if the arena is regular and
has room for the run, only issued ids are named, and new items are created with such; and then everything
worn has a weight throughout, if no item lay inside itself at the start. -/
theorem weighed_throughout (s : Simulation) (commands : List Command) (hs : s.Weighed) :
    (∀ before, before <+: commands →
      (∀ earlier c, earlier ++ [c] <+: before → ¬ c.Intrudes (s.after earlier)) →
      (s.after before).Weighable → (s.after before).Weighed) ∧
    (Regular (commands.length + s.schedule.waiting) s.wearer →
      (∀ earlier c, earlier ++ [c] <+: commands → c.NamesIssued (s.after earlier)) →
      (∀ earlier c, earlier ++ [c] <+: commands → ¬ c.Intrudes (s.after earlier)) ∧
      (s.arena.Acyclic → ∀ before, before <+: commands → (s.after before).Weighable)) := by
  refine ⟨fun before _ hfair => ?_, fun hroom hissued => ⟨fun earlier c hp => ?_, fun hacyclic before hp => ?_⟩⟩
  · exact Run.room_of_not_bad (fun _ (t : Simulation) => t.Weighable → t.Weighed) (fun t c => c.Intrudes t)
      (fun _ _ _ hc ht => weighed_handle ht hc) before (n := 0) (fun _ => hs) hfair
  · have hlength : earlier.length + 1 ≤ commands.length := by simpa using hp.length_le
    refine not_intrudes (n := 0) (roomy_after (hroom.mono (by omega)) fun before d hd => ?_).1
    exact hissued before d (hd.trans ((List.prefix_append earlier [c]).trans hp))
  · have hroomy : s.Roomy (0 + before.length) := hroom.mono (by have := hp.length_le; omega)
    exact weighable_of_acyclic _
      ((roomy_after hroomy fun earlier d hd => hissued earlier d (hd.trans hp)).2 hacyclic)

/-! ## A sword for a bag -/

/-- A bag on the back, and a vacant cell of some generation. -/
def bagOnBack (generation : Nat) (contents : List ItemId) : Simulation :=
  .ofSnapshot
    { character := { id := ⟨1⟩, name := "Tester", inventoryWeight := 1800,
                     equipment := Equipment.empty.wear .backpack ⟨1, 0⟩ }
      arena := ⟨[.vacant generation, .occupied 0 ⟨⟨1⟩, 1, 0, contents⟩], [0]⟩
      savedAt := ⟨0⟩ }
    { items := .ofList [{ id := ⟨1⟩, weight := 1800, container := true, positions := ⟨4⟩ },
                        { id := ⟨2⟩, weight := 4200, positions := ⟨32⟩ }] }
    {}

/-- A sword is made. -/
def forgeSword : Command := .createItem ⟨⟨2⟩, 1, 0, []⟩

variable {generation : Nat} {contents : List ItemId}

theorem sound_bagOnBack : (bagOnBack generation contents).arena.Sound where
  nodup := List.nodup_singleton 0
  mem_free i := by
    show i ∈ [0] ↔
      ∃ g, ([.vacant generation, .occupied 0 ⟨⟨1⟩, 1, 0, contents⟩] : List Cell)[i]? = some (.vacant g)
    rcases i with _ | _ | i <;> simp

theorem namings_bagOnBack (x : ItemId) :
    (bagOnBack generation contents).wearer.namings x = [(⟨1, 0⟩ : ItemId)].count x + contents.count x := by
  show [(⟨1, 0⟩ : ItemId)].count x + (0 + (contents.count x + 0)) = _
  omega

theorem issued_bagOnBack (hc : ∀ x ∈ contents, x = ⟨0, 0⟩) (x : ItemId)
    (hx : 0 < (bagOnBack generation contents).wearer.namings x) :
    (bagOnBack generation contents).arena.Issued x := by
  rw [namings_bagOnBack, Nat.add_pos_iff_pos_or_pos, List.count_pos_iff, List.count_pos_iff,
    List.mem_singleton] at hx
  rcases hx with rfl | hx
  · exact ⟨0, rfl, le_rfl⟩
  · rw [hc x hx]
    exact ⟨generation, rfl, Nat.zero_le _⟩

/-- A bag that lists at most the first cell, which lists nothing, is in no cycle. -/
theorem acyclic_of_cells (a : Arena) (first : Cell) (contents : List ItemId)
    (ha : a.cells = [first, .occupied 0 ⟨⟨1⟩, 1, 0, contents⟩])
    (hfirst : ∀ g held, first = .occupied g held → held.contents = [])
    (hc : ∀ x ∈ contents, x.index = 0) : a.Acyclic := by
  refine Arena.acyclic_of_index_lt fun u v ⟨bag, hb, hv⟩ => ?_
  rw [Arena.get?_eq_some_iff, ha] at hb
  obtain ⟨i, g⟩ := u
  rcases i with _ | _ | i
  · rw [hfirst _ bag (Option.some.inj hb)] at hv
    exact absurd hv List.not_mem_nil
  · obtain ⟨-, rfl⟩ := Cell.occupied.inj (Option.some.inj hb)
    rw [hc v hv]
    exact Nat.one_pos
  · cases hb

theorem weighed_bagOnBack : (bagOnBack max32 [⟨0, 0⟩]).Weighed ∧ (bagOnBack 0 []).Weighed :=
  ⟨by show 1800 = _; decide, by show 1800 = _; decide⟩

/-- The bag names the id of an item that is long gone, whose cell has come to its last generation.  The
sword gets that id, lies in the bag and is not weighed. -/
theorem sword_unweighed :
    (bagOnBack max32 [⟨0, 0⟩]).Weighed ∧ (bagOnBack max32 [⟨0, 0⟩]).arena.Sound ∧
      (∀ x, 0 < (bagOnBack max32 [⟨0, 0⟩]).wearer.namings x → (bagOnBack max32 [⟨0, 0⟩]).arena.Issued x) ∧
      forgeSword.NamesIssued (bagOnBack max32 [⟨0, 0⟩]) ∧
      ((bagOnBack max32 [⟨0, 0⟩]).after [forgeSword]).Weighable ∧
      ¬ ((bagOnBack max32 [⟨0, 0⟩]).after [forgeSword]).Weighed := by
  refine ⟨weighed_bagOnBack.1, sound_bagOnBack, issued_bagOnBack fun x => List.mem_singleton.mp,
    fun x hx => absurd hx List.not_mem_nil, ?_, ?_⟩
  · refine weighable_of_acyclic _ (acyclic_of_cells _ (.occupied 0 ⟨⟨2⟩, 1, 0, []⟩) [⟨0, 0⟩] (by decide) ?_ ?_)
    · rintro g held hfirst
      rw [← (Cell.occupied.inj hfirst).2]
    · exact fun x hx => by rw [List.mem_singleton.mp hx]
  · show ¬ 1800 = _
    decide

/-- The sword into the left hand. -/
def arm : List Command := [forgeSword, .equip ⟨⟨0, 1⟩, .named .left, 1⟩]

theorem weighed_throughout_arm :
    (bagOnBack 0 []).Weighed ∧ ((bagOnBack 0 []).after arm).Weighed ∧
      ((bagOnBack 0 []).after arm).character.inventoryWeight = 6000 := by
  obtain ⟨hweighed, hfair⟩ := weighed_throughout (bagOnBack 0 []) arm weighed_bagOnBack.2
  have hregular : Regular (arm.length + 0) (bagOnBack 0 []).wearer :=
    { sound := sound_bagOnBack
      issued := issued_bagOnBack fun x hx => absurd hx List.not_mem_nil
      room := ⟨by decide, by decide⟩ }
  have hissued : ∀ earlier c, earlier ++ [c] <+: arm → c.NamesIssued ((bagOnBack 0 []).after earlier) := by
    intro earlier c hp
    have hc : c ∈ arm := hp.subset (by simp)
    simp only [arm, List.mem_cons, List.not_mem_nil, or_false] at hc
    rcases hc with rfl | rfl
    · exact fun x hx => absurd hx List.not_mem_nil
    · trivial
  obtain ⟨hnone, hweighable⟩ := hfair hregular hissued
  have hacyclic : (bagOnBack 0 []).arena.Acyclic :=
    acyclic_of_cells _ (.vacant 0) [] rfl (fun _ _ h => by cases h) fun x hx => absurd hx List.not_mem_nil
  exact ⟨weighed_bagOnBack.2, hweighed arm List.prefix_rfl hnone (hweighable hacyclic arm List.prefix_rfl),
    by decide⟩

end Simulation

end Adventurer
