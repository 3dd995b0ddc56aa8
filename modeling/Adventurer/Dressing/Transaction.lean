import Adventurer.Dressing.Hook
import Adventurer.Dressing.Placement
import Adventurer.Dressing.Wearer

/-!
# Equipping and unequipping

A request is first planned, which changes nothing but the state of the hook, and then carried out,
which cannot fail.  So a request that is refused leaves the character and the arena as they were,
and the client is told the code of the refusal and nothing else.
-/

namespace Adventurer

/-- A request to move `count` of an item onto the character; an item that does not stack moves as
one. -/
structure EquipRequest where
  item : ItemId
  target : SlotTarget
  count : Nat := 1
  deriving DecidableEq, Repr

/-- What a move has led to: the item now at the destination and the one it has pushed out. -/
structure EquipOutcome where
  placed : ItemId
  destination : Destination
  displaced : Option ItemId
  deriving DecidableEq, Repr

namespace Dressing

variable {σ : Type}

/-- How an accepted move is carried out. -/
inductive Plan where
  /-- Put the item into a slot, over what is there. -/
  | wear (slot : Slot) (displaced : Option ItemId)
  /-- Add the item to the stack worn in a slot. -/
  | merge (slot : Slot) (stack : ItemId)
  /-- Put the item into a container. -/
  | stow (container : ItemId)
  deriving DecidableEq, Repr

/-- Asks the hook whether the displaced item may leave the slot and the new one may take it. -/
def askHook (hook : EquipHook σ) (c : Character) (id : ItemId) (type : ItemType) (slot : Slot)
    (displaced : Option ItemId) (s : σ) : Bool × σ :=
  let (leaves, s) := match displaced with
    | some other => hook.canUnequip c other slot s
    | none => (true, s)
  if leaves then hook.canEquip c id type slot s else (false, s)

/-- Plans a placement in a slot once the hook has agreed. -/
def planSlot (rules : Rules) (w : Wearer) (id : ItemId) (count : Nat) (slot : Slot)
    (displaced : Option ItemId) : Except Refusal Plan :=
  match w.character.equipment.get slot, displaced with
  | some occupant, none =>
    if occupant = id then .ok (.wear slot none)
    else (queryMaxCount rules w.character w.arena id (.named slot) count).map fun _ =>
      .merge slot occupant
  | _, displaced => .ok (.wear slot displaced)

/-- The number of pieces a request moves: those asked for of a stack, and otherwise one. -/
def movedCount (type : ItemType) (request : EquipRequest) : Nat :=
  if type.stackable then request.count else 1

/-- Plans a move, or refuses it. -/
def plan (rules : Rules) (hook : EquipHook σ) (w : Wearer) (request : EquipRequest) (s : σ) :
    Except Refusal (Plan × Nat) × σ :=
  match rules.resolve? w.arena request.item with
  | none => (.error .notPossible, s)
  | some (item, type) =>
    let count := movedCount type request
    if count = 0 || item.count < count then (.error .notPossible, s)
    else match queryAdd rules w.character w.arena request.item request.target count with
      | .error refusal => (.error refusal, s)
      | .ok (.stored box) => (.ok (.stow box, count), s)
      | .ok (.accepted slot) => planned item type count slot none s
      | .ok (.exchange slot other) => planned item type count slot (some other) s
where
  /-- Plans a placement in a slot, if the hook agrees to it. -/
  planned (_item : Item) (type : ItemType) (count : Nat) (slot : Slot) (displaced : Option ItemId)
      (s : σ) : Except Refusal (Plan × Nat) × σ :=
    let (agreed, s) := askHook hook w.character request.item type slot displaced s
    if agreed then
      ((planSlot rules w request.item count slot displaced).map fun plan => (plan, count), s)
    else (.error .hookRejected, s)

/-- Moves the items of a plan; the item at the destination is returned. -/
def move (rules : Rules) (w : Wearer) (id : ItemId) (count : Nat) :
    Plan → Told (Wearer × ItemId)
  | .stow box => w.store rules id count box
  | .merge _ stack => do
    let (w, moved) ← w.takeFrom id count
    pure (w.joinStack moved stack count, stack)
  | .wear slot _ => do
    let (w, moved) ← w.takeFrom id count
    pure (w.mapEquipment (·.wear slot moved), moved)

/-- What a plan leads to. -/
def Plan.outcome (placed : ItemId) : Plan → EquipOutcome
  | .stow box => ⟨placed, .container box, none⟩
  | .merge slot _ => ⟨placed, .slot slot, none⟩
  | .wear slot displaced => ⟨placed, .slot slot, displaced⟩

/-- Tells what a slot holds after a move, and reports to the hook what has left it and what has
come. -/
def report (hook : EquipHook σ) (w : Wearer) (slot : Slot) (placed : ItemId)
    (displaced : Option ItemId) (s : σ) : Told (Wearer × σ) := do
  Told.tell (.inventorySlot slot (some placed))
  let (c, s) := match displaced with
    | some other => hook.onUnequip w.character other slot s
    | none => (w.character, s)
  let (c, s) := hook.onEquip c placed slot s
  pure ({ w with character := c }, s)

/-- Carries out a plan. -/
def carryOut (rules : Rules) (hook : EquipHook σ) (w : Wearer) (id : ItemId) (count : Nat)
    (plan : Plan) (s : σ) : Told (Wearer × σ × EquipOutcome) := do
  let (w, placed) ← move rules w id count plan
  let w ← w.refresh rules
  let outcome := plan.outcome placed
  match outcome.destination with
  | .container _ => pure (w, s, outcome)
  | .slot slot => do
    let (w, s) ← report hook w slot placed outcome.displaced s
    pure (w, s, outcome)

/-- What is left of a request that is refused: nothing but the notice. -/
def refuse {α : Type} (w : Wearer) (s : σ) (refusal : Refusal) :
    Told (Wearer × σ × Except Refusal α) := do
  Told.tell (.cancel refusal.code)
  pure (w, s, .error refusal)

/-- Equips an item, exchanging it for what is in the slot or adding it to a stack where needed. -/
def tryEquip (rules : Rules) (hook : EquipHook σ) (w : Wearer) (request : EquipRequest) (s : σ) :
    Told (Wearer × σ × Except Refusal EquipOutcome) :=
  match plan rules hook w request s with
  | (.error refusal, s) => refuse w s refusal
  | (.ok (plan, count), s) => do
    let (w, s, outcome) ← carryOut rules hook w request.item count plan s
    pure (w, s, .ok outcome)

/-- Plans taking `count` off what is worn in a slot. -/
def planRemoval (rules : Rules) (hook : EquipHook σ) (w : Wearer) (slot : Slot) (count : Nat)
    (s : σ) : Except Refusal ItemId × σ :=
  match w.character.equipment.get slot with
  | none => (.error .notPossible, s)
  | some id => match queryRemove rules w.character w.arena id count with
    | .error refusal => (.error refusal, s)
    | .ok () =>
      let (agreed, s) := hook.canUnequip w.character id slot s
      (if agreed then .ok id else .error .hookRejected, s)

/-- Takes `count` off what is worn in a slot.  A part of a stack becomes an item of its own; what is
returned is no longer carried. -/
def tryUnequip (rules : Rules) (hook : EquipHook σ) (w : Wearer) (slot : Slot) (count : Nat)
    (s : σ) : Told (Wearer × σ × Except Refusal ItemId) :=
  match planRemoval rules hook w slot count s with
  | (.error refusal, s) => refuse w s refusal
  | (.ok id, s) => do
    let (w, taken) ← w.takeFrom id count
    let w ← w.refresh rules
    if taken ≠ id then Told.tell (.inventorySlot slot (some id))
    let (c, s) := hook.onUnequip w.character taken slot s
    pure ({ w with character := c }, s, .ok taken)

/-- A request that is refused changes neither the character nor the arena. -/
theorem tryEquip_of_plan_error {rules : Rules} {hook : EquipHook σ} {w : Wearer}
    {request : EquipRequest} {s : σ} {refusal : Refusal} {t : σ}
    (h : plan rules hook w request s = (.error refusal, t)) :
    tryEquip rules hook w request s = refuse w t refusal := by
  simp only [tryEquip, h]

end Dressing

end Adventurer
