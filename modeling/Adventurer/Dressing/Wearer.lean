import Adventurer.Dressing.Capacity
import Adventurer.Passives.Tick
import Adventurer.Stats.Derived

/-!
# The wearer

A character together with the arena that holds its items.  After the inventory has changed, the
weight, the passive overlay and the cached stats are brought up to date, and the client is told.
-/

namespace Adventurer

/-- A character and the items of its world. -/
structure Wearer where
  character : Character
  arena : Arena

/-- A stack with `count` more pieces, as far as thirty-two bits hold them. -/
def Item.grow (count : Nat) (item : Item) : Item := { item with count := wrap max32 (item.count + count) }

@[simp] theorem Item.contents_grow (count : Nat) (item : Item) :
    (item.grow count).contents = item.contents := rfl

namespace Wearer

/-- The wearer with its arena changed. -/
def mapArena (w : Wearer) (change : Arena → Arena) : Wearer := { w with arena := change w.arena }

/-- The wearer with its equipment changed. -/
def mapEquipment (w : Wearer) (change : Equipment → Equipment) : Wearer :=
  { w with character := { w.character with equipment := change w.character.equipment } }

/-- Brings weight, overlay and cached stats up to date. -/
def refresh (rules : Rules) (w : Wearer) : Told Wearer := do
  let weight := Dressing.inventoryWeight rules w.character w.arena
  let (c, _) ←
    Passives.onCombatTick rules w.arena true { w.character with inventoryWeight := weight }
  let c := { c with combat := { c.combat with cached := rules.derivedStats c w.arena } }
  Told.tell .stats
  pure { w with character := c }

/-- Takes a whole item out of its slot, or else out of the worn container that lists it. -/
def detach (w : Wearer) (id : ItemId) : Told Wearer :=
  match w.character.equipment.slotOf id with
  | some slot => do
    Told.tell (.inventorySlot slot none)
    pure (w.mapEquipment (·.clear slot))
  | none =>
    pure (w.mapArena fun a =>
      (w.character.equipment.items.findSome? fun root => a.detach? root id).getD a)

/-- Takes `count` of an item in hand.  A part of a stack becomes an item of its own and leaves the
rest where it was; a whole item leaves its place. -/
def takeFrom (w : Wearer) (id : ItemId) (count : Nat) : Told (Wearer × ItemId) :=
  match w.arena.get? id with
  | none => pure (w, id)
  | some source =>
    if count < source.count then
      let rest := w.arena.modify id fun item => { item with count := item.count - count }
      let (arena, part) := rest.insert { type := source.type, count }
      pure ({ w with arena }, part)
    else do
      let w ← w.detach id
      pure (w, id)

/-- Adds what is in hand to a stack; the item in hand is used up. -/
def joinStack (w : Wearer) (moved stack : ItemId) (count : Nat) : Wearer :=
  w.mapArena fun a => (a.remove moved).modify stack (Item.grow count)

/-- The first stack in a container that is no more than full once it has grown by `count` of an item. -/
def joinable? (rules : Rules) (w : Wearer) (id box : ItemId) (count : Nat) : Option ItemId := do
  let (item, type) ← rules.resolve? w.arena id
  let bag ← w.arena.get? box
  if type.stackable then
    bag.contents.find? fun child =>
      child ≠ id && (w.arena.get? child).any fun held =>
        held.type = item.type && (held.grow count).count ≤ GameConfig.maxStack
  else none

/-- Puts `count` of an item into a container, into a stack there if one has room for them. -/
def store (rules : Rules) (w : Wearer) (id : ItemId) (count : Nat) (box : ItemId) :
    Told (Wearer × ItemId) := do
  let stack := w.joinable? rules id box count
  let (w, moved) ← w.takeFrom id count
  match stack with
  | some stack => pure (w.joinStack moved stack count, stack)
  | none =>
    pure (w.mapArena (·.modify box fun bag => { bag with contents := bag.contents ++ [moved] }),
      moved)

/-- Destroys what is worn in some slots. -/
def discard (rules : Rules) (w : Wearer) (slots : List Slot) : Told Wearer :=
  if slots.isEmpty then pure w
  else do
    let cleared ← slots.foldlM (fun (w : Wearer) slot =>
      match w.character.equipment.get slot with
      | none => pure w
      | some id => do
        Told.tell (.inventorySlot slot none)
        pure ((w.mapEquipment (·.clear slot)).mapArena (·.remove id))) w
    cleared.refresh rules

end Wearer

end Adventurer
