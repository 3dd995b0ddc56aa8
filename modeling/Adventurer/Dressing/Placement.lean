import Adventurer.Dressing.Capacity
import Adventurer.Dressing.Fit

/-!
# Where an item may go

Questions asked before a move: whether an item may go to a slot or anywhere on the character, where
it would land and how many of it fit.  Nothing changes by asking.
-/

namespace Adventurer

/-- Where an item is asked to go. -/
inductive SlotTarget where
  | named (slot : Slot)
  /-- The first place that takes the item. -/
  | wherever
  deriving DecidableEq, Repr

/-- How an accepted item is placed. -/
inductive Placement where
  /-- The slot is free, holds the item already or holds a stack it joins. -/
  | accepted (slot : Slot)
  /-- The slot holds something that has to leave first. -/
  | exchange (slot : Slot) (displaced : ItemId)
  /-- No slot takes the item; it goes into a carried container. -/
  | stored (container : ItemId)
  deriving DecidableEq, Repr

namespace Placement

def slot? : Placement → Option Slot
  | accepted slot | exchange slot _ => some slot
  | stored _ => none

/-- Whether the item goes into a slot and nothing has to leave it. -/
def isAccepted : Placement → Bool
  | accepted _ => true
  | _ => false

end Placement

/-- The first place where an item lands. -/
inductive Destination where
  | slot (slot : Slot)
  | container (id : ItemId)
  deriving DecidableEq, Repr

namespace Dressing

variable (rules : Rules) (c : Character) (a : Arena)

/-- What is in the way of an item in a slot: an occupant that is not the item and whose stack it
cannot join. -/
def obstacle? (id : ItemId) (item : Item) (type : ItemType) (slot : Slot) : Option ItemId :=
  match c.equipment.get slot with
  | none => none
  | some occupant =>
    let merges := type.stackable && (a.get? occupant).any fun held => held.type = item.type
    if occupant = id || merges then none else some occupant

/-- Whether `count` of a known item may go to a slot. -/
def placeInSlot (id : ItemId) (item : Item) (type : ItemType) (slot : Slot) (count : Nat) :
    Except Refusal Placement :=
  if !type.pickupable then .error .cannotPickup
  else match fitsSlot rules a c id item type slot count with
    | .error refusal => .error refusal
    | .ok () =>
      let obstacle := obstacle? c a id item type slot
      let freed := match obstacle, rules.items with
        | some occupant, some types => a.totalWeight types occupant
        | _, _ => 0
      if !hasCapacity rules c a id count freed then .error .notEnoughCapacity
      else match obstacle with
        | some occupant => .ok (.exchange slot occupant)
        | none => .ok (.accepted slot)

/-- Whether a slot takes `count` of an item without anything leaving it. -/
def slotAccepts (id : ItemId) (item : Item) (type : ItemType) (count : Nat) (slot : Slot) : Bool :=
  match placeInSlot rules c a id item type slot count with
  | .ok placement => placement.isAccepted
  | .error _ => false

/-- Whether an item is a stack of a type with room left, other than the given one. -/
def isOpenStack (id : ItemId) (type : ItemTypeId) (other : ItemId) : Bool :=
  other ≠ id && (a.get? other).any fun held => held.type = type && held.count < GameConfig.maxStack

/-- Whether an item is of a known container type. -/
def isContainer (id : ItemId) : Bool := (rules.resolve? a id).any (·.2.container)

/-- Whether a slot is the destination of an item: it is free or holds an open stack of the same
stackable type, and it accepts the item. -/
def isDestination (id : ItemId) (item : Item) (type : ItemType) (slot : Slot) : Bool :=
  (match c.equipment.get slot with
    | none => true
    | some occupant => type.stackable && isOpenStack a id item.type occupant)
  && slotAccepts rules c a id item type item.count slot

/-- The containers in which the search for room begins. -/
def wornContainers (id : ItemId) : List ItemId :=
  c.equipment.items.filter fun occupant => occupant ≠ id && isContainer rules a occupant

/-- The first container, breadth first below `level`, that holds a stack with room, and otherwise
the first container of all.  What lies inside the item itself is left out. -/
def searchContainers (id : ItemId) (item : Item) (type : ItemType) :
    Nat → List ItemId → Option ItemId → Option ItemId
  | 0, _, first => first
  | depth + 1, level, first =>
    let outside := level.filter fun box => !a.isWithin id box
    let inside (box : ItemId) : List ItemId := (a.get? box).elim [] (·.contents)
    let hasRoom (box : ItemId) : Bool :=
      type.stackable && (inside box).any (isOpenStack a id item.type)
    let first := first.or outside.head?
    match outside.find? hasRoom with
    | some box => some box
    | none =>
      searchContainers id item type depth
        (outside.flatMap fun box => (inside box).filter (isContainer rules a)) first

/-- Where an item lands on the character, if anywhere. -/
def destination? (id : ItemId) : Option Destination :=
  match rules.resolve? a id with
  | none => none
  | some (item, type) =>
    match Slot.all.find? (isDestination rules c a id item type) with
    | some slot => some (.slot slot)
    | none =>
      (searchContainers rules a id item type a.cells.length (wornContainers rules c a id)
        none).map .container

/-- Whether `count` of an item may go to a target, and how it is placed there. -/
def queryAdd (id : ItemId) (target : SlotTarget) (count : Nat) : Except Refusal Placement :=
  match rules.resolve? a id with
  | none => .error .notPossible
  | some (item, type) =>
    if !type.pickupable then .error .cannotPickup
    else match target with
      | .named slot => placeInSlot rules c a id item type slot count
      | .wherever => match destination? rules c a id with
        | some (.slot slot) => placeInSlot rules c a id item type slot count
        | some (.container box) =>
          if hasCapacity rules c a id count 0 then .ok (.stored box)
          else .error .notEnoughCapacity
        | none => .error .notEnoughRoom

/-- The room left in the stack of a slot for an item that can join it. -/
def stackRoom? (id : ItemId) (item : Item) (type : ItemType) (slot : Slot) : Option Nat :=
  (c.equipment.get slot).bind fun occupant =>
    (a.get? occupant).bind fun held =>
      if type.stackable && isOpenStack a id item.type occupant then
        some (GameConfig.maxStack - held.count)
      else none

/-- How many of an item a free slot holds. -/
def emptyRoom (type : ItemType) : Nat := if type.stackable then GameConfig.maxStack else 1

/-- How many of an item one slot takes, when any place is asked for. -/
def roomWherever (id : ItemId) (item : Item) (type : ItemType) (slot : Slot) : Nat :=
  if c.equipment.isFree slot then
    if slotAccepts rules c a id item type item.count slot then emptyRoom type else 0
  else
    ((stackRoom? c a id item type slot).filter fun room =>
      slotAccepts rules c a id item type room slot).getD 0

/-- How many of an item a named slot takes. -/
def roomNamed (id : ItemId) (item : Item) (type : ItemType) (count : Nat) (slot : Slot) : Nat :=
  if c.equipment.isFree slot then
    if slotAccepts rules c a id item type count slot then emptyRoom type else 0
  else (stackRoom? c a id item type slot).getD 0

/-- How many of an item fit at a target; less than `count` are not enough room. -/
def queryMaxCount (id : ItemId) (target : SlotTarget) (count : Nat) : Except Refusal Nat :=
  match rules.resolve? a id with
  | none => .error .notPossible
  | some (item, type) =>
    let room := match target with
      | .wherever => (Slot.all.map (roomWherever rules c a id item type)).foldr (· + ·) 0
      | .named slot => roomNamed rules c a id item type count slot
    if room < count then .error .notEnoughRoom else .ok room

/-- Whether `count` of a worn item may be taken off. -/
def queryRemove (id : ItemId) (count : Nat) : Except Refusal Unit :=
  match c.equipment.slotOf id, rules.resolve? a id with
  | some _, some (item, type) =>
    if count = 0 || (type.stackable && item.count < count) then .error .notPossible
    else require type.moveable .notMoveable
  | _, _ => .error .notPossible

end Dressing

end Adventurer
