import Adventurer.Number.Width
import Adventurer.Item.Kind

/-!
# The item arena

Every item lives in one cell of an arena; slots and containers only hold item ids.  An id carries
the generation of its cell, so the id of a removed item resolves to nothing when the cell is used
again.  Removing an item removes what is inside it.

Ids are counted in thirty-two bits.  A generation goes round, which is part of `nextGeneration`; that a
new cell has an index of thirty-two bits is left to those who fill that many cells.
-/

namespace Adventurer

/-- The cell of an item and the generation in which the item was put there. -/
structure ItemId where
  index : Nat
  generation : Nat
  deriving DecidableEq, Repr, Inhabited

/-- The written form of an item id. -/
def ItemId.render (id : ItemId) : String :=
  "item#" ++ toString id.index ++ "v" ++ toString id.generation

/-- One item: its type, its stack count, the charges left and the items inside. -/
structure Item where
  type : ItemTypeId
  count : Nat := 1
  charges : Nat := 0
  contents : List ItemId := []
  deriving DecidableEq, Repr

/-- A place for one item. -/
inductive Cell where
  | occupied (generation : Nat) (item : Item)
  | vacant (generation : Nat)
  deriving DecidableEq, Repr

namespace Cell

def generation : Cell → Nat
  | occupied g _ => g
  | vacant g => g

def isOccupied : Cell → Bool
  | occupied _ _ => true
  | vacant _ => false

/-- The item of a generation, if it is the one in the cell. -/
def item? (generation : Nat) : Cell → Option Item
  | occupied g item => if g = generation then some item else none
  | vacant _ => none

end Cell

/-- The cells of all items, and the vacant ones in the order in which they will be used again. -/
structure Arena where
  cells : List Cell := []
  free : List Nat := []
  deriving DecidableEq, Repr

namespace Arena

instance : Inhabited Arena := ⟨{}⟩

/-- The arena without items. -/
def empty : Arena := {}

/-- The item an id stands for, if it is still there. -/
def get? (a : Arena) (id : ItemId) : Option Item :=
  (a.cells[id.index]?).bind (Cell.item? id.generation)

def contains (a : Arena) (id : ItemId) : Bool := (a.get? id).isSome

/-- The generation after a generation, counted in thirty-two bits. -/
def nextGeneration (generation : Nat) : Nat := wrap max32 (generation + 1)

/-- Stores an item in the cell vacated last, or in a new one.  The index of a new cell is taken as it is,
which is what thirty-two bits keep of it in an arena of no more cells than there are such indices. -/
def insert (a : Arena) (item : Item) : Arena × ItemId :=
  match a.free with
  | index :: rest =>
    let generation := (a.cells[index]?).elim 0 fun cell => nextGeneration cell.generation
    ({ cells := a.cells.set index (.occupied generation item), free := rest }, ⟨index, generation⟩)
  | [] => ({ a with cells := a.cells ++ [.occupied 0 item] }, ⟨a.cells.length, 0⟩)

/-- Changes the item an id stands for; a stale id changes nothing. -/
def modify (a : Arena) (id : ItemId) (change : Item → Item) : Arena :=
  match a.get? id with
  | some item =>
    { a with cells := a.cells.set id.index (.occupied id.generation (change item)) }
  | none => a

/-- Empties one cell and leaves the contents of its item where they are. -/
def vacate (a : Arena) (id : ItemId) : Arena :=
  { cells := a.cells.set id.index (.vacant id.generation), free := id.index :: a.free }

/-- Removes an item and, up to a depth, what is inside it. -/
def removeTree : Nat → Arena → ItemId → Arena
  | 0, a, _ => a
  | depth + 1, a, id =>
    match a.get? id with
    | some item => item.contents.foldl (removeTree depth) (a.vacate id)
    | none => a

/-- Removes an item and everything inside it.  No containment goes deeper than there are cells. -/
def remove (a : Arena) (id : ItemId) : Arena := removeTree a.cells.length a id

/-- Number of items in the arena. -/
def size (a : Arena) : Nat := a.cells.countP Cell.isOccupied

def isEmpty (a : Arena) : Bool := a.size = 0

/-- Whether, up to a depth, an item is another one or lies inside it. -/
def isWithinDepth : Nat → Arena → ItemId → ItemId → Bool
  | 0, _, root, item => root = item
  | depth + 1, a, root, item =>
    root = item ||
      (a.get? root).any fun box => box.contents.any fun child => isWithinDepth depth a child item

/-- Whether `item` is `root` or lies somewhere inside it. -/
def isWithin (a : Arena) (root item : ItemId) : Bool := isWithinDepth a.cells.length a root item

/-- Takes an item out of the first container, up to a depth below `parent`, that lists it. -/
def detachDepth : Nat → Arena → ItemId → ItemId → Option Arena
  | 0, _, _, _ => none
  | depth + 1, a, parent, item =>
    match a.get? parent with
    | none => none
    | some box =>
      if item ∈ box.contents then
        some (a.modify parent fun b => { b with contents := b.contents.erase item })
      else
        box.contents.findSome? fun child => detachDepth depth a child item

/-- Takes an item out of the first container inside `root` that lists it. -/
def detach? (a : Arena) (root item : ItemId) : Option Arena :=
  detachDepth a.cells.length a root item

end Arena

end Adventurer
