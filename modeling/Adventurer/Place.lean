import Adventurer.Number.Width

/-!
# Places in the world

A tile is named by two coordinates and a floor.  A tile has eight neighbours on its floor, and with
them forms the block that proximity rules look at.
-/

namespace Adventurer

/-- A tile of one floor. -/
structure Place where
  x : Int
  y : Int
  floor : Nat
  deriving DecidableEq, Repr, Ord, Inhabited

namespace Place

/-- The tile `dx` to the east and `dy` to the south on the same floor; the world has no edge, and goes on
at its other end. -/
def shift (p : Place) (dx dy : Int) : Place := ⟨wrapInt32 (p.x + dx), wrapInt32 (p.y + dy), p.floor⟩

/-- The eight tiles around a tile, row by row. -/
def neighbors (p : Place) : List Place :=
  [(-1, -1), (0, -1), (1, -1), (-1, 0), (1, 0), (-1, 1), (0, 1), (1, 1)].map
    fun (d : Int × Int) => p.shift d.1 d.2

/-- The three by three block around a tile, column by column, the tile itself included. -/
def block (p : Place) : List Place :=
  [(-1, -1), (-1, 0), (-1, 1), (0, -1), (0, 0), (0, 1), (1, -1), (1, 0), (1, 1)].map
    fun (d : Int × Int) => p.shift d.1 d.2

/-- The written form of a tile. -/
def render (p : Place) : String :=
  "(" ++ toString p.x ++ ", " ++ toString p.y ++ ", " ++ toString p.floor ++ ")"

end Place

end Adventurer
