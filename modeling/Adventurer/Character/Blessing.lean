import Adventurer.Number.Width

/-!
# Blessings

Counts of eight blessings, numbered from one.  The first, Twist of Fate, guards against deaths in
fights between players and does not lessen a loss; the others are the regular blessings.
-/

namespace Adventurer

/-- How many of each blessing are held; the cell at zero stays empty. -/
structure Blessings where
  counts : Vector Nat 9 := Vector.replicate 9 0
  deriving DecidableEq

namespace Blessings

/-- Number of blessings. -/
def number : Nat := 8

/-- The number of Twist of Fate. -/
def twistOfFate : Nat := 1

instance : Inhabited Blessings := ⟨{}⟩

/-- How many of a blessing are held, none of one that does not exist. -/
def count (b : Blessings) (index : Nat) : Nat := (b.counts[index]?).getD 0

def has (b : Blessings) (index : Nat) : Bool := 0 < b.count index

/-- Replaces one count; the number of a blessing that does not exist changes nothing. -/
def setCount (b : Blessings) (index count : Nat) : Blessings :=
  ⟨b.counts.setIfInBounds index count⟩

/-- Adds to a blessing, up to the largest count. -/
def add (b : Blessings) (index amount : Nat) : Blessings :=
  if index = 0 then b else b.setCount index (addUpTo max8 (b.count index) amount)

/-- Takes from a blessing, as far as it goes. -/
def remove (b : Blessings) (index amount : Nat) : Blessings :=
  b.setCount index (b.count index - amount)

/-- Number of different regular blessings held, counted up to a blessing. -/
def regularCount (b : Blessings) (last : Nat) : Nat :=
  (List.range' 2 (last + 1 - 2)).countP b.has

/-- Takes one of each blessing from `first` to `last`. -/
def strip (b : Blessings) (first last : Nat) : Blessings :=
  (List.range' first (last + 1 - first)).foldl (fun b index => b.remove index 1) b

end Blessings

end Adventurer
