import Adventurer.Markup.Identifier.Ranges

/-!
# Identifiers

Which characters an identifier may begin with and which it may go on with: a letter of any script or
an underscore first, and marks, digits and joining punctuation behind it.
-/

namespace Adventurer.Identifier

/-- Whether a code lies in one of some ranges. -/
def inRanges (ranges : List (Nat × Nat)) (code : Nat) : Bool :=
  ranges.any fun r => r.1 ≤ code && code ≤ r.2

/-- Whether an identifier may begin with a character. -/
def isStart (c : Char) : Bool :=
  c.isAlpha || c = '_' || inRanges letters c.toNat || inRanges recentLetters c.toNat

/-- Whether an identifier may go on with a character. -/
def isRest (c : Char) : Bool :=
  isStart c || c.isDigit || inRanges marks c.toNat || inRanges recentMarks c.toNat

end Adventurer.Identifier
