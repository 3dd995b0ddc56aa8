import Adventurer.Clock
import Adventurer.Creature

/-!
# Skulls and kill records

The mark an adventurer bears for attacks and unjustified kills, the time for which it is still borne
and the record of all such kills.
-/

namespace Adventurer

/-- A mark that others see. -/
inductive Skull where
  | none
  | yellow
  | green
  | white
  | red
  | black
  | orange
  deriving DecidableEq, Repr, Inhabited

/-- Whether only time takes the skull away. -/
def Skull.isSticky : Skull → Bool
  | red | black => true
  | _ => false

/-- One unjustified kill; the victim's revenge settles it. -/
structure UnjustifiedKill where
  target : CreatureId
  time : Instant
  unavenged : Bool
  deriving DecidableEq, Repr

/-- A set of creatures listed by ascending number. -/
structure CreatureSet where
  members : List CreatureId := []
  deriving DecidableEq, Repr

namespace CreatureSet

instance : Inhabited CreatureSet := ⟨{}⟩

def contains (s : CreatureSet) (id : CreatureId) : Bool := id ∈ s.members

/-- Puts a creature before the first larger number, unless it is there already. -/
def insertMember (id : CreatureId) : List CreatureId → List CreatureId
  | [] => [id]
  | other :: rest =>
    if id.number < other.number then id :: other :: rest
    else if id = other then other :: rest
    else other :: insertMember id rest

def insert (s : CreatureSet) (id : CreatureId) : CreatureSet := ⟨insertMember id s.members⟩

def erase (s : CreatureSet) (id : CreatureId) : CreatureSet := ⟨s.members.filter (· ≠ id)⟩

/-- The set of the listed creatures. -/
def ofList (ids : List CreatureId) : CreatureSet := ids.foldl insert {}

end CreatureSet

/-- The skull, the milliseconds for which a red or black one is still borne, every unjustified kill
and the creatures attacked in the current fight. -/
structure Reputation where
  skull : Skull := .none
  skullTicks : Int := 0
  kills : List UnjustifiedKill := []
  attacked : CreatureSet := {}
  deriving DecidableEq, Repr

instance : Inhabited Reputation := ⟨{}⟩

end Adventurer
