/-!
# Creatures

Characters, monsters and other beings share one numbering.  What a rule sees of a creature is its
number, its kind, its master if it was summoned and its race.
-/

namespace Adventurer

/-- The number of a creature. -/
structure CreatureId where
  number : Nat
  deriving DecidableEq, Repr, Ord, Inhabited

/-- The written form of a creature's number. -/
def CreatureId.render (id : CreatureId) : String := "#" ++ toString id.number

inductive CreatureKind where
  | player
  | monster
  | npc
  deriving DecidableEq, Repr, Inhabited

/-- The master of a summoned creature. -/
structure Summoner where
  id : CreatureId
  isPlayer : Bool
  deriving DecidableEq, Repr

/-- A creature as it is seen on a tile. -/
structure CreatureView where
  id : CreatureId
  kind : CreatureKind
  master : Option Summoner := none
  race : Option Nat := none
  deriving DecidableEq, Repr

namespace CreatureView

/-- A player without a master. -/
def player (id : CreatureId) : CreatureView := { id, kind := .player }

/-- A wild monster. -/
def monster (id : CreatureId) : CreatureView := { id, kind := .monster }

/-- The creature as the summon of a master. -/
def summonedBy (c : CreatureView) (id : CreatureId) (isPlayer : Bool) : CreatureView :=
  { c with master := some ⟨id, isPlayer⟩ }

/-- The creature with a race. -/
def withRace (c : CreatureView) (race : Nat) : CreatureView := { c with race := some race }

def isPlayer (c : CreatureView) : Bool := c.kind = .player

/-- Whether a player's hand is behind the creature: a player, or the summon of one. -/
def isPlayerControlled (c : CreatureView) : Bool :=
  c.isPlayer || c.master.any (·.isPlayer)

def isSummonOf (c : CreatureView) (owner : CreatureId) : Bool :=
  c.master.any (·.id = owner)

end CreatureView

end Adventurer
