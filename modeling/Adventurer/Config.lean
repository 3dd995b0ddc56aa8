import Adventurer.Clock

/-!
# Game configuration

The tunables that all characters of a world share, with the values they have unless a world sets
others.
-/

namespace Adventurer

/-- How the share of progress lost at death is found: flat percent points, or a curve over the
level. -/
inductive LossFormula where
  | flat (percent : Int)
  | legacy
  deriving DecidableEq, Repr

/-- What players may do to each other. -/
inductive WorldType where
  | noPvp
  | pvp
  | pvpEnforced
  deriving DecidableEq, Repr, Inhabited

/-- Milliseconds of a day. -/
def dayMillis : Nat := 86400000

/-- The kills that lead to a red skull and the days for which skulls are borne. -/
structure SkullConfig where
  dayKillsToRed : Nat := 3
  weekKillsToRed : Nat := 5
  monthKillsToRed : Nat := 10
  redDurationDays : Nat := 1
  blackDurationDays : Nat := 3
  orangeDurationDays : Nat := 7
  deriving DecidableEq, Repr

namespace SkullConfig

instance : Inhabited SkullConfig := ⟨{}⟩

def redDuration (s : SkullConfig) : Nat := s.redDurationDays * dayMillis

def blackDuration (s : SkullConfig) : Nat := s.blackDurationDays * dayMillis

def orangeDuration (s : SkullConfig) : Nat := s.orangeDurationDays * dayMillis

end SkullConfig

/-- The tunables of a world. -/
structure GameConfig where
  /-- Whether either hand holds weapons and shields; otherwise shields and quivers belong to the
  right hand and weapons to the left. -/
  classicEquipmentSlots : Bool := true
  lossFormula : LossFormula := .flat 10
  /-- The last blessing that lessens a loss. -/
  maxBlessing : Nat := 8
  worldType : WorldType := .pvp
  /-- How long an aggressive act keeps a character in the fight. -/
  pzLockedMillis : Nat := 60000
  /-- The time between two evaluations of a passive. -/
  passiveIntervalMillis : Nat := 2000
  /-- The age up to which damage counts when a death is judged. -/
  inFightWindowMillis : Nat := 300000
  /-- The share of recent damage by players that makes a death one between players. -/
  pvpDamageShare : Float := 0.5
  /-- The least percentage to which an unfair fight reduces a loss. -/
  unfairFightFloor : Nat := 20
  /-- The health left after a death under a black skull. -/
  blackSkullDeathHealth : Int := 40
  /-- The item on the ground that feeds Divine Empowerment. -/
  divineEmpowermentItem : Option Nat := none
  /-- The level at which the experience curve ends. -/
  maxLevel : Nat := 2000
  skulls : SkullConfig := {}

namespace GameConfig

instance : Inhabited GameConfig := ⟨{}⟩

/-- The largest stack. -/
def maxStack : Nat := 100

/-- The default configuration with another loss formula. -/
def withLossFormula (formula : LossFormula) : GameConfig := { lossFormula := formula }

/-- The default configuration with hands of fixed use. -/
def modern : GameConfig := { classicEquipmentSlots := false }

/-- When a passive evaluated at `now` is evaluated next. -/
def nextPassiveDeadline (c : GameConfig) (now : Instant) : Instant :=
  now.later c.passiveIntervalMillis

end GameConfig

end Adventurer
