import Adventurer.Clock
import Adventurer.Item.Kind

/-!
# Conditions

Buffs, debuffs and cooldowns on an adventurer.  A set of conditions holds each kind at most once and
no more kinds than its capacity; adding a kind that is there keeps the later of the two ends.
-/

namespace Adventurer

/-- What a condition does. -/
inductive ConditionKind where
  | inFight
  | haste
  | paralyze
  | poison
  | burning
  | electrified
  | bleeding
  | drunk
  | regeneration
  | spellCooldown (spell : Nat)
  | spellGroupCooldown (group : Nat)
  | protectionPotion (combat : CombatType)
  | attackPotion (combat : CombatType)
  deriving DecidableEq, Repr

/-- Whether a condition of the kind only counts down to the next cast. -/
def ConditionKind.isCooldown : ConditionKind → Bool
  | spellCooldown _ | spellGroupCooldown _ => true
  | _ => false

/-- A kind, the instant at which it ends unless it is removed, and whether death removes it. -/
structure Condition where
  kind : ConditionKind
  expiresAt : Option Instant
  persistent : Bool
  deriving DecidableEq, Repr

namespace Condition

/-- A condition picked up in play, which ends at an instant and does not outlive its bearer. -/
def timed (kind : ConditionKind) (until_ : Instant) : Condition := ⟨kind, some until_, true⟩

/-- A condition that lasts as long as its source. -/
def permanent (kind : ConditionKind) : Condition := ⟨kind, none, false⟩

/-- Whether the condition has not ended by `now`. -/
def isActive (c : Condition) (now : Instant) : Bool := c.expiresAt.all (now < ·)

/-- Two conditions of one kind as one: the later end, no end if one has none, and lost at death only
if both are. -/
def join (a b : Condition) : Condition where
  kind := a.kind
  expiresAt := match a.expiresAt, b.expiresAt with
    | some s, some t => some (Instant.latest s t)
    | _, _ => none
  persistent := a.persistent && b.persistent

/-- The end of a cooldown brought `span` milliseconds nearer, though not before `now`. -/
def hasten (span : Nat) (now : Instant) (c : Condition) : Condition :=
  if c.kind.isCooldown then
    { c with expiresAt := c.expiresAt.map fun t => Instant.latest (t.earlier span) now }
  else c

@[simp] theorem join_kind (a b : Condition) : (a.join b).kind = a.kind := rfl

@[simp] theorem hasten_kind (span : Nat) (now : Instant) (c : Condition) :
    (c.hasten span now).kind = c.kind := by
  unfold hasten; split <;> rfl

end Condition

/-- The conditions of one adventurer in the order in which their kinds arrived. -/
structure ConditionSet where
  conditions : List Condition := []
  deriving DecidableEq, Repr

namespace ConditionSet

/-- The number of kinds a set has room for. -/
def capacity : Nat := 32

def empty : ConditionSet := {}

instance : Inhabited ConditionSet := ⟨{}⟩

/-- The active condition of a kind. -/
def active? (s : ConditionSet) (kind : ConditionKind) (now : Instant) : Option Condition :=
  s.conditions.find? fun c => c.kind = kind && c.isActive now

def has (s : ConditionSet) (kind : ConditionKind) (now : Instant) : Bool :=
  (s.active? kind now).isSome

/-- The end of the active condition of a kind, if it has one. -/
def expiresAt? (s : ConditionSet) (kind : ConditionKind) (now : Instant) : Option Instant :=
  (s.active? kind now).bind (·.expiresAt)

/-- Applies `change` to the first condition of a kind, if there is one. -/
def modifyFirst? (kind : ConditionKind) (change : Condition → Condition) :
    List Condition → Option (List Condition)
  | [] => none
  | c :: rest =>
    if c.kind = kind then some (change c :: rest)
    else (modifyFirst? kind change rest).map (c :: ·)

/-- Joins a condition to the one of its kind, or puts it at the end; none if the kind is new and
the set is full. -/
def add? (s : ConditionSet) (condition : Condition) : Option ConditionSet :=
  match modifyFirst? condition.kind (·.join condition) s.conditions with
  | some joined => some ⟨joined⟩
  | none =>
    if s.conditions.length < capacity then some ⟨s.conditions ++ [condition]⟩ else none

/-- The set with a condition added as far as there is room. -/
def add (s : ConditionSet) (condition : Condition) : ConditionSet := (s.add? condition).getD s

def remove (s : ConditionSet) (kind : ConditionKind) : ConditionSet :=
  ⟨s.conditions.filter (·.kind ≠ kind)⟩

/-- What is left after death. -/
def removePersistent (s : ConditionSet) : ConditionSet :=
  ⟨s.conditions.filter (!·.persistent)⟩

/-- The kinds that ended by `now`. -/
def expired (s : ConditionSet) (now : Instant) : List ConditionKind :=
  (s.conditions.filter (!·.isActive now)).map (·.kind)

/-- What is left once the conditions that ended by `now` are gone. -/
def removeExpired (s : ConditionSet) (now : Instant) : ConditionSet :=
  ⟨s.conditions.filter (·.isActive now)⟩

/-- Brings the end of every cooldown `span` milliseconds nearer. -/
def reduceCooldowns (s : ConditionSet) (span : Nat) (now : Instant) : ConditionSet :=
  ⟨s.conditions.map (Condition.hasten span now)⟩

def isEmpty (s : ConditionSet) : Bool := s.conditions.isEmpty

/-- Whether the set holds a condition of a kind, ended or not. -/
def holds (s : ConditionSet) (kind : ConditionKind) : Bool := s.conditions.any (·.kind = kind)

end ConditionSet

end Adventurer
