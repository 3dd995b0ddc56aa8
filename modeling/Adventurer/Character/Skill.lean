import Adventurer.Collection.Table

/-!
# Skills and the progression ledger

An adventurer advances on three kinds of track: the level, the magic level and seven skills.  Each
track keeps a level, the amount gathered since and that amount in hundredths of what the next level
asks for.
-/

namespace Adventurer

/-- A skill that is trained by use. -/
inductive Skill where
  | fist
  | club
  | sword
  | axe
  | distance
  | shield
  | fishing
  deriving DecidableEq, Repr, Inhabited

namespace Skill

def all : List Skill := [fist, club, sword, axe, distance, shield, fishing]

instance : Enumerated Skill where
  count := 7
  all := all
  index s := ⟨s.ctorIdx, by cases s <;> decide⟩
  index_injective {a b} h := by cases a <;> cases b <;> revert h <;> decide
  mem_all a := by cases a <;> decide

/-- The name shown to players. -/
def title : Skill → String
  | fist => "fist fighting"
  | club => "club fighting"
  | sword => "sword fighting"
  | axe => "axe fighting"
  | distance => "distance fighting"
  | shield => "shielding"
  | fishing => "fishing"

/-- Whether the skill is one of close combat. -/
def isMelee : Skill → Bool
  | fist | club | sword | axe => true
  | _ => false

/-- The level at which every skill starts and below which none falls. -/
def startingLevel : Nat := 10

end Skill

/-- The level of a skill, the tries since it was reached and the percent they make of the next. -/
structure SkillRecord where
  level : Nat := Skill.startingLevel
  tries : Nat := 0
  percent : Float := 0.0

instance : Inhabited SkillRecord := ⟨{}⟩

/-- What an advance or a loss is booked on. -/
inductive Track where
  | level
  | magicLevel
  | skill (skill : Skill)
  deriving DecidableEq, Repr

/-- All progress of one adventurer. -/
structure Ledger where
  experience : Nat := 0
  level : Nat := 1
  levelPercent : Float := 0.0
  magicLevel : Nat := 0
  manaSpent : Nat := 0
  magicLevelPercent : Float := 0.0
  skills : Table Skill SkillRecord := .replicate {}

instance : Inhabited Ledger := ⟨{}⟩

/-- The ledger with one skill replaced. -/
def Ledger.setSkill (l : Ledger) (skill : Skill) (record : SkillRecord) : Ledger :=
  { l with skills := l.skills.set skill record }

end Adventurer
