import Adventurer.Character.Basic

/-!
# Stages and avatars

A passive grants more at a higher stage and nothing at stage zero.  An avatar grants its effects
until it ends.
-/

namespace Adventurer

/-- The amounts of the three stages. -/
structure ByStage where
  first : Int
  second : Int
  third : Int

/-- The amount at a stage. -/
def ByStage.at_ (values : ByStage) : Nat → Int
  | 0 => 0
  | 1 => values.first
  | 2 => values.second
  | _ => values.third

/-- An effect of an active avatar, in percent. -/
inductive AvatarSkill where
  | damageReduction
  | criticalChance
  | criticalDamage
  deriving DecidableEq, Repr

namespace Character

/-- The stage of the avatar that is active, none if there is no avatar or its passive is locked. -/
def avatarStage? (c : Character) (now : Instant) : Option Nat :=
  match c.passives.avatar with
  | none => none
  | some active =>
    let stage := c.passives.stage active.avatar
    if active.until_ ≤ now || stage = 0 then none else some stage

/-- What the active avatar grants. -/
def avatarSkill (c : Character) (skill : AvatarSkill) (now : Instant) : Int :=
  match c.avatarStage? now with
  | none => 0
  | some stage => match skill with
    | .damageReduction | .criticalDamage => (ByStage.mk 5 10 15).at_ stage
    | .criticalChance => 100

/-- Starts an avatar; none for a passive that is locked or no avatar. -/
def activateAvatar? (c : Character) (passive : Passive) (duration : Nat) (now : Instant) :
    Option Character :=
  if passive.isAvatar && c.passives.isUnlocked passive then
    some (c.mapPassives fun p => { p with avatar := some ⟨passive, now.later duration⟩ })
  else none

end Character

end Adventurer
