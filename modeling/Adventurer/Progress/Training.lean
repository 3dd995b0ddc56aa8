import Adventurer.Number.Decimal
import Adventurer.Progress.Gain

/-!
# Training

Tries gathered while logged out, and the tries that blocked hits earn.  A clean hit opens a window
of a fixed number of blocked hits that still train.
-/

namespace Adventurer

/-- How an attack was stopped by its target. -/
inductive BlockType where
  | none
  | defense
  | armor
  | immunity
  deriving DecidableEq, Repr

namespace Progress

variable {σ : Type}

/-- Number of blocked hits that still train after a clean one. -/
def trainingWindow : Nat := 30

/-- How much of `next` has been gathered, in percent, without rounding. -/
def rawPercent (count next : Nat) : Float :=
  if next = 0 then 0.0 else Binary64.ofNat count * 100.0 / Binary64.ofNat next

/-- Every word of a name with a capital. -/
def titleCase (name : String) : String :=
  " ".intercalate ((name.splitOn " ").map String.capitalize)

/-- A track that can be trained while logged out. -/
inductive TrainedTrack where
  | magicLevel
  | skill (skill : Skill)

namespace TrainedTrack

/-- The trained track of a track; the level is not trained. -/
def ofTrack? : Track → Option TrainedTrack
  | .level => none
  | .magicLevel => some .magicLevel
  | .skill s => some (.skill s)

def title : TrainedTrack → String
  | .magicLevel => "Magic Level"
  | .skill s => titleCase s.title

def require (vocation : Vocation) : TrainedTrack → Nat → Nat
  | .magicLevel => vocation.manaRequired
  | .skill s => vocation.skillTries s

def footing (c : Character) : TrainedTrack → Footing
  | .magicLevel => ⟨c.progress.magicLevel, c.progress.manaSpent⟩
  | .skill s => ⟨(c.skill s).level, (c.skill s).tries⟩

/-- The part of the summary that says where a track stands. -/
def standing (vocation : Vocation) (track : TrainedTrack) (f : Footing) : String :=
  "level " ++ toString f.level ++ " (with "
    ++ Decimal.twoPlaces (rawPercent f.count (track.require vocation (f.level + 1)))
    ++ "% progress towards level " ++ toString (f.level + 1) ++ ")"

end TrainedTrack

/-- Books tries gathered while logged out and tells a summary of them. -/
def addOfflineTries (rules : Rules) (rates : Rates σ) (c : Character) (track : Track)
    (tries : Nat) (s : σ) : Told (Booked σ) :=
  match TrainedTrack.ofTrack? track, rules.vocationOf? c with
  | some trained, some vocation =>
    let before := trained.footing c
    let require := trained.require vocation
    if tries = 0 || require (before.level + 1) ≤ require before.level then unchanged c s
    else do
      let booked ← match trained with
        | .magicLevel => addManaSpent rules rates c tries s
        | .skill skill => addSkillTries rules rates c skill tries s
      let after := trained.footing booked.character
      Told.tell (advanceLine
        ("Your " ++ trained.title ++ " skill changed from " ++ trained.standing vocation before
          ++ " to " ++ trained.standing vocation after))
      pure booked
  | _, _ => unchanged c s

/-- Whether a hand holds a shield. -/
def holdsShield (rules : Rules) (c : Character) (a : Arena) : Bool :=
  [Slot.left, .right].any fun slot =>
    ((c.equipment.get slot).bind (rules.resolve? a)).any fun held => held.2.isShield

/-- The character blocked a hit: while blocked hits train, one try for a shield that is held. -/
def onBlockHit (rules : Rules) (rates : Rates σ) (c : Character) (a : Arena) (s : σ) :
    Told (Booked σ) :=
  if c.combat.shieldBlockCount = 0 then unchanged c s
  else
    let c : Character :=
      { c with combat := { c.combat with shieldBlockCount := c.combat.shieldBlockCount - 1 } }
    if holdsShield rules c a then addSkillTries rules rates c .shield 1 s else unchanged c s

/-- The character's own attack was blocked: whether it earns a try, and what is left of the
window. -/
def onAttackBlocked (c : Character) (block : BlockType) : Character :=
  let p := c.combat
  let p := match block with
    | .none =>
      { p with
        addAttackSkillPoint := true
        bloodHitCount := trainingWindow
        shieldBlockCount := trainingWindow }
    | .defense | .armor =>
      if 0 < p.bloodHitCount then
        { p with addAttackSkillPoint := true, bloodHitCount := p.bloodHitCount - 1 }
      else { p with addAttackSkillPoint := false }
    | .immunity => { p with addAttackSkillPoint := false }
  { c with combat := p }

end Progress

end Adventurer
