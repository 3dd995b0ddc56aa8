import Adventurer.Proofs.Progress.Sheets
import Adventurer.Proofs.Runs

/-!
# Deeds

All that a character gains and loses progress by, one deed after the other, each under the rules and the
rates of its own tick.  Training leaves the level alone, and experience leaves the training alone.
-/

namespace Adventurer

namespace Progress

variable {σ : Type}

/-- What a character gains or loses progress by. -/
inductive Deed where
  | gainExperience (amount : Nat) (source : Option CreatureId) (announce : Bool)
  | loseExperience (amount : Nat) (announce : Bool)
  /-- Tries of a skill or spent mana. -/
  | train (track : TrainedTrack) (amount : Nat)
  /-- Tries gathered while logged out. -/
  | trainOffline (track : Track) (tries : Nat)
  | blockHit (arena : Arena)
  | die (killer : Option CreatureView)

/-- A deed with the rules and the rates of its tick. -/
structure Act (σ : Type) where
  rules : Rules
  rates : Rates σ
  deed : Deed

/-- A character with the state of the rates. -/
abbrev Career (σ : Type) := Character × σ

/-- What a deed makes of a character, and the levels that it gains or loses by it. -/
def Act.perform (a : Act σ) (x : Career σ) : Booked σ :=
  match a.deed with
  | .gainExperience amount source announce =>
    (addExperience a.rules a.rates x.1 amount source announce x.2).value
  | .loseExperience amount announce =>
    (removeExperience a.rules a.rates x.1 amount announce x.2).value
  | .train track amount => (addTries a.rules a.rates x.1 track amount x.2).value
  | .trainOffline track tries => (addOfflineTries a.rules a.rates x.1 track tries x.2).value
  | .blockHit arena => (onBlockHit a.rules a.rates x.1 arena x.2).value
  | .die killer =>
    let died := (Death.resolve a.rules a.rates x.1 killer x.2).value
    ⟨died.1, died.2.1, died.2.2.levelsLost⟩

/-- The career after one deed. -/
def step (x : Career σ) (a : Act σ) : Career σ := ((a.perform x).character, (a.perform x).rates)

/-- The career after some deeds. -/
def after (x : Career σ) (acts : List (Act σ)) : Career σ := acts.foldl step x

/-- Whether a deed is about experience: gained, lost or lost in a death. -/
def Deed.isWorldly : Deed → Bool
  | .gainExperience .. | .loseExperience .. | .die _ => true
  | .train .. | .trainOffline .. | .blockHit _ => false

/-- Rules that know knights and the vocation of fresh characters. -/
def knightRules : Rules where
  vocations := some fun id =>
    if id = ⟨4⟩ then some { id, name := "Knight", hpGain := 15, capGain := 2500 }
    else if id.isNone then some {} else none

/-- A knight at the last level that the table of fresh characters grants the gains of. -/
def knight : Character where
  id := ⟨1⟩
  name := "Veteran"
  vocation := ⟨4⟩
  health := .full 185
  mana := .full 40
  capacity := 47000
  baseSpeed := 234
  progress := { level := 8, experience := 4200 }

/-- The knight dies and gains back what the death took. -/
def fallAndRise : List (Act Unit) :=
  [⟨knightRules, .base, .die none⟩, ⟨knightRules, .base, .gainExperience 1000 none false⟩]

theorem alike_fallAndRise : ∀ a ∈ fallAndRise, knightRules.Alike a.rules := by
  simp [fallAndRise, Rules.Alike]

variable (a : Act σ) (x : Career σ)

/-- Training leaves the level and what comes with it alone. -/
theorem levelSheet_perform (h : a.deed.isWorldly = false) :
    (a.perform x).character.levelSheet = x.1.levelSheet := by
  obtain ⟨rules, rates, deed⟩ := a
  cases deed with
  | gainExperience => simp [Deed.isWorldly] at h
  | loseExperience => simp [Deed.isWorldly] at h
  | die => simp [Deed.isWorldly] at h
  | train track amount => exact levelSheet_addTries rfl
  | trainOffline track tries =>
    rcases character_addOfflineTries rules rates x.1 track tries x.2 with hc | ⟨trained, hc⟩
    · exact congrArg Character.levelSheet hc
    · exact levelSheet_addTries hc.symm
  | blockHit arena =>
    obtain ⟨c, hlevel, -, hc | hc⟩ := character_onBlockHit rules rates x.1 arena x.2
    · exact (congrArg Character.levelSheet hc).trans hlevel
    · exact (levelSheet_addTries hc.symm).trans hlevel

/-- No deed changes the vocation. -/
theorem vocation_perform : (a.perform x).character.vocation = x.1.vocation := by
  have hkeep (h : a.deed.isWorldly = false) : (a.perform x).character.vocation = x.1.vocation :=
    congrArg LevelSheet.vocation (levelSheet_perform a x h)
  obtain ⟨rules, rates, deed⟩ := a
  cases deed with
  | gainExperience amount source announce =>
    rcases cases_addExperience rfl with ⟨-, hc⟩ | ⟨-, hc, -⟩ | ⟨rated, -, hc, -⟩
    · exact congrArg Character.vocation hc
    · exact (congrArg Character.vocation hc).trans rfl
    · exact (congrArg Character.vocation hc).trans (Character.vocation_raised _ _ _)
  | loseExperience amount announce =>
    rcases cases_removeExperience rfl with ⟨-, hc⟩ | ⟨kept, -, hc, -⟩
    · exact congrArg Character.vocation hc
    · exact (congrArg Character.vocation hc).trans (Character.vocation_dropLevels _ _ _ _)
  | die killer =>
    rcases Death.cases_resolve _ _ _ _ _ rfl with
      ⟨-, hc, -, -⟩ | ⟨-, -, ⟨hc, -⟩ | ⟨kept, -, hc, -⟩⟩
    · exact congrArg LevelSheet.vocation hc
    · exact congrArg LevelSheet.vocation hc
    · refine (congrArg LevelSheet.vocation hc).trans ?_
      exact (Character.vocation_dropLevels _ _ _ _).trans (Death.vocation_paid _ _ _)
  | train track amount => exact hkeep rfl
  | trainOffline track tries => exact hkeep rfl
  | blockHit arena => exact hkeep rfl

end Progress

end Adventurer
