import Adventurer.Proofs.Progress.TrainingCoherence
import Mathlib.Algebra.GroupWithZero.Nat

/-!
# What a death takes can be regained

All that has been gathered on a track fixes where a walk from its lowest level comes to rest
(`Footing.train_gathered`).  A loss takes its amount off what has been gathered and leaves a footing that
rests as well, so booking the amount again leads back to where the walk was (`Footing.train_recede`,
`loss_regained`).  It does not for a character that is barred from the track, and not at the end of the
magic curve, where the last requirement goes round and is tiny.
-/

namespace Adventurer

open Progress

namespace Footing

variable {require : Nat → Nat} {floor : Nat} {f : Footing}

/-! ## What has been gathered -/

theorem gathered_eq_sum (f : Footing) :
    f.gathered require floor =
      ((List.range' (floor + 1) (f.level - floor)).map require).sum + f.count := by
  unfold gathered
  generalize (List.range' (floor + 1) (f.level - floor)).map require = requirements
  induction requirements with
  | nil => simp
  | cons r rest ih => rw [List.foldr_cons, ih, List.sum_cons, Nat.add_assoc]

/-- Nothing lies below the lowest level. -/
theorem gathered_floor (count : Nat) : (⟨floor, count⟩ : Footing).gathered require floor = count := by
  simp [gathered_eq_sum]

theorem gathered_count (level count : Nat) :
    (⟨level, count⟩ : Footing).gathered require floor =
      (⟨level, 0⟩ : Footing).gathered require floor + count := by
  simp only [gathered_eq_sum, Nat.add_zero]

/-- A level holds its requirement, gathered one level below. -/
theorem gathered_succ {level : Nat} (h : floor ≤ level) (count : Nat) :
    (⟨level + 1, count⟩ : Footing).gathered require floor =
      (⟨level, require (level + 1)⟩ : Footing).gathered require floor + count := by
  have hlength : level + 1 - floor = level - floor + 1 := by omega
  have hlast : floor + 1 + 1 * (level - floor) = level + 1 := by omega
  simp only [gathered_eq_sum, hlength, List.range'_concat, hlast, List.map_append, List.sum_append,
    List.map_singleton, List.sum_singleton]

/-- A loss takes its amount off what has been gathered, as far as there is any. -/
theorem gathered_recede (h : floor ≤ f.level) (lost : Nat) :
    (f.recede require floor lost).gathered require floor = f.gathered require floor - lost := by
  fun_induction recede require floor f lost with
  | case1 f lost enough =>
    have hf : f.gathered require floor =
        (⟨f.level, 0⟩ : Footing).gathered require floor + f.count := gathered_count f.level f.count
    rw [gathered_count, hf]
    omega
  | case2 f lost more low =>
    obtain rfl : f.level = floor := Nat.le_antisymm low h
    have hf : f.gathered require f.level = f.count := gathered_floor f.count
    rw [gathered_floor, hf]
    omega
  | case3 f lost more high ih =>
    have hlevel : f.level - 1 + 1 = f.level := by omega
    have hbelow : floor ≤ f.level - 1 := by omega
    have hf : f.gathered require floor =
        (⟨f.level - 1, require f.level⟩ : Footing).gathered require floor + f.count := by
      have hsucc := @gathered_succ require floor (f.level - 1) hbelow f.count
      rwa [hlevel] at hsucc
    rw [ih hbelow, hf]
    omega

/-! ## What has been gathered fixes the footing -/

theorem train_eq_arrive (level amount : Nat) :
    (⟨level, 0⟩ : Footing).train require amount = arrive require level amount := by
  unfold train resume arrive
  by_cases grows : require level < require (level + 1)
  · rw [dif_pos grows]
    split_ifs with none
    · rw [climb_eq, none, if_neg (by omega)]
    · exact advance_zero_eq_climb level amount grows
  · rw [dif_neg grows]
    simp only [if_neg grows, ite_self]

/-- Up to a level the amount is used up by the requirements, and the walk goes on with the rest. -/
theorem train_gathered_add {level : Nat} (hlevel : floor ≤ level)
    (hrise : Rising require floor level) (rest : Nat) :
    (⟨floor, 0⟩ : Footing).train require
        ((⟨level, 0⟩ : Footing).gathered require floor + rest) =
      (⟨level, 0⟩ : Footing).train require rest := by
  induction hlevel generalizing rest with
  | refl => rw [gathered_floor, Nat.zero_add]
  | @step level hlevel ih =>
    have grows : require level < require (level + 1) := hrise level hlevel (Nat.lt_succ_self level)
    have hbelow : Rising require floor level := fun l hlow hhigh =>
      hrise l hlow (Nat.lt_succ_of_lt hhigh)
    have hsum : (⟨level + 1, 0⟩ : Footing).gathered require floor + rest =
        (⟨level, 0⟩ : Footing).gathered require floor + (require (level + 1) + rest) := by
      rw [gathered_succ hlevel, gathered_count, Nat.add_zero, Nat.add_assoc]
    rw [hsum, ih hbelow, train_eq_arrive, train_eq_arrive, arrive, dif_pos grows, climb_eq,
      if_pos (Nat.le_add_right _ _), Nat.add_sub_cancel_left]

/-- A footing at rest is where all that has been gathered on it leads. -/
theorem train_gathered (hlevel : floor ≤ f.level) (hrise : Rising require floor f.level)
    (hrest : f.Rests require) :
    (⟨floor, 0⟩ : Footing).train require (f.gathered require floor) = f := by
  have hf : f.gathered require floor =
      (⟨f.level, 0⟩ : Footing).gathered require floor + f.count := gathered_count f.level f.count
  rw [hf, train_gathered_add hlevel hrise, train_eq_arrive, arrive]
  rcases hrest with ⟨grows, short⟩ | ⟨flat, none⟩
  · rw [dif_pos grows, climb_eq, if_neg (Nat.not_le.mpr short)]
  · rw [dif_neg (Nat.not_lt.mpr flat), ← none]

/-! ## Down and up again -/

theorem Rests.coherent (hrest : f.Rests require) (hlevel : floor ≤ f.level) :
    f.Coherent require floor f.level :=
  ⟨hlevel, Nat.le_refl _, hrest.imp And.right fun flat => ⟨rfl, flat.2⟩⟩

/-- A footing at rest is left at rest by a loss. -/
theorem rests_recede (hlevel : floor ≤ f.level) (hrise : Rising require floor f.level)
    (hrest : f.Rests require) (lost : Nat) : (f.recede require floor lost).Rests require := by
  have hcoherent := (hrest.coherent hlevel).recede hrise lost
  rcases Nat.lt_or_eq_of_le hcoherent.upper with below | top
  · refine .inl ⟨hrise _ hcoherent.lower below, hcoherent.short.resolve_right fun h => ?_⟩
    exact absurd h.1 (Nat.ne_of_lt below)
  · rcases hrest with ⟨grows, -⟩ | ⟨flat, none⟩
    · rw [← top] at grows
      refine .inl ⟨grows, hcoherent.short.elim id fun h => ?_⟩
      rw [h.2]
      exact Nat.lt_of_le_of_lt (Nat.zero_le _) grows
    · have hnone := count_recede_of_top (Nat.le_refl f.level) (fun _ => none) top
      rw [← top] at flat
      exact .inr ⟨flat, hnone⟩

/-- What a loss has taken leads back up to where it was taken. -/
theorem train_recede (hlevel : floor ≤ f.level) (hrise : Rising require floor f.level)
    (hrest : f.Rests require) (lost : Nat) :
    (f.recede require floor lost).train require (min lost (f.gathered require floor)) = f := by
  have hcoherent := (hrest.coherent hlevel).recede hrise lost
  have hrise' : Rising require floor (f.recede require floor lost).level := fun l hlow hhigh =>
    hrise l hlow (Nat.lt_of_lt_of_le hhigh hcoherent.upper)
  have hdown := train_gathered hcoherent.lower hrise' (rests_recede hlevel hrise hrest lost)
  have hwhole : (f.recede require floor lost).gathered require floor +
      min lost (f.gathered require floor) = f.gathered require floor := by
    rw [gathered_recede hlevel]
    omega
  calc (f.recede require floor lost).train require (min lost (f.gathered require floor))
      = (⟨floor, 0⟩ : Footing).train require
          ((f.recede require floor lost).gathered require floor +
            min lost (f.gathered require floor)) := by rw [← train_train, hdown]
    _ = (⟨floor, 0⟩ : Footing).train require (f.gathered require floor) := by rw [hwhole]
    _ = f := train_gathered hlevel hrise hrest

/-- At rest the percent is that of the next requirement, also where the curve is flat. -/
theorem Rests.percent_eq (hrest : f.Rests require) :
    f.percent require = percentOf f.count (require (f.level + 1)) := by
  unfold percent trackPercent
  rcases hrest with ⟨grows, -⟩ | ⟨flat, none⟩
  · rw [if_pos grows]
  · rw [if_neg (Nat.not_lt.mpr flat), none, percentOf_zero]

end Footing

/-! ## Tracks -/

namespace Death

/-- The character with the loss of one track booked, or of all skills if it is a skill. -/
def loseTrack (v : Vocation) (loss : Float) (c : Character) : TrainedTrack → Character
  | .magicLevel => loseMagic v loss c
  | .skill _ => loseSkills v loss c

variable {v : Vocation} {c : Character} {track : TrainedTrack} (loss : Float)

theorem lost_loseTrack : track.Lost v loss c (loseTrack v loss c track) := by
  cases track with
  | magicLevel => exact ⟨rfl, rfl⟩
  | skill k =>
    have hskill := @skill_loseSkills v loss c k
    unfold TrainedTrack.Lost loseTrack
    simp only [TrainedTrack.footing, TrainedTrack.shown, hskill]
    exact ⟨rfl, rfl⟩

theorem levelSheet_loseTrack : (loseTrack v loss c track).levelSheet = c.levelSheet := by
  cases track with
  | magicLevel => rfl
  | skill k => exact levelSheet_loseSkills c v loss

/-- Of a footing at rest a death shows the percent that training shows. -/
theorem percentAfterLoss_eq {f : Footing} (hrest : f.Rests (track.require v)) :
    track.percentAfterLoss v f = f.percent (track.require v) := by
  cases track with
  | magicLevel => rfl
  | skill k => exact hrest.percent_eq.symm

end Death

namespace Progress

variable {v : Vocation} {c : Character} {track : TrainedTrack}

/-- Booking at the rates as they are leads where the walk leads, with the percent of that place. -/
theorem footing_bookOn_base (require : Nat → Nat)
    (hshown : track.shown c = (track.footing c).percent require) (amount : Nat) :
    let booked := (bookOn .base require track c amount ()).value.character
    track.footing booked = (track.footing c).train require amount ∧
      track.shown booked = (track.footing booked).percent require := by
  by_cases none : amount = 0
  · simp only [none, value_bookOn_base_zero, Footing.train_zero]
    exact ⟨trivial, hshown⟩
  by_cases grows : require (track.footing c).level < require ((track.footing c).level + 1)
  · simp only [value_bookOn_base require track c amount grows none, TrainedTrack.footing_write,
      TrainedTrack.shown_write, and_self]
  · simp only [value_bookOn_base_of_flat require track c amount grows,
      Footing.train_of_ne_zero _ none, Footing.resume_of_flat grows]
    exact ⟨trivial, hshown⟩

/-- **What a death takes can be regained.**  Take a track at rest on a curve that grows up to its level,
with its percent up to date.  A death, whatever share it takes, takes exactly the amount it reckons off
all that has been gathered, as far as there is any.  Booking what was taken again, at the rates as they
are, leads back to the same level, count and percent, if no flag bars the track; with such a flag the
character stays as the death has left it. -/
theorem loss_regained (v : Vocation) (loss : Float) (c : Character) (track : TrainedTrack)
    (hlevel : track.floor ≤ (track.footing c).level)
    (hrise : Footing.Rising (track.require v) track.floor (track.footing c).level)
    (hrest : (track.footing c).Rests (track.require v))
    (hshown : track.shown c = (track.footing c).percent (track.require v)) :
    let whole := (track.footing c).gathered (track.require v) track.floor
    let lost := (track.footing c).lostCount (track.require v) track.floor loss
    let robbed := Death.loseTrack v loss c track
    (track.footing robbed).gathered (track.require v) track.floor = whole - min lost whole ∧
      ∀ rules : Rules, rules.vocationOf? c = some v →
        let regained := (addTries rules .base robbed track (min lost whole) ()).value.character
        (c.flags.has track.bar = false → track.Kept c regained) ∧
          (c.flags.has track.bar = true → regained = robbed) := by
  intro whole lost robbed
  obtain ⟨hfooting, hpercent⟩ : track.Lost v loss c robbed := Death.lost_loseTrack loss
  have hsheet : robbed.levelSheet = c.levelSheet := Death.levelSheet_loseTrack loss
  have hflags : robbed.flags = c.flags := congrArg LevelSheet.flags hsheet
  have hvocation : robbed.vocation = c.vocation := congrArg LevelSheet.vocation hsheet
  replace hfooting : track.footing robbed =
      (track.footing c).recede (track.require v) track.floor lost := hfooting
  have hrest' : (track.footing robbed).Rests (track.require v) := by
    rw [hfooting]
    exact Footing.rests_recede hlevel hrise hrest lost
  refine ⟨?_, fun rules hv => ⟨fun free => ?_, fun barred => ?_⟩⟩
  · rw [hfooting, Footing.gathered_recede hlevel]
    omega
  · have hv' : rules.vocationOf? robbed = some v := (congrArg rules.vocation? hvocation).trans hv
    rw [← hflags] at free
    rw [addTries_of_some (by simp [free]) hv']
    have hbooked := footing_bookOn_base (track.require v)
      (hpercent.trans (Death.percentAfterLoss_eq hrest')) (min lost whole)
    obtain ⟨hwalk, hfresh⟩ := hbooked
    have hback : (track.footing robbed).train (track.require v) (min lost whole) =
        track.footing c := by
      rw [hfooting]
      exact Footing.train_recede hlevel hrise hrest lost
    rw [hback] at hwalk
    rw [hwalk, ← hshown] at hfresh
    exact ⟨hwalk, hfresh⟩
  · rw [← hflags] at barred
    rw [addTries_eq, if_pos barred]
    rfl

/-! ## The last level of the sword -/

/-- A knight at the last level of the sword, with nothing gathered there. -/
def swordMaster : Character := TrainedTrack.write knight (.skill .sword) ⟨12, 0⟩ 0.0

/-- A death that takes three quarters costs two levels of the sword, and they are regained. -/
theorem loss_regained_swordMaster :
    (TrainedTrack.skill .sword).footing (Death.loseTrack shortLearner 0.75 swordMaster (.skill .sword)) =
        ⟨10, 38⟩ ∧
      (TrainedTrack.skill .sword).Kept swordMaster
        (addTries schoolRules .base (Death.loseTrack shortLearner 0.75 swordMaster (.skill .sword))
          (.skill .sword) 112 ()).value.character := by
  refine ⟨by decide +kernel, ?_⟩
  have hlevel : (TrainedTrack.skill .sword).floor ≤
      ((TrainedTrack.skill .sword).footing swordMaster).level := by decide
  have hrest : ((TrainedTrack.skill .sword).footing swordMaster).Rests
      ((TrainedTrack.skill .sword).require shortLearner) := .inr ⟨by decide +kernel, by decide⟩
  have hshown : (TrainedTrack.skill .sword).shown swordMaster =
      ((TrainedTrack.skill .sword).footing swordMaster).percent
        ((TrainedTrack.skill .sword).require shortLearner) := by decide +kernel
  have hlost : min (((TrainedTrack.skill .sword).footing swordMaster).lostCount
        ((TrainedTrack.skill .sword).require shortLearner) (TrainedTrack.skill .sword).floor 0.75)
      (((TrainedTrack.skill .sword).footing swordMaster).gathered
        ((TrainedTrack.skill .sword).require shortLearner) (TrainedTrack.skill .sword).floor) = 112 := by
    decide +kernel
  have hback := ((loss_regained shortLearner 0.75 swordMaster (.skill .sword) hlevel
    (rises_shortLearner (.skill .sword)) hrest hshown).2 schoolRules rfl).1 (by decide)
  rw [hlost] at hback
  exact hback

/-! ## Where it is not regained -/

/-- The same knight, barred from gaining skill. -/
def barredMaster : Character := { swordMaster with flags := ⟨2 ^ Flag.notGainSkill.bit⟩ }

/-- A learner of magic at level 28, where the next requirement would not fit sixty-four bits. -/
def archmage : Character := TrainedTrack.write knight .magicLevel ⟨28, 3⟩ 0.0

def archmageRules : Rules := { vocations := some fun _ => some {} }

theorem rising_archmage :
    Footing.Rising (TrainedTrack.magicLevel.require {}) 0 (TrainedTrack.magicLevel.footing archmage).level := by
  have hrise : ∀ l < 28, TrainedTrack.magicLevel.require {} l < TrainedTrack.magicLevel.require {} (l + 1) := by
    decide +kernel
  exact fun l _ hl => hrise l hl

/-- The barred knight meets every condition of a track at rest, and gets nothing of its loss back.  Nor is
it all regained on the way to a requirement that has gone round: the archmage has spent three of four, and
as a walk that arrives where the curve stops growing ends with nothing, so does the regain. -/
theorem loss_not_regained :
    (let track := TrainedTrack.skill .sword
      let robbed := Death.loseTrack shortLearner 0.75 barredMaster track
      track.floor ≤ (track.footing barredMaster).level ∧
        Footing.Rising (track.require shortLearner) track.floor (track.footing barredMaster).level ∧
        (track.footing barredMaster).Rests (track.require shortLearner) ∧
        track.shown barredMaster = (track.footing barredMaster).percent (track.require shortLearner) ∧
        min ((track.footing barredMaster).lostCount (track.require shortLearner) track.floor 0.75)
          ((track.footing barredMaster).gathered (track.require shortLearner) track.floor) = 112 ∧
        ¬ track.Kept barredMaster (addTries schoolRules .base robbed track 112 ()).value.character) ∧
    (let track := TrainedTrack.magicLevel
      let robbed := Death.loseTrack {} 0.5 archmage track
      let lost := (track.footing archmage).lostCount (track.require {}) track.floor 0.5
      Footing.Rising (track.require {}) track.floor (track.footing archmage).level ∧
        track.require {} 29 = 4 ∧ track.footing archmage = ⟨28, 3⟩ ∧
        track.shown archmage = (track.footing archmage).percent (track.require {}) ∧
        lost ≤ (track.footing archmage).gathered (track.require {}) track.floor ∧
        (track.footing archmage).gathered (track.require {}) track.floor ≤ max64 ∧
        track.footing (addTries archmageRules .base robbed track lost ()).value.character = ⟨28, 0⟩) := by
  refine ⟨⟨by decide, rises_shortLearner (.skill .sword), .inr ⟨by decide +kernel, by decide⟩,
    by decide +kernel, by decide +kernel, fun hkept => ?_⟩, rising_archmage, ?_⟩
  · exact absurd hkept.1 (by decide +kernel)
  · decide +kernel

end Progress

end Adventurer
