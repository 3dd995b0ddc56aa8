import Adventurer.Proofs.Progress.Curve
import Adventurer.Proofs.Progress.Pieces

/-!
# Walks over levels in counters of fixed width

A gain of experience climbs the levels that it reaches, and a loss gives back those that it no longer covers.
Both are loops over a level of thirty-two bits here, watched round by round, with every step checked, those
of the curve included.  As the curve grows only below its last level and below the level where it is full, a
climb ends there at the latest, far from the largest level; both loops end where `ascendAll` and `descendAll`
do, whatever the experience (`experience_curve_sound`).
-/

namespace Adventurer

/-! ## Loops watched for a while -/

/-- What is seen of a loop that is watched for a number of rounds. -/
inductive Watched (β : Type) where
  /-- More rounds are to come. -/
  | underway
  /-- A counter has left its width. -/
  | overflow
  | left (result : β)

/-- Watches a loop.  Unless a counter leaves its width, a round goes on to the next one or leaves the loop. -/
def watch {α β : Type} (round? : α → Option (α ⊕ β)) : (rounds : Nat) → α → Watched β
  | 0, _ => .underway
  | rounds + 1, a =>
    match round? a with
    | none => .overflow
    | some (.inl next) => watch round? rounds next
    | some (.inr result) => .left result

section Watch

variable {α β : Type} {round? : α → Option (α ⊕ β)} {a next : α} {result : β} {rounds : Nat}

theorem watch_of_inl (h : round? a = some (.inl next)) :
    watch round? (rounds + 1) a = watch round? rounds next := by
  rw [watch, h]

theorem watch_of_inr (h : round? a = some (.inr result)) (hrounds : 0 < rounds) :
    watch round? rounds a = .left result := by
  obtain ⟨n, rfl⟩ := Nat.exists_eq_add_one_of_ne_zero hrounds.ne'
  rw [watch, h]

end Watch

namespace Curve

/-- The experience that the level above asks for, reckoned in counters of fixed width. -/
def nextWithin? (level last : Nat) : Option Nat := do
  let above ← addWithin? max32 level 1
  experienceWithin? above last

theorem nextWithin?_eq {level last : Nat} (hlast : last ≤ max32) (hlevel : level + 1 ≤ max32) :
    nextWithin? level last = some (experienceFor (level + 1) last) := by
  have hgained : min (level + 1) last - 1 ≤ max32 := by omega
  rw [nextWithin?, addWithin?_of_le hlevel, Option.bind_eq_bind, Option.bind_some,
    experienceWithin?_eq hgained]

end Curve

/-- A walk over levels between two rounds: the character and the experience it is compared with next, that of
the level above on the way up and that of its own level on the way down. -/
structure LevelWalk where
  character : Character
  asked : Nat

namespace LevelWalk

open Character Curve

section Rounds

variable (rules : Rules) (vocation : Option Vocation)

/-- One round up. -/
def up? (w : LevelWalk) : Option (LevelWalk ⊕ Character) :=
  if w.asked ≤ w.character.progress.experience then do
    let level ← addWithin? max32 w.character.level 1
    let c := (w.character.withLevel level).gain (LevelGains.at_ rules vocation level true)
    let next ← nextWithin? level rules.config.maxLevel
    return if next ≤ w.asked then .inr c else .inl ⟨c, next⟩
  else return .inr w.character

/-- One round down. -/
def down? (starter : Bool) (w : LevelWalk) : Option (LevelWalk ⊕ Character) :=
  if 1 < w.character.level ∧ w.character.progress.experience < w.asked then do
    let level ← takeWithin? w.character.level 1
    let c := (w.character.withLevel level).ungain (LevelGains.at_ rules vocation level starter)
    let current ← experienceWithin? level rules.config.maxLevel
    return .inl ⟨c, current⟩
  else return .inr w.character

/-- The climb of a character, watched for a number of rounds. -/
def climb (c : Character) (rounds : Nat) : Watched Character :=
  (nextWithin? c.level rules.config.maxLevel).elim .overflow
    fun asked => watch (up? rules vocation) rounds ⟨c, asked⟩

/-- The descent of a character, watched for a number of rounds. -/
def descend (starter : Bool) (c : Character) (rounds : Nat) : Watched Character :=
  (experienceWithin? c.level rules.config.maxLevel).elim .overflow
    fun asked => watch (down? rules vocation starter) rounds ⟨c, asked⟩

end Rounds

variable {rules : Rules} {vocation : Option Vocation} {c : Character} {starter : Bool} {rounds : Nat}

/-! ## The way up -/

/-- Where the curve grows, the next two levels are within the width. -/
theorem room_of_grows (grows : threshold rules c.level < threshold rules (c.level + 1)) :
    c.level + 2 ≤ max32 := by
  have hfull : c.level < fullLevel := lt_fullLevel grows
  simp only [fullLevel, max32] at hfull ⊢
  omega

theorem up?_of_reached (hlast : rules.config.maxLevel ≤ max32)
    (grows : threshold rules c.level < threshold rules (c.level + 1))
    (reached : threshold rules (c.level + 1) ≤ c.progress.experience) :
    up? rules vocation ⟨c, threshold rules (c.level + 1)⟩ =
      some (if threshold rules (c.level + 2) ≤ threshold rules (c.level + 1)
        then .inr (c.ascend rules vocation)
        else .inl ⟨c.ascend rules vocation, threshold rules (c.level + 2)⟩) := by
  have hroom := room_of_grows grows
  have hlevel : c.level + 1 ≤ max32 := by omega
  rw [up?, if_pos reached]
  simp only [addWithin?_of_le hlevel, nextWithin?_eq hlast hroom, Option.bind_eq_bind, Option.bind_some]
  rfl

theorem up?_of_short (short : ¬ threshold rules (c.level + 1) ≤ c.progress.experience) :
    up? rules vocation ⟨c, threshold rules (c.level + 1)⟩ = some (.inr c) := if_neg short

/-- A climb does not pass the last level nor the one where the curve is full. -/
theorem level_ascendAll_le (grows : threshold rules c.level < threshold rules (c.level + 1)) :
    (c.ascendAll rules vocation).level ≤ min rules.config.maxLevel fullLevel := by
  have hend {c : Character} (grows : threshold rules c.level < threshold rules (c.level + 1)) :
      c.level < min rules.config.maxLevel fullLevel :=
    Nat.lt_min.mpr ⟨lt_of_experienceFor_lt grows, lt_fullLevel grows⟩
  fun_induction ascendAll c rules vocation with
  | case1 c reached up next ih => exact ih next
  | case2 c reached up flat => exact hend grows
  | case3 c short => exact (hend grows).le

/-- The loop up ends where the climb does.  The induction is on the climb: each level it gains is a round. -/
theorem watch_up? (hlast : rules.config.maxLevel ≤ max32)
    (grows : threshold rules c.level < threshold rules (c.level + 1)) :
    ∀ rounds, (c.ascendAll rules vocation).level < c.level + rounds →
      watch (up? rules vocation) rounds ⟨c, threshold rules (c.level + 1)⟩ =
        .left (c.ascendAll rules vocation) := by
  fun_induction ascendAll c rules vocation with
  | case1 c reached up next ih =>
    intro rounds hrounds
    have hup : c.level + 1 ≤ (up.ascendAll rules vocation).level := le_level_ascendAll up rules vocation
    obtain ⟨n, rfl⟩ : ∃ n, rounds = n + 1 := ⟨rounds - 1, by omega⟩
    have hleft : (up.ascendAll rules vocation).level < c.level + 1 + n := by omega
    have grown : ¬ threshold rules (c.level + 2) ≤ threshold rules (c.level + 1) := Nat.not_le.mpr next
    have hround : up? rules vocation ⟨c, threshold rules (c.level + 1)⟩ =
        some (.inl ⟨up, threshold rules (c.level + 2)⟩) := by
      rw [up?_of_reached hlast grows reached, if_neg grown]
    rw [watch_of_inl hround]
    exact ih next n hleft
  | case2 c reached up flat =>
    intro rounds hrounds
    have full : threshold rules (c.level + 2) ≤ threshold rules (c.level + 1) := Nat.le_of_not_lt flat
    have hround : up? rules vocation ⟨c, threshold rules (c.level + 1)⟩ = some (.inr up) := by
      rw [up?_of_reached hlast grows reached, if_pos full]
    have hup : c.level ≤ up.level := Nat.le_succ c.level
    exact watch_of_inr hround (by omega)
  | case3 c short =>
    intro rounds hrounds
    exact watch_of_inr (up?_of_short short) (by omega)

theorem climb_eq (hlast : rules.config.maxLevel ≤ max32)
    (grows : threshold rules c.level < threshold rules (c.level + 1))
    (hrounds : (c.ascendAll rules vocation).level < c.level + rounds) :
    climb rules vocation c rounds = .left (c.ascendAll rules vocation) := by
  have hroom := room_of_grows grows
  have hlevel : c.level + 1 ≤ max32 := by omega
  rw [climb, nextWithin?_eq hlast hlevel]
  exact watch_up? hlast grows rounds hrounds

/-! ## The way down -/

theorem experienceWithin?_eq_threshold (hlast : rules.config.maxLevel ≤ max32) (level : Nat) :
    experienceWithin? level rules.config.maxLevel = some (threshold rules level) := by
  have hgained : min level rules.config.maxLevel - 1 ≤ max32 := by omega
  exact experienceWithin?_eq hgained

theorem down?_of_high (hlast : rules.config.maxLevel ≤ max32)
    (high : 1 < c.level ∧ c.progress.experience < threshold rules c.level) :
    down? rules vocation starter ⟨c, threshold rules c.level⟩ =
      some (.inl ⟨c.descend rules vocation starter, threshold rules (c.level - 1)⟩) := by
  rw [down?, if_pos high]
  simp only [takeWithin?_of_le high.1.le, experienceWithin?_eq_threshold hlast, Option.bind_eq_bind,
    Option.bind_some]
  rfl

theorem down?_of_low (low : ¬ (1 < c.level ∧ c.progress.experience < threshold rules c.level)) :
    down? rules vocation starter ⟨c, threshold rules c.level⟩ = some (.inr c) := if_neg low

/-- The loop down ends where the descent does, with a round for each level lost and one more. -/
theorem watch_down? (hlast : rules.config.maxLevel ≤ max32) :
    ∀ rounds, c.level < (c.descendAll rules vocation starter).level + rounds →
      watch (down? rules vocation starter) rounds ⟨c, threshold rules c.level⟩ =
        .left (c.descendAll rules vocation starter) := by
  fun_induction descendAll c rules vocation starter with
  | case1 c high ih =>
    intro rounds hrounds
    have hdown : ((c.descend rules vocation starter).descendAll rules vocation starter).level ≤ c.level - 1 :=
      level_descendAll_le (c.descend rules vocation starter) rules vocation starter
    have hlevel : 1 < c.level := high.1
    obtain ⟨n, rfl⟩ : ∃ n, rounds = n + 1 := ⟨rounds - 1, by omega⟩
    have hleft : c.level - 1 <
        ((c.descend rules vocation starter).descendAll rules vocation starter).level + n := by omega
    rw [watch_of_inl (down?_of_high hlast high)]
    exact ih n hleft
  | case2 c low =>
    intro rounds hrounds
    exact watch_of_inr (down?_of_low low) (by omega)

theorem descend_eq (hlast : rules.config.maxLevel ≤ max32)
    (hrounds : c.level < (c.descendAll rules vocation starter).level + rounds) :
    descend rules vocation starter c rounds = .left (c.descendAll rules vocation starter) := by
  rw [descend, experienceWithin?_eq_threshold hlast]
  exact watch_down? hlast rounds hrounds

end LevelWalk

/-! ## The curve and its walks -/

open Character Curve

/-- **The experience curve is sound.**  Whatever level of thirty-two bits it ends at: at every level its
numerator stays within a hundred and twenty-eight bits, is never taken from less and is a multiple of three;
the curve grows at each level whose next one asks for what sixty-four bits hold, is flat from the last level
on and stays full once it is full.  So a climb, which begins where the curve grows, ends at the last level or
where the curve is full at the latest, and the loops up and down end with the rounds that their levels take,
from any level and with any experience, and no counter has left its width. -/
theorem experience_curve_sound (rules : Rules) (hlast : rules.config.maxLevel ≤ max32) :
    (∀ level, ∃ n, numerator? (min level rules.config.maxLevel - 1) = some (3 * n) ∧
      threshold rules level = min max64 n) ∧
    (∀ level n, 1 ≤ level → level < rules.config.maxLevel →
      numerator? (min (level + 1) rules.config.maxLevel - 1) = some (3 * n) → n ≤ max64 →
      threshold rules level < threshold rules (level + 1)) ∧
    (∀ level, rules.config.maxLevel ≤ level →
      threshold rules level = threshold rules rules.config.maxLevel) ∧
    (∀ level higher, threshold rules level = max64 → level ≤ higher → threshold rules higher = max64) ∧
    (∀ vocation c, threshold rules c.level < threshold rules (c.level + 1) →
      (c.ascendAll rules vocation).level ≤ min rules.config.maxLevel fullLevel ∧
      ∀ rounds, (c.ascendAll rules vocation).level < c.level + rounds →
        LevelWalk.climb rules vocation c rounds = .left (c.ascendAll rules vocation)) ∧
    ∀ vocation starter c rounds, c.level < (c.descendAll rules vocation starter).level + rounds →
      LevelWalk.descend rules vocation starter c rounds = .left (c.descendAll rules vocation starter) := by
  have hnumerator (level : Nat) : numerator? (min level rules.config.maxLevel - 1) =
      some (3 * ideal (min level rules.config.maxLevel - 1)) := numerator?_eq (by omega)
  refine ⟨fun level => ⟨_, hnumerator level, experienceFor_eq_ideal _ _⟩, ?_,
    fun level hflat => experienceFor_of_le hflat, fun level higher => experienceFor_of_full, ?_, ?_⟩
  · intro level n hlevel hlt hn hfits
    have hideal : n = ideal level := by
      rw [hnumerator, Nat.min_eq_left hlt, Nat.succ_sub_one, Option.some.injEq] at hn
      omega
    have hless : ideal (level - 1) < ideal level := ideal_strictMono (by omega)
    exact experienceFor_lt_succ_iff.mpr ⟨hlevel, hlt, by omega⟩
  · intro vocation c grows
    exact ⟨LevelWalk.level_ascendAll_le grows, fun rounds => LevelWalk.climb_eq hlast grows⟩
  · intro vocation starter c rounds
    exact LevelWalk.descend_eq hlast

/-- Rules with as many levels as a counter of thirty-two bits holds. -/
def endlessRules : Rules := { config := { maxLevel := max32 } }

/-- A character with the largest experience, one level short of where the curve is full. -/
def titan : Character :=
  { id := ⟨1⟩, name := "Titan", progress := { level := 1034406, experience := max64 } }

/-- The curve grows once more, to its full height, and the climb ends there. -/
theorem experience_curve_sound_titan :
    endlessRules.config.maxLevel ≤ max32 ∧
      threshold endlessRules titan.level < threshold endlessRules (titan.level + 1) ∧
      (titan.ascendAll endlessRules none).level = fullLevel ∧
      ∀ rounds, 1 < rounds →
        LevelWalk.climb endlessRules none titan rounds = .left (titan.ascendAll endlessRules none) := by
  have hlast : endlessRules.config.maxLevel ≤ max32 := Nat.le_refl _
  have grows : threshold endlessRules titan.level < threshold endlessRules (titan.level + 1) := by decide
  have reached : threshold endlessRules (titan.level + 1) ≤ titan.progress.experience := by decide
  have full : ¬ threshold endlessRules (titan.level + 1) < threshold endlessRules (titan.level + 2) := by
    decide
  have hlevel : (titan.ascendAll endlessRules none).level = fullLevel := by
    rw [ascendAll_eq, if_pos reached, if_neg full]
    rfl
  obtain ⟨-, -, -, -, hclimb, -⟩ := experience_curve_sound endlessRules hlast
  refine ⟨hlast, grows, hlevel, fun rounds hrounds => (hclimb none titan grows).2 rounds ?_⟩
  rw [hlevel]
  show 1034407 < 1034406 + rounds
  omega

end Adventurer
