import Adventurer.Proofs.Progress.LevelCoherence
import Mathlib.Algebra.BigOperators.Intervals
import Mathlib.Tactic.LinearCombination

/-!
# What levels lost and gained back leave of the reserves

Each level up grants some health, mana and capacity, and each level down takes some.  A climb grants by the
table of fresh characters up to the last starter level.  A removal of experience takes what is granted at
the levels arrived at, and a death takes what the vocation itself grants.  So a run that ends at the level
where it began need not end with the same maxima: `reserves_return` says what is left over.
-/

namespace Adventurer

open Character LevelGains

variable {σ : Type}

/-- What a character has more of with each level: the maximum of a meter or the capacity. -/
inductive Reserve where
  | health
  | mana
  | capacity
  deriving DecidableEq, Repr

namespace Reserve

def of (c : Character) : Reserve → Nat
  | .health => c.health.maximum
  | .mana => c.mana.maximum
  | .capacity => c.capacity

def gain (g : LevelGains) : Reserve → Nat
  | .health => g.health
  | .mana => g.mana
  | .capacity => g.capacity

section Grants

variable (r : Reserve) (rules : Rules) (vocation : Option Vocation)

/-- What is booked of a reserve at a level. -/
def booked (starter : Bool) (level : Nat) : Nat := r.gain (at_ rules vocation level starter)

/-- What each of the starter levels grants. -/
def early : Nat := r.booked rules vocation true lastStarterLevel

/-- What each level past the starter levels grants, and what each level lost at a death takes. -/
def own : Nat := r.booked rules vocation false lastStarterLevel

/-- All that the levels up to one grant, counted from zero. -/
def granted (level : Nat) : Nat :=
  r.early rules vocation * min level lastStarterLevel +
    r.own rules vocation * (level - lastStarterLevel)

theorem booked_true (level : Nat) :
    r.booked rules vocation true level =
      if level ≤ lastStarterLevel then r.early rules vocation else r.own rules vocation := by
  cases vocation with
  | none => simp [early, own, booked, at_]
  | some v => by_cases h : level ≤ lastStarterLevel <;> simp [early, own, booked, at_, h]

theorem booked_false (level : Nat) :
    r.booked rules vocation false level = r.own rules vocation := by
  cases vocation <;> rfl

theorem granted_succ (level : Nat) :
    r.granted rules vocation (level + 1) =
      r.granted rules vocation level + r.booked rules vocation true (level + 1) := by
  rw [booked_true, granted, granted]
  split_ifs with h
  · have hmin : min (level + 1) lastStarterLevel = min level lastStarterLevel + 1 := by omega
    have hpast : level + 1 - lastStarterLevel = level - lastStarterLevel := by omega
    rw [hmin, hpast, Nat.mul_succ]
    omega
  · have hmin : min (level + 1) lastStarterLevel = min level lastStarterLevel := by omega
    have hpast : level + 1 - lastStarterLevel = level - lastStarterLevel + 1 := by omega
    rw [hmin, hpast, Nat.mul_succ]
    omega

theorem granted_mono {low high : Nat} (h : low ≤ high) :
    r.granted rules vocation low ≤ r.granted rules vocation high := by
  induction high, h using Nat.le_induction with
  | base => exact Nat.le_refl _
  | succ high _ ih =>
    rw [granted_succ]
    omega

/-- The levels after `low` up to `high` grant what is granted up to `high` and not up to `low`. -/
theorem granted_add_sum {low high : Nat} (h : low ≤ high) :
    r.granted rules vocation low + ∑ j ∈ Finset.Ioc low high, r.booked rules vocation true j =
      r.granted rules vocation high := by
  induction high, h using Nat.le_induction with
  | base => simp
  | succ high hle ih =>
    rw [Finset.sum_Ioc_succ_top hle, granted_succ, ← ih]
    omega

/-- A removal down to `low` takes what is booked at the levels arrived at, and not at those left. -/
theorem granted_add_taken {low high : Nat} (h : low ≤ high) :
    r.granted rules vocation low + ∑ j ∈ Finset.Ico low high, r.booked rules vocation true j +
        r.booked rules vocation true high =
      r.granted rules vocation high + r.booked rules vocation true low := by
  induction high, h using Nat.le_induction with
  | base => simp
  | succ high hle ih =>
    rw [Finset.sum_Ico_succ_top hle, granted_succ]
    omega

end Grants

/-! ## Walks -/

section Walks

variable (r : Reserve) (rules : Rules) (vocation : Option Vocation)

theorem of_ascend (c : Character) :
    r.of (c.ascend rules vocation) =
      addUpTo max32 (r.of c) (r.booked rules vocation true (c.level + 1)) := by
  cases r <;> rfl

theorem of_descend (c : Character) (starter : Bool) :
    r.of (c.descend rules vocation starter) =
      r.of c - r.booked rules vocation starter (c.level - 1) := by
  cases r <;> rfl

/-- A climb that stays within bounds adds what its levels grant. -/
theorem of_ascendAll {c : Character}
    (h : r.of c + r.granted rules vocation (c.ascendAll rules vocation).level ≤
      max32 + r.granted rules vocation c.level) :
    r.of (c.ascendAll rules vocation) + r.granted rules vocation c.level =
      r.of c + r.granted rules vocation (c.ascendAll rules vocation).level := by
  fun_induction ascendAll c rules vocation with
  | case1 c reached up grows ih =>
    have hup : up.level = c.level + 1 := rfl
    have hrest := granted_mono r rules vocation (le_level_ascendAll up rules vocation)
    have hof : r.of up = addUpTo max32 (r.of c) (r.booked rules vocation true (c.level + 1)) :=
      of_ascend r rules vocation c
    rw [hup, granted_succ] at ih hrest
    rw [addUpTo_of_le (by omega)] at hof
    have := ih (by omega)
    omega
  | case2 c reached up flat =>
    have hup : up.level = c.level + 1 := rfl
    have hof : r.of up = addUpTo max32 (r.of c) (r.booked rules vocation true (c.level + 1)) :=
      of_ascend r rules vocation c
    rw [hup, granted_succ] at h ⊢
    rw [addUpTo_of_le (by omega)] at hof
    omega
  | case3 c short => rfl

/-- A descent takes what is booked at the levels arrived at. -/
theorem of_descendAll (c : Character) (starter : Bool) :
    r.of (c.descendAll rules vocation starter) =
      r.of c - ∑ j ∈ Finset.Ico (c.descendAll rules vocation starter).level c.level,
        r.booked rules vocation starter j := by
  fun_induction descendAll c rules vocation starter with
  | case1 c high ih =>
    have hle := level_descendAll_le (c.descend rules vocation starter) rules vocation starter
    rw [level_descend] at ih hle
    have hlevel : c.level = c.level - 1 + 1 := by omega
    rw [ih, of_descend, hlevel, Finset.sum_Ico_succ_top hle]
    simp only [Nat.add_sub_cancel]
    omega
  | case2 c low => simp

end Walks

/-! ## Balances -/

section Balances

variable {r : Reserve} {rules rules' : Rules} {vocation : Option Vocation} {c d e : Character}

/-- The speed and the percent are no part of a reserve. -/
theorem of_congr {speed : Nat} {percent : Float}
    (h : d.levelSheet = { c.levelSheet with speed, percent }) : r.of d = r.of c := by
  cases r with
  | health => exact congrArg LevelSheet.health h
  | mana => exact congrArg LevelSheet.mana h
  | capacity => exact congrArg LevelSheet.capacity h

theorem of_raised (c : Character) (rules : Rules) (experience : Nat) :
    r.of (c.raised rules experience) = r.of (c.climbed rules experience) := by
  obtain ⟨_, _, h⟩ := levelSheet_raised c rules experience
  exact of_congr h

theorem of_dropLevels (c : Character) (rules : Rules) (vocation : Option Vocation) (starter : Bool) :
    r.of (c.dropLevels rules vocation starter) = r.of (c.descendAll rules vocation starter) := by
  obtain ⟨_, _, h⟩ := levelSheet_dropLevels c rules vocation starter
  exact of_congr h

/-- From one character to another a reserve has changed by what the levels between them grant, but for
`lost` levels given back at the vocation's own rate instead of the early one, and `crossed` the other
way round. -/
def Balance (r : Reserve) (rules : Rules) (vocation : Option Vocation) (c d : Character)
    (lost crossed : Nat) : Prop :=
  r.of d + r.granted rules vocation c.level + r.own rules vocation * lost +
      r.early rules vocation * crossed =
    r.of c + r.granted rules vocation d.level + r.early rules vocation * lost +
      r.own rules vocation * crossed

namespace Balance

theorem of_eq (hof : r.of d = r.of c) (hlevel : d.level = c.level) :
    r.Balance rules vocation c d 0 0 := by
  unfold Balance
  rw [hof, hlevel]
  omega

/-- A balance is about the reserve and the level only. -/
theorem congr {c' d' : Character} {lost crossed : Nat}
    (h : r.Balance rules vocation c' d' lost crossed) (hc : r.of c' = r.of c)
    (hclevel : c'.level = c.level) (hd : r.of d = r.of d') (hdlevel : d.level = d'.level) :
    r.Balance rules vocation c d lost crossed := by
  unfold Balance at h ⊢
  rw [hd, hdlevel, ← hc, ← hclevel]
  exact h

theorem trans {lost lost' crossed crossed' : Nat} (h : r.Balance rules vocation c d lost crossed)
    (h' : r.Balance rules vocation d e lost' crossed') :
    r.Balance rules vocation c e (lost + lost') (crossed + crossed') := by
  unfold Balance at h h' ⊢
  simp only [Nat.mul_add]
  omega

theorem alike {lost crossed : Nat} (ha : rules.Alike rules')
    (h : r.Balance rules vocation c d lost crossed) : r.Balance rules' vocation c d lost crossed := by
  have hbooked : r.booked rules = r.booked rules' := by
    funext vocation starter level
    rw [booked, booked, ha.at_eq]
  simpa only [Balance, granted, early, own, hbooked] using h

/-- More experience adds what its levels grant. -/
theorem raised (experience : Nat)
    (h : r.of c + ∑ j ∈ Finset.Ioc c.level (c.raised rules experience).level,
      r.booked rules (rules.vocationOf? c) true j ≤ max32) :
    r.Balance rules (rules.vocationOf? c) c (c.raised rules experience) 0 0 := by
  have hsum := granted_add_sum r rules (rules.vocationOf? c) (le_level_climbed c rules experience)
  rw [level_raised] at h
  have hclimb : r.of (c.climbed rules experience) + r.granted rules (rules.vocationOf? c) c.level =
      r.of c + r.granted rules (rules.vocationOf? c) (c.climbed rules experience).level := by
    refine @of_ascendAll r rules _ (c.withExperience experience) ?_
    show r.of c + r.granted rules (rules.vocationOf? c) (c.climbed rules experience).level ≤
      max32 + r.granted rules (rules.vocationOf? c) c.level
    omega
  unfold Balance
  rw [of_raised, level_raised]
  omega

/-- A removal takes what is booked at the levels arrived at; if it crosses the end of the starter levels,
that is the early amount once where a climb has granted the vocation's own. -/
theorem removed
    (h : ∑ j ∈ Finset.Ico (c.dropLevels rules vocation true).level c.level,
      r.booked rules vocation true j ≤ r.of c) :
    r.Balance rules vocation c (c.dropLevels rules vocation true) 0
      (if (c.dropLevels rules vocation true).level ≤ lastStarterLevel ∧ lastStarterLevel < c.level
        then 1 else 0) := by
  have hle := level_dropLevels_le c rules vocation true
  have hsum := granted_add_taken r rules vocation hle
  have hof := of_descendAll r rules vocation c true
  rw [← of_dropLevels, ← level_dropLevels] at hof
  unfold Balance
  generalize c.dropLevels rules vocation true = d at *
  rw [booked_true, booked_true] at hsum
  split_ifs with hcross <;> split_ifs at hsum <;> omega

/-- A death takes the vocation's own amount for every level. -/
theorem died
    (h : ∑ j ∈ Finset.Ico (c.dropLevels rules vocation false).level c.level,
      r.booked rules vocation false j ≤ r.of c) :
    r.Balance rules vocation c (c.dropLevels rules vocation false)
      (min c.level lastStarterLevel - min (c.dropLevels rules vocation false).level lastStarterLevel)
      0 := by
  have hle := level_dropLevels_le c rules vocation false
  have hof := of_descendAll r rules vocation c false
  rw [← of_dropLevels, ← level_dropLevels] at hof
  unfold Balance
  generalize c.dropLevels rules vocation false = d at *
  rw [Finset.sum_const_nat fun j _ => booked_false r rules vocation j, Nat.card_Ico] at h hof
  -- the levels lost are early ones and later ones
  obtain ⟨lost, hlost⟩ := Nat.le.dest (min_le_min_right lastStarterLevel hle)
  obtain ⟨late, hlate⟩ := Nat.le.dest (Nat.sub_le_sub_right hle lastStarterLevel)
  have hall : c.level - d.level = lost + late := by omega
  rw [hall, Nat.add_mul] at h hof
  rw [← hlost, Nat.add_sub_cancel_left, granted, granted, ← hlost, ← hlate, Nat.mul_add, Nat.mul_add]
  rw [Nat.mul_comm lost, Nat.mul_comm late] at h hof
  omega

end Balance

end Balances

end Reserve

/-! ## Deeds -/

namespace Progress

variable (r : Reserve) (a : Act σ) (x : Career σ)

/-- Whether the levels that a deed loses are given back by the table of fresh characters. -/
def Deed.usesStarter : Deed → Bool
  | .die _ => false
  | .gainExperience .. | .loseExperience .. | .train .. | .trainOffline .. | .blockHit _ => true

/-- What a deed books of a reserve is not cut short: what the levels gained grant has room, and what
the levels lost take is there. -/
def Unsaturated : Prop :=
  let level := (a.perform x).character.level
  let booked := r.booked a.rules (a.rules.vocationOf? x.1)
  r.of x.1 + ∑ j ∈ Finset.Ioc x.1.level level, booked true j ≤ max32 ∧
    ∑ j ∈ Finset.Ico level x.1.level, booked a.deed.usesStarter j ≤ r.of x.1

instance : Decidable (Unsaturated r a x) := inferInstanceAs (Decidable (_ ∧ _))

/-- The starter levels that a death takes. -/
def earlyLost : Nat :=
  match a.deed with
  | .die _ => min x.1.level lastStarterLevel - min (a.perform x).character.level lastStarterLevel
  | _ => 0

/-- One if a removal of experience leads back into the starter levels. -/
def crossing : Nat :=
  match a.deed with
  | .loseExperience .. =>
    if (a.perform x).character.level ≤ lastStarterLevel ∧ lastStarterLevel < x.1.level then 1 else 0
  | _ => 0

/-- A count summed up over a run. -/
def total (count : Act σ → Career σ → Nat) : Career σ → List (Act σ) → Nat
  | _, [] => 0
  | x, a :: acts => count a x + total count (step x a) acts

theorem balance_addExperience {rules : Rules} {rates : Rates σ} {c : Character} {s : σ}
    {booked : Booked σ} {amount : Nat} {source : Option CreatureId} {announce : Bool}
    (hbooked : (addExperience rules rates c amount source announce s).value = booked)
    (h : r.of c + ∑ j ∈ Finset.Ioc c.level booked.character.level,
      r.booked rules (rules.vocationOf? c) true j ≤ max32) :
    r.Balance rules (rules.vocationOf? c) c booked.character 0 0 := by
  rcases cases_addExperience hbooked with ⟨-, hc⟩ | ⟨-, hc, -⟩ | ⟨rated, -, hc, -⟩
  · rw [hc]
    exact .of_eq rfl rfl
  · rw [hc]
    exact .of_eq (by cases r <;> rfl) rfl
  · rw [hc] at h ⊢
    exact .raised _ h

theorem balance_removeExperience {rules : Rules} {rates : Rates σ} {c : Character} {s : σ}
    {booked : Booked σ} {amount : Nat} {announce : Bool}
    (hbooked : (removeExperience rules rates c amount announce s).value = booked)
    (h : ∑ j ∈ Finset.Ico booked.character.level c.level,
      r.booked rules (rules.vocationOf? c) true j ≤ r.of c) :
    r.Balance rules (rules.vocationOf? c) c booked.character 0
      (if booked.character.level ≤ lastStarterLevel ∧ lastStarterLevel < c.level then 1 else 0) := by
  rcases cases_removeExperience hbooked with ⟨-, hc⟩ | ⟨kept, -, hc, -⟩
  · rw [hc, if_neg (by omega)]
    exact .of_eq rfl rfl
  · rw [hc] at h ⊢
    exact @Reserve.Balance.removed r rules _ (c.withExperience kept) h

theorem balance_resolve {rules : Rules} {rates : Rates σ} {c : Character} {s : σ}
    {killer : Option CreatureView} {died : Character × σ × DeathOutcome}
    (hdied : (Death.resolve rules rates c killer s).value = died)
    (h : ∑ j ∈ Finset.Ico died.1.level c.level,
      r.booked rules (rules.vocationOf? c) false j ≤ r.of c) :
    r.Balance rules (rules.vocationOf? c) c died.1
      (min c.level lastStarterLevel - min died.1.level lastStarterLevel) 0 := by
  have hkeep (hsheet : died.1.levelSheet = c.levelSheet) :
      r.Balance rules (rules.vocationOf? c) c died.1
        (min c.level lastStarterLevel - min died.1.level lastStarterLevel) 0 := by
    have hlevel : died.1.level = c.level := congrArg LevelSheet.level hsheet
    rw [hlevel, Nat.sub_self]
    exact .of_eq (Reserve.of_congr hsheet) hlevel
  rcases Death.cases_resolve _ _ _ _ _ hdied with
    ⟨-, hsheet, -, -⟩ | ⟨-, -, ⟨hsheet, -⟩ | ⟨kept, -, hsheet, -⟩⟩
  · exact hkeep hsheet
  · exact hkeep hsheet
  · have hpaid := Death.levelSheet_paid rules c killer
    set c' := (Death.paid rules c killer).withExperience kept
    have hof : r.of c' = r.of c := Eq.trans (by cases r <;> rfl) (Reserve.of_congr hpaid)
    have hlevel : c'.level = c.level := congrArg LevelSheet.level hpaid
    have hofd : r.of died.1 = r.of (c'.dropLevels rules (rules.vocationOf? c) false) :=
      Reserve.of_congr hsheet
    have hleveld : died.1.level = (c'.dropLevels rules (rules.vocationOf? c) false).level :=
      congrArg LevelSheet.level hsheet
    have hdrop := @Reserve.Balance.died r rules (rules.vocationOf? c) c'
    rw [hof, hlevel, ← hleveld] at hdrop
    exact (hdrop h).congr hof hlevel hofd hleveld

/-- What one deed leaves of a reserve. -/
theorem balance_perform (h : Unsaturated r a x) :
    r.Balance a.rules (a.rules.vocationOf? x.1) x.1 (a.perform x).character (earlyLost a x)
      (crossing a x) := by
  have hkeep (hsheet : (a.perform x).character.levelSheet = x.1.levelSheet) :
      r.Balance a.rules (a.rules.vocationOf? x.1) x.1 (a.perform x).character 0 0 :=
    .of_eq (Reserve.of_congr hsheet) (congrArg LevelSheet.level hsheet)
  obtain ⟨rules, rates, deed⟩ := a
  cases deed with
  | gainExperience amount source announce => exact balance_addExperience r rfl h.1
  | loseExperience amount announce => exact balance_removeExperience r rfl h.2
  | die killer => exact balance_resolve r rfl h.2
  | train track amount => exact hkeep (levelSheet_perform _ _ rfl)
  | trainOffline track tries => exact hkeep (levelSheet_perform _ _ rfl)
  | blockHit arena => exact hkeep (levelSheet_perform _ _ rfl)

/-! ## Runs -/

variable {r a x}

/-- What a run leaves of a reserve: the balances of its deeds add up. -/
theorem balance_after {base : Rules} {acts : List (Act σ)} (hlike : ∀ a ∈ acts, base.Alike a.rules)
    (hfree : ∀ before a, before ++ [a] <+: acts → Unsaturated r a (after x before)) :
    r.Balance base (base.vocationOf? x.1) x.1 (after x acts).1 (total earlyLost x acts)
      (total crossing x acts) := by
  induction acts generalizing x with
  | nil => exact .of_eq rfl rfl
  | cons a acts ih =>
    have ha : base.Alike a.rules := hlike a List.mem_cons_self
    have hfirst : r.Balance base (base.vocationOf? x.1) x.1 (step x a).1 (earlyLost a x)
        (crossing a x) := by
      rw [ha.vocationOf?_eq]
      exact (balance_perform r a x (hfree [] a (by simp))).alike ha.symm
    have hrest := @ih (step x a) (fun a ha => hlike a (List.mem_cons_of_mem _ ha))
      fun before a' hp => hfree (a :: before) a' (List.cons_prefix_cons.mpr ⟨rfl, hp⟩)
    have hvocation : base.vocationOf? (step x a).1 = base.vocationOf? x.1 :=
      congrArg base.vocation? (vocation_perform a x)
    rw [hvocation] at hrest
    exact hfirst.trans hrest

/-- A balance leaves nothing over exactly if its two rates or its two counts are equal. -/
theorem eq_iff_of_balance {after before own early lost crossed : Nat}
    (h : after + own * lost + early * crossed = before + early * lost + own * crossed) :
    after = before ↔ own = early ∨ lost = crossed := by
  constructor
  · rintro rfl
    have hflat : own * lost + early * crossed = early * lost + own * crossed := by omega
    have hzero : ((own : Int) - early) * (lost - crossed) = 0 := by
      have hcast : (own * lost + early * crossed : Int) = early * lost + own * crossed :=
        mod_cast hflat
      linear_combination hcast
    rcases mul_eq_zero.mp hzero with hrate | hcount
    · exact .inl (by omega)
    · exact .inr (by omega)
  · rintro (rfl | rfl) <;> omega

/-- **What a run back to a level leaves of the reserves.**  Under one table of vocations and one last
level, a run that ends at the level where it began, and books nothing that is cut short, leaves a reserve
short by the difference between the vocation's own gain and the early one for each starter level that a
death has taken, and ahead by it for each removal of experience that led back into the starter levels.
So the reserve is what it was exactly if the two gains are the same or the two counts are. -/
theorem reserves_return {base : Rules} {acts : List (Act σ)}
    (hlike : ∀ a ∈ acts, base.Alike a.rules) (hback : (after x acts).1.level = x.1.level)
    (hfree : ∀ before a, before ++ [a] <+: acts → Unsaturated r a (after x before)) :
    let own := r.own base (base.vocationOf? x.1)
    let early := r.early base (base.vocationOf? x.1)
    let lost := total earlyLost x acts
    let crossed := total crossing x acts
    r.of (after x acts).1 + own * lost + early * crossed =
        r.of x.1 + early * lost + own * crossed ∧
      (r.of (after x acts).1 = r.of x.1 ↔ own = early ∨ lost = crossed) := by
  have hrun := balance_after hlike hfree
  unfold Reserve.Balance at hrun
  rw [hback] at hrun
  have hlaw : r.of (after x acts).1 +
        r.own base (base.vocationOf? x.1) * total earlyLost x acts +
        r.early base (base.vocationOf? x.1) * total crossing x acts =
      r.of x.1 + r.early base (base.vocationOf? x.1) * total earlyLost x acts +
        r.own base (base.vocationOf? x.1) * total crossing x acts := by omega
  exact ⟨hlaw, eq_iff_of_balance hlaw⟩

theorem unsaturated_fallAndRise (r : Reserve) (before : List (Act Unit)) (a : Act Unit)
    (hp : before ++ [a] <+: fallAndRise) : Unsaturated r a (after (knight, ()) before) := by
  match before, hp with
  | [], hp =>
    obtain ⟨rfl, -⟩ := List.cons_prefix_cons.mp hp
    cases r <;> decide +kernel
  | [first], hp =>
    obtain ⟨rfl, hrest⟩ := List.cons_prefix_cons.mp hp
    obtain ⟨rfl, -⟩ := List.cons_prefix_cons.mp hrest
    cases r <;> decide +kernel
  | _ :: _ :: _, hp =>
    have hlength := hp.length_le
    simp [fallAndRise] at hlength

theorem reserves_return_knight :
    (∀ a ∈ fallAndRise, knightRules.Alike a.rules) ∧
      (after (knight, ()) fallAndRise).1.level = knight.level ∧
      (∀ before a, before ++ [a] <+: fallAndRise →
        Unsaturated .health a (after (knight, ()) before)) ∧
      total earlyLost (knight, ()) fallAndRise = 1 ∧
      (after (knight, ()) fallAndRise).1.health.maximum + 15 = knight.health.maximum + 5 := by
  have hback : (after (knight, ()) fallAndRise).1.level = knight.level := by decide +kernel
  have hlost : total earlyLost (knight, ()) fallAndRise = 1 := by decide +kernel
  have hcrossed : total crossing (knight, ()) fallAndRise = 0 := by decide +kernel
  have hown : Reserve.health.own knightRules (knightRules.vocationOf? knight) = 15 := by decide
  have hearly : Reserve.health.early knightRules (knightRules.vocationOf? knight) = 5 := by decide
  have hlaw := (reserves_return alike_fallAndRise hback (unsaturated_fallAndRise .health)).1
  simp only [hlost, hcrossed, hown, hearly, Nat.mul_one, Nat.mul_zero, Nat.add_zero] at hlaw
  exact ⟨alike_fallAndRise, hback, unsaturated_fallAndRise .health, hlost, hlaw⟩

/-- A knight of level eight that dies and gains the level back has less health than before: the death
took the gain of a knight, and the level granted that of a fresh character. -/
theorem knight_weaker :
    LevelCoherent knightRules knight ∧
      (after (knight, ()) fallAndRise).1.level = knight.level ∧
      (∀ r before a, before ++ [a] <+: fallAndRise → Unsaturated r a (after (knight, ()) before)) ∧
      (after (knight, ()) fallAndRise).1.health.maximum = 175 ∧ knight.health.maximum = 185 := by
  refine ⟨levelCoherent_knight, ?_, unsaturated_fallAndRise, ?_, rfl⟩
  · decide +kernel
  · decide +kernel

end Progress

end Adventurer
