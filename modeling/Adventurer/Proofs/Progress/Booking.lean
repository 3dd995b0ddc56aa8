import Adventurer.Progress.Training
import Adventurer.Proofs.Progress.Walk

/-!
# Bookings on a track

Skill tries and spent mana are booked in one way, on the part of the ledger that belongs to their
track (`addTries_eq`).  At the rates as they are, two bookings are one booking of the sum
(`tries_add_up`).
-/

namespace Adventurer

theorem Table.set_set {κ α : Type} [Enumerated κ] (t : Table κ α) (k : κ) (a b : α) :
    (t.set k a).set k b = t.set k b := by
  simp [Table.set]

theorem Character.skill_setSkill (c : Character) (k j : Skill) (record : SkillRecord) :
    ({ c with progress := c.progress.setSkill k record } : Character).skill j =
      if k = j then record else c.skill j :=
  Table.get_set c.progress.skills k j record

namespace Progress

variable {σ : Type}

namespace TrainedTrack

def track : TrainedTrack → Track
  | .magicLevel => .magicLevel
  | .skill k => .skill k

/-- The flag that bars a character from the track. -/
def bar : TrainedTrack → Flag
  | .magicLevel => .notGainMana
  | .skill _ => .notGainSkill

/-- The percent that the ledger keeps for the track. -/
def shown (c : Character) : TrainedTrack → Float
  | .magicLevel => c.progress.magicLevelPercent
  | .skill k => (c.skill k).percent

/-- The character with the track at another footing and percent. -/
def write (c : Character) : TrainedTrack → Footing → Float → Character
  | .magicLevel, f, percent =>
    { c with
      progress :=
        { c.progress with magicLevel := f.level, manaSpent := f.count, magicLevelPercent := percent } }
  | .skill k, f, percent =>
    { c with progress := c.progress.setSkill k ⟨f.level, f.count, percent⟩ }

/-- The line that announces a level. -/
def line : TrainedTrack → Nat → String
  | .magicLevel, level => "You advanced to magic level " ++ toString level ++ "."
  | .skill k, level => "You advanced to " ++ k.title ++ " level " ++ toString level ++ "."

/-- What is told when the track has changed. -/
def resync : TrainedTrack → Notice
  | .magicLevel => .stats
  | .skill _ => .skills

variable (track : TrainedTrack) (c : Character) (f g : Footing) (p q : Float)

@[simp] theorem footing_write : track.footing (track.write c f p) = f := by
  cases track with
  | magicLevel => rfl
  | skill k => simp [footing, write, Character.skill_setSkill]

@[simp] theorem shown_write : track.shown (track.write c f p) = p := by
  cases track with
  | magicLevel => rfl
  | skill k => simp [shown, write, Character.skill_setSkill]

@[simp] theorem write_write : track.write (track.write c f p) g q = track.write c g q := by
  cases track with
  | magicLevel => rfl
  | skill k => simp [write, Ledger.setSkill, Table.set_set]

@[simp] theorem flags_write : (track.write c f p).flags = c.flags := by cases track <;> rfl

@[simp] theorem vocation_write : (track.write c f p).vocation = c.vocation := by cases track <;> rfl

end TrainedTrack

/-- Books an amount on a track, under any curve. -/
def bookOn (rates : Rates σ) (require : Nat → Nat) (track : TrainedTrack) (c : Character)
    (amount : Nat) (s : σ) : Told (Booked σ) :=
  bookTries rates track.track require (track.footing c) (track.shown c) (track.write c) track.line
    track.resync c amount s

/-- Adds tries or spent mana to a track. -/
def addTries (rules : Rules) (rates : Rates σ) (c : Character) (track : TrainedTrack) (amount : Nat)
    (s : σ) : Told (Booked σ) :=
  match track with
  | .magicLevel => addManaSpent rules rates c amount s
  | .skill k => addSkillTries rules rates c k amount s

theorem addTries_eq (rules : Rules) (rates : Rates σ) (c : Character) (track : TrainedTrack)
    (amount : Nat) (s : σ) :
    addTries rules rates c track amount s =
      if c.flags.has track.bar then unchanged c s
      else match rules.vocationOf? c with
        | none => unchanged c s
        | some vocation => bookOn rates (track.require vocation) track c amount s := by
  cases track <;> rfl

theorem addTries_of_some {rules : Rules} {c : Character} {track : TrainedTrack} {v : Vocation}
    (hbar : ¬ c.flags.has track.bar) (hv : rules.vocationOf? c = some v) (rates : Rates σ)
    (amount : Nat) (s : σ) :
    addTries rules rates c track amount s = bookOn rates (track.require v) track c amount s := by
  rw [addTries_eq, if_neg hbar, hv]

/-! ## What a booking does -/

section Bookings

variable (rates : Rates σ) (require : Nat → Nat) (track : TrainedTrack) (c : Character)
  (amount : Nat) (s : σ)

/-- A flat curve refuses a booking, and rates that leave nothing of it cancel it.  Any other one writes
the footing that the walk has come to, with its percent. -/
theorem value_bookOn :
    (bookOn rates require track c amount s).value =
      if require (track.footing c).level < require ((track.footing c).level + 1) then
        let (rated, s) := rates.tries c track.track amount s
        if rated = 0 then ⟨c, s, 0⟩
        else
          let g := (track.footing c).advance require rated
          let c' := track.write c g (g.percent require)
          let gained := g.level - (track.footing c).level
          ⟨c', if 0 < gained then rates.onAdvance c' track.track (track.footing c).level g.level s else s,
            gained⟩
      else ⟨c, s, 0⟩ := by
  unfold bookOn bookTries
  split_ifs with grows
  · simp only []
    split_ifs <;> rfl
  · rfl

/-- A booking leaves the character as it was, or writes a footing that its curve has been walked to. -/
theorem cases_bookOn {booked : Booked σ} (h : (bookOn rates require track c amount s).value = booked) :
    booked.character = c ∧ booked.levels = 0 ∨
      ∃ rated ≠ 0, require (track.footing c).level < require ((track.footing c).level + 1) ∧
        booked.character = track.write c ((track.footing c).advance require rated)
          (((track.footing c).advance require rated).percent require) ∧
        booked.levels =
          ((track.footing c).advance require rated).level - (track.footing c).level := by
  subst h
  rw [value_bookOn]
  by_cases grows : require (track.footing c).level < require ((track.footing c).level + 1)
  · rw [if_pos grows]
    by_cases hrated : (rates.tries c track.track amount s).1 = 0
    · exact .inl (by simp [hrated])
    · exact .inr ⟨_, hrated, grows, by simp [hrated], by simp [hrated]⟩
  · exact .inl (by simp [grows])

/-- Tries leave the character as it was, or are booked under the curve of its vocation. -/
theorem cases_addTries {rules : Rules} {booked : Booked σ}
    (h : (addTries rules rates c track amount s).value = booked) :
    booked.character = c ∧ booked.levels = 0 ∨
      ∃ vocation, rules.vocationOf? c = some vocation ∧
        (bookOn rates (track.require vocation) track c amount s).value = booked := by
  subst h
  rw [addTries_eq]
  split_ifs with barred
  · exact .inl ⟨rfl, rfl⟩
  · cases hv : rules.vocationOf? c with
    | none => exact .inl ⟨rfl, rfl⟩
    | some vocation => exact .inr ⟨vocation, rfl, rfl⟩

/-- A booking at the rates as they are, where the curve grows. -/
theorem value_bookOn_base
    (grows : require (track.footing c).level < require ((track.footing c).level + 1))
    (ha : amount ≠ 0) :
    (bookOn .base require track c amount ()).value =
      let g := (track.footing c).train require amount
      ⟨track.write c g (g.percent require), (), g.level - (track.footing c).level⟩ := by
  rw [value_bookOn, if_pos grows, Footing.train_of_ne_zero _ ha, Footing.resume, if_pos grows]
  exact if_neg ha

theorem value_bookOn_base_of_flat
    (flat : ¬ require (track.footing c).level < require ((track.footing c).level + 1)) :
    (bookOn .base require track c amount ()).value = ⟨c, (), 0⟩ := by
  rw [value_bookOn, if_neg flat]

theorem value_bookOn_base_zero : (bookOn .base require track c 0 ()).value = ⟨c, (), 0⟩ := by
  rw [value_bookOn]
  exact ite_self _

end Bookings

/-! ## Two bookings -/

/-- Booking two amounts one after the other leaves the character that booking their sum leaves, and
gains as many levels. -/
def Additive (book : Character → Nat → Booked Unit) : Prop :=
  ∀ c a b,
    (book (book c a).character b).character = (book c (a + b)).character ∧
      (book c a).levels + (book (book c a).character b).levels = (book c (a + b)).levels

theorem additive_bookOn (require : Nat → Nat) (track : TrainedTrack) :
    Additive fun c amount => (bookOn .base require track c amount ()).value := by
  intro c a b
  by_cases ha : a = 0
  · simp only [ha, value_bookOn_base_zero, Nat.zero_add, and_self]
  by_cases hb : b = 0
  · simp only [hb, value_bookOn_base_zero, Nat.add_zero, and_self]
  by_cases grows : require (track.footing c).level < require ((track.footing c).level + 1)
  swap
  · simp only [value_bookOn_base_of_flat require track c _ grows, and_self]
  -- the first booking comes to a footing from which the second starts
  have hsum : ((track.footing c).train require a).train require b =
      (track.footing c).train require (a + b) := Footing.train_train _ a b
  have hfirst : (track.footing c).level ≤ ((track.footing c).train require a).level :=
    Footing.le_train_level _ a
  have hthen : ((track.footing c).train require a).level ≤
      (((track.footing c).train require a).train require b).level := Footing.le_train_level _ b
  simp only [value_bookOn_base require track c _ grows ha,
    value_bookOn_base require track c (a + b) grows (by omega)]
  set f := (track.footing c).train require a with hf
  by_cases next : require f.level < require (f.level + 1)
  · rw [value_bookOn_base _ _ _ _ (by rwa [TrainedTrack.footing_write]) hb]
    simp only [TrainedTrack.footing_write, TrainedTrack.write_write, hsum] at hthen ⊢
    exact ⟨trivial, by omega⟩
  · rw [value_bookOn_base_of_flat _ _ _ _ (by rwa [TrainedTrack.footing_write])]
    rw [Footing.train_of_ne_zero _ hb, Footing.resume_of_flat next] at hsum
    rw [← hsum]
    exact ⟨rfl, rfl⟩

theorem additive_addTries (rules : Rules) (track : TrainedTrack) :
    Additive fun c amount => (addTries rules .base c track amount ()).value := by
  intro c a b
  by_cases barred : c.flags.has track.bar
  · simp [addTries_eq, barred, unchanged]
  cases hv : rules.vocationOf? c with
  | none => simp [addTries_eq, barred, hv, unchanged]
  | some v =>
    -- neither the flag nor the vocation changes between the two bookings
    have hkeep : ¬ (bookOn .base (track.require v) track c a ()).value.character.flags.has track.bar ∧
        rules.vocationOf? (bookOn .base (track.require v) track c a ()).value.character = some v := by
      rcases cases_bookOn _ _ _ _ _ _ rfl with ⟨hc, -⟩ | ⟨rated, -, -, hc, -⟩
      · rw [hc]
        exact ⟨barred, hv⟩
      · rw [hc, TrainedTrack.flags_write, Rules.vocationOf?, TrainedTrack.vocation_write]
        exact ⟨barred, hv⟩
    have hbook := additive_bookOn (track.require v) track c a b
    simp only [addTries_of_some barred hv, addTries_of_some hkeep.1 hkeep.2]
    exact hbook

/-- **Gains add up.**  At the rates as they are, adding an amount of tries or of spent mana and then
another leaves the character that adding their sum at once leaves, and the levels gained add up: under
the curve of every vocation, and booked under any other sequence of requirements.  So it is also when
the first part reaches the end of the curve, where what is left of it is lost, or when the count starts
at or above the next requirement. -/
theorem tries_add_up :
    (∀ rules : Rules,
      (∀ skill, Additive fun c count => (addSkillTries rules .base c skill count ()).value) ∧
        Additive fun c amount => (addManaSpent rules .base c amount ()).value) ∧
    ∀ (require : Nat → Nat) (track : TrainedTrack),
      Additive fun c amount => (bookOn .base require track c amount ()).value := by
  refine ⟨fun rules => ⟨fun skill => ?_, ?_⟩, additive_bookOn⟩
  · exact additive_addTries rules (.skill skill)
  · exact additive_addTries rules .magicLevel

end Progress

end Adventurer
