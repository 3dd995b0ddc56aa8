import Adventurer.Notice
import Mathlib.Data.List.Induction

/-!
# What a client shows

A client shows the panels of stats and of skills, the skull and the blessings of a character, and reads them
again only when it is told to.  An operation is resynced when it has told to read again whatever it has
changed (`Screen.Resynced`); then a client that hears all notices never shows a stale value (`Alike.hear`).
Percents are compared as doubles are, so that the two zeros are one.
-/

namespace Adventurer

/-! ## Doubles that compare alike -/

/-- One double, or two that compare equal. -/
def SameNumber (a b : Float) : Prop := a = b ∨ (a == b) = true

section SameNumber

open Float.Model

/-- Numbers that compare equal are one number, but for the two zeros. -/
theorem eq_or_zeros_of_beq {x y : UnpackedFloat} (h : x.beq y = true) :
    x = y ∨ ∃ s t, x = .zero s ∧ y = .zero t := by
  have hcompare : x.compare y = some .eq := by
    change (x.compare y == some .eq) = true at h
    exact beq_iff_eq.mp h
  -- kinds that differ compare as less or greater, or not at all
  cases x with
  | notANumber => cases hcompare
  | infinity s =>
    cases y with
    | infinity t => cases s <;> cases t <;> first | exact .inl rfl | cases hcompare
    | _ => cases s <;> cases hcompare
  | zero s =>
    cases y with
    | zero t => exact .inr ⟨s, t, rfl, rfl⟩
    | infinity t => cases t <;> cases hcompare
    | finite t => cases t <;> cases hcompare
    | notANumber => cases hcompare
  | finite s m e hm =>
    cases y with
    | finite t n f hn =>
      left
      have hsame : s = t ∧ (compare e f).then (compare m n) = .eq := by
        cases s <;> cases t
        · exact ⟨rfl, Ordering.swap_eq_eq.mp (Option.some.inj hcompare)⟩
        · cases hcompare
        · cases hcompare
        · exact ⟨rfl, Option.some.inj hcompare⟩
      obtain ⟨rfl, hsame⟩ := hsame
      obtain ⟨he, hm'⟩ := Ordering.then_eq_eq.mp hsame
      obtain rfl := Std.LawfulEqOrd.eq_of_compare he
      obtain rfl := Std.LawfulEqOrd.eq_of_compare hm'
      rfl
    | infinity t => cases s <;> cases t <;> cases hcompare
    | zero t => cases s <;> cases hcompare
    | notANumber => cases s <;> cases hcompare

theorem float_beq_trans {a b c : Float} (hab : (a == b) = true) (hbc : (b == c) = true) :
    (a == c) = true := by
  change a.toModel.unpack.beq b.toModel.unpack = true at hab
  change b.toModel.unpack.beq c.toModel.unpack = true at hbc
  change a.toModel.unpack.beq c.toModel.unpack = true
  rcases eq_or_zeros_of_beq hab with h | ⟨s, t, ha, -⟩
  · rw [h]
    exact hbc
  · rcases eq_or_zeros_of_beq hbc with h | ⟨_, u, -, hc⟩
    · rw [← h]
      exact hab
    · rw [ha, hc]
      rfl

theorem SameNumber.refl (a : Float) : SameNumber a a := .inl rfl

theorem SameNumber.trans {a b c : Float} (h : SameNumber a b) (h' : SameNumber b c) : SameNumber a c := by
  rcases h with rfl | h
  · exact h'
  · rcases h' with rfl | h'
    · exact .inr h
    · exact .inr (float_beq_trans h h')

end SameNumber

/-! ## Screens -/

structure StatsPanel where
  health : Meter
  mana : Meter
  capacity : Nat
  inventoryWeight : Nat
  baseSpeed : Nat
  experience : Nat
  level : Nat
  levelPercent : Float
  magicLevel : Nat
  magicPercent : Float
  cached : DerivedStats

structure SkillsPanel where
  level : Skill → Nat
  percent : Skill → Float
  major : Table MajorStat Int

/-- The panels, the skull and the blessings. -/
structure Screen where
  stats : StatsPanel
  skills : SkillsPanel
  skull : Skull
  blessings : Blessings

namespace Character

def statsPanel (c : Character) : StatsPanel where
  health := c.health
  mana := c.mana
  capacity := c.capacity
  inventoryWeight := c.inventoryWeight
  baseSpeed := c.baseSpeed
  experience := c.progress.experience
  level := c.progress.level
  levelPercent := c.progress.levelPercent
  magicLevel := c.progress.magicLevel
  magicPercent := c.progress.magicLevelPercent
  cached := c.combat.cached

def skillsPanel (c : Character) : SkillsPanel where
  level k := (c.skill k).level
  percent k := (c.skill k).percent
  major := c.passives.major

/-- What there is to show of a character. -/
def screen (c : Character) : Screen := ⟨c.statsPanel, c.skillsPanel, c.reputation.skull, c.blessings⟩

end Character

/-- Equal but for a percent of magic that compares equal. -/
structure StatsPanel.Alike (p q : StatsPanel) : Prop where
  others : { p with magicPercent := q.magicPercent } = q
  magicPercent : SameNumber p.magicPercent q.magicPercent

/-- Equal but for percents that compare equal. -/
structure SkillsPanel.Alike (p q : SkillsPanel) : Prop where
  level : p.level = q.level
  percent : ∀ k, SameNumber (p.percent k) (q.percent k)
  major : p.major = q.major

theorem StatsPanel.Alike.refl (p : StatsPanel) : p.Alike p := ⟨rfl, .refl _⟩

theorem StatsPanel.Alike.trans {p q r : StatsPanel} (h : p.Alike q) (h' : q.Alike r) : p.Alike r where
  others := by
    rw [← h'.others, ← h.others]
  magicPercent := h.magicPercent.trans h'.magicPercent

theorem SkillsPanel.Alike.refl (p : SkillsPanel) : p.Alike p := ⟨rfl, fun _ => .refl _, rfl⟩

theorem SkillsPanel.Alike.trans {p q r : SkillsPanel} (h : p.Alike q) (h' : q.Alike r) : p.Alike r where
  level := h.level.trans h'.level
  percent k := (h.percent k).trans (h'.percent k)
  major := h.major.trans h'.major

/-! ## Notices -/

/-- The skull that a notice tells. -/
@[simp] def Notice.skull? : Notice → Option Skull
  | .skullChanged skull => some skull
  | .stats | .skills | .inventorySlot .. | .text .. | .advance .. | .cancel _ | .reLoginWindow _
  | .blessStatus | .movedToTemple _ | .unjustifiedPoints => none

/-- The skull shown after some notices. -/
def Skull.hear (shown : Skull) (told : List Notice) : Skull :=
  told.foldl (fun shown notice => notice.skull?.getD shown) shown

/-- No notice tells a skull. -/
def Quiet (told : List Notice) : Prop := ∀ notice ∈ told, notice.skull? = none

@[simp] theorem quiet_nil : Quiet [] := fun _ h => by cases h

@[simp] theorem quiet_cons {notice : Notice} {told : List Notice} :
    Quiet (notice :: told) ↔ notice.skull? = none ∧ Quiet told := List.forall_mem_cons

@[simp] theorem quiet_append {told later : List Notice} :
    Quiet (told ++ later) ↔ Quiet told ∧ Quiet later := List.forall_mem_append

theorem Skull.hear_append (shown : Skull) (told later : List Notice) :
    shown.hear (told ++ later) = (shown.hear told).hear later := List.foldl_append

theorem Skull.hear_of_quiet (shown : Skull) {told : List Notice} (h : Quiet told) : shown.hear told = shown := by
  induction told with
  | nil => rfl
  | cons notice told ih =>
    obtain ⟨hnone, hrest⟩ := quiet_cons.mp h
    have hstep : shown.hear (notice :: told) = (notice.skull?.getD shown).hear told := rfl
    rw [hstep, hnone]
    exact ih hrest

/-- Another skull is shown only where it was told. -/
theorem Skull.mem_of_hear_ne {shown : Skull} {told : List Notice} (h : shown.hear told ≠ shown) :
    .skullChanged (shown.hear told) ∈ told := by
  induction told using List.reverseRecOn with
  | nil => exact absurd rfl h
  | append_singleton told notice ih =>
    rw [Skull.hear_append] at h ⊢
    cases notice with
    | skullChanged skull => exact List.mem_append_right _ (List.mem_singleton_self _)
    | _ => exact List.mem_append_left _ (ih h)

namespace Screen

variable {x y z shown : Screen} {told later : List Notice}

/-- The client was told to read whatever has changed. -/
structure Resynced (x y : Screen) (told : List Notice) : Prop where
  stats : .stats ∈ told ∨ x.stats.Alike y.stats
  skills : .skills ∈ told ∨ x.skills.Alike y.skills
  skull : x.skull.hear told = y.skull
  blessings : .blessStatus ∈ told ∨ x.blessings = y.blessings

theorem Resynced.quiet (x : Screen) (h : Quiet told) : Resynced x x told :=
  ⟨.inr (.refl _), .inr (.refl _), Skull.hear_of_quiet _ h, .inr rfl⟩

theorem Resynced.refl (x : Screen) : Resynced x x [] := .quiet x quiet_nil

theorem Resynced.trans (h : Resynced x y told) (h' : Resynced y z later) : Resynced x z (told ++ later) where
  stats := by
    rcases h.stats with hs | hs
    · exact .inl (List.mem_append_left _ hs)
    · exact h'.stats.imp (List.mem_append_right _) hs.trans
  skills := by
    rcases h.skills with hs | hs
    · exact .inl (List.mem_append_left _ hs)
    · exact h'.skills.imp (List.mem_append_right _) hs.trans
  skull := by rw [Skull.hear_append, h.skull, h'.skull]
  blessings := by
    rcases h.blessings with hb | hb
    · exact .inl (List.mem_append_left _ hb)
    · exact h'.blessings.imp (List.mem_append_right _) hb.trans

/-- What goes on without telling anything changes nothing. -/
theorem Resynced.silently (h : Resynced x y told) : Resynced x y (told ++ []) := h.trans (.refl y)

/-- Steps that are resynced one by one are so together. -/
theorem Resynced.foldlM {α β : Type} (screenOf : α → Screen) {step : α → β → Told α}
    (h : ∀ a b, Resynced (screenOf a) (screenOf (step a b).value) (step a b).notices) :
    ∀ (l : List β) (a : α), Resynced (screenOf a) (screenOf (l.foldlM step a).value) (l.foldlM step a).notices
  | [], a => .refl _
  | b :: l, a => by
    rw [List.foldlM_cons]
    exact (h a b).trans (Resynced.foldlM screenOf h l _)

/-- Where the stats are told, they may be anything. -/
theorem Resynced.addStats (h : Resynced x y told) (before after : StatsPanel) :
    Resynced { x with stats := before } { y with stats := after } (told ++ [.stats]) where
  stats := .inl (List.mem_append_right _ (List.mem_singleton_self _))
  skills := h.skills.imp_left (List.mem_append_left _)
  skull := by
    rw [Skull.hear_append]
    exact h.skull
  blessings := h.blessings.imp_left (List.mem_append_left _)

theorem Resynced.of_stats (hq : Quiet told) (hs : .stats ∈ told) (h : { x with stats := y.stats } = y) :
    Resynced x y told := by
  rw [← h]
  exact ⟨.inl hs, .inr (.refl _), Skull.hear_of_quiet _ hq, .inr rfl⟩

/-- What is shown after an operation: what was told to be read again is read, and the rest stays. -/
def hear (shown now : Screen) (told : List Notice) : Screen where
  stats := if .stats ∈ told then now.stats else shown.stats
  skills := if .skills ∈ told then now.skills else shown.skills
  skull := shown.skull.hear told
  blessings := if .blessStatus ∈ told then now.blessings else shown.blessings

/-- No value shown is stale. -/
structure Alike (x y : Screen) : Prop where
  stats : x.stats.Alike y.stats
  skills : x.skills.Alike y.skills
  skull : x.skull = y.skull
  blessings : x.blessings = y.blessings

theorem Alike.refl (x : Screen) : x.Alike x := ⟨.refl _, .refl _, rfl, rfl⟩

/-- What shows no stale value before an operation shows none after it. -/
theorem Alike.hear (h : shown.Alike x) (hr : Resynced x y told) : (shown.hear y told).Alike y where
  stats := by
    unfold Screen.hear
    simp only
    split_ifs with hs
    · exact .refl _
    · exact h.stats.trans (hr.stats.resolve_left hs)
  skills := by
    unfold Screen.hear
    simp only
    split_ifs with hs
    · exact .refl _
    · exact h.skills.trans (hr.skills.resolve_left hs)
  skull := by rw [← hr.skull, ← h.skull]; rfl
  blessings := by
    unfold Screen.hear
    simp only
    split_ifs with hb
    · rfl
    · exact h.blessings.trans (hr.blessings.resolve_left hb)

end Screen

end Adventurer
