import Adventurer.Proofs.Engine.Overlay
import Adventurer.Proofs.Engine.Parts
import Adventurer.Proofs.Passives.Repetition

/-!
# The countdown of Gift of Life

A rescue starts a countdown of whole seconds.  Each tick takes the seconds off that have gone by since the
countdown was counted last, and moves its clock by as many; what is left of a second stays for the next tick.
So however the ticks fall, also those inside moves of items and hits, the countdown is what was set at the
start less the whole seconds since then (`CountedTo`), and no rescue comes before it is over.
-/

namespace Adventurer

namespace Passives

variable {start now later : Instant} {rest : Nat} {c d : Character} {p : PassiveState}

/-- A countdown of `rest` seconds from `start` has been counted exactly up to `now`. -/
structure CountedTo (start : Instant) (rest : Nat) (now : Instant) (p : PassiveState) : Prop where
  cooldown : p.giftOfLifeCooldown = rest - now.since start / 1000
  clock : p.giftOfLifeCooldown ≠ 0 →
    p.cooldownClock.millis = start.millis + 1000 * (now.since start / 1000)

/-- A countdown of `rest` seconds from `start` has been counted up to some instant not after `now`. -/
def Waits (start : Instant) (rest : Nat) (now : Instant) (p : PassiveState) : Prop :=
  ∃ seen, start ≤ seen ∧ seen ≤ now ∧ CountedTo start rest seen p

/-- Only the countdown and its clock matter. -/
theorem CountedTo.of_countdown {q : PassiveState} (h : CountedTo start rest now p)
    (hcooldown : q.giftOfLifeCooldown = p.giftOfLifeCooldown) (hclock : q.cooldownClock = p.cooldownClock) :
    CountedTo start rest now q where
  cooldown := hcooldown.trans h.cooldown
  clock hne := by
    rw [hclock]
    rw [hcooldown] at hne
    exact h.clock hne

theorem CountedTo.congr (h : Overlaid c d) (hc : CountedTo start rest now c.passives) :
    CountedTo start rest now d.passives := by
  obtain ⟨_, _, _, rfl⟩ := h
  exact hc.of_countdown rfl rfl

theorem CountedTo.waits (h : CountedTo start rest now p) (hstart : start ≤ now) : Waits start rest now p :=
  ⟨now, hstart, Nat.le_refl _, h⟩

theorem Waits.mono (h : Waits start rest now p) (hle : now ≤ later) : Waits start rest later p := by
  obtain ⟨seen, hstart, hseen, hcounted⟩ := h
  exact ⟨seen, hstart, Nat.le_trans hseen hle, hcounted⟩

/-- A rescue starts a countdown. -/
theorem countedTo_rescued (now : Instant) (p : PassiveState) :
    CountedTo now (rescued now p).giftOfLifeCooldown now (rescued now p) where
  cooldown := by rw [Instant.since_self, Nat.zero_div, Nat.sub_zero]
  clock _ := by rw [Instant.since_self, Nat.zero_div, Nat.mul_zero, Nat.add_zero]; rfl

/-- Counting on from wherever the countdown stands. -/
theorem countedTo_tickGiftOfLife (h : Waits start rest now c.passives) (hnow : now.millis ≤ max64) :
    CountedTo start rest now (tickGiftOfLife c now).passives := by
  obtain ⟨seen, hstart, hseen, hcooldown, hclock⟩ := h
  rw [Instant.le_def] at hstart hseen
  unfold Instant.since at hcooldown hclock
  unfold tickGiftOfLife Character.mapPassives
  simp only
  split_ifs with hzero
  · -- what is over stays over
    refine ⟨?_, fun hne => absurd hzero hne⟩
    show c.passives.giftOfLifeCooldown = _
    unfold Instant.since
    omega
  · have hat := hclock hzero
    have hseconds : now.since c.passives.cooldownClock / 1000 =
        (now.millis - start.millis) / 1000 - (seen.millis - start.millis) / 1000 := by
      unfold Instant.since
      omega
    rw [hseconds]
    refine ⟨?_, fun _ => ?_⟩
    · show c.passives.giftOfLifeCooldown - _ = _
      unfold Instant.since
      omega
    · unfold Instant.later addUpTo Instant.since
      simp only
      omega

theorem countedTo_onCombatTick {rules : Rules} (a : Arena) (force : Bool)
    (h : Waits start rest rules.now c.passives) (hnow : rules.now.millis ≤ max64) :
    CountedTo start rest rules.now (onCombatTick rules a force c).value.1.passives := by
  have hcounted := countedTo_tickGiftOfLife h hnow
  rw [value_onCombatTick]
  split_ifs
  · exact hcounted.congr (overlaid_reset _)
  · exact hcounted.congr (overlaid_refresh rules a _ force _)

/-- A tick counts a countdown up to its own instant, and a fight leaves it alone. -/
theorem upkeep_waits {rules : Rules} (hstart : start ≤ rules.now) (hnow : rules.now.millis ≤ max64) :
    Upkeep rules (Waits start rest rules.now) (CountedTo start rest rules.now) where
  tick a force _ h := countedTo_onCombatTick a force h hnow
  fight a c h := by
    obtain ⟨seen, hfrom, hseen, hcounted⟩ := h
    exact ⟨seen, hfrom, hseen, hcounted.congr (overlaid_refresh rules a inFightPassives false c)⟩
  weaken _ h := h.waits hstart

/-- While a countdown waits, Gift of Life is not ready before it is over. -/
theorem Waits.le_of_ready (h : Waits start rest now c.passives) {damage : Nat}
    (hready : giftOfLifeReady c damage = true) : start.millis + 1000 * rest ≤ now.millis := by
  obtain ⟨seen, hstart, hseen, hcooldown, -⟩ := h
  have hzero : c.passives.giftOfLifeCooldown = 0 := by
    unfold giftOfLifeReady at hready
    simp only [Bool.and_eq_true, decide_eq_true_eq] at hready
    exact hready.1.2
  rw [Instant.le_def] at hstart hseen
  unfold Instant.since at hcooldown
  omega

end Passives

variable {σ τ : Type}

/-- The hook's reports leave the countdown of Gift of Life and its clock alone. -/
structure EquipHook.LeavesCountdown (hook : EquipHook σ) : Prop where
  onEquip : ∀ c id slot s,
    (hook.onEquip c id slot s).1.passives.giftOfLifeCooldown = c.passives.giftOfLifeCooldown ∧
      (hook.onEquip c id slot s).1.passives.cooldownClock = c.passives.cooldownClock
  onUnequip : ∀ c id slot s,
    (hook.onUnequip c id slot s).1.passives.giftOfLifeCooldown = c.passives.giftOfLifeCooldown ∧
      (hook.onUnequip c id slot s).1.passives.cooldownClock = c.passives.cooldownClock

theorem EquipHook.leavesCountdown_idle : EquipHook.idle.LeavesCountdown :=
  ⟨fun _ _ _ _ => ⟨rfl, rfl⟩, fun _ _ _ _ => ⟨rfl, rfl⟩⟩

theorem EquipHook.LeavesCountdown.keeps {hook : EquipHook σ} (h : hook.LeavesCountdown) (start : Instant)
    (rest : Nat) (now : Instant) : hook.KeepsPassives (Passives.CountedTo start rest now) where
  onEquip c id slot s hc := hc.of_countdown (h.onEquip c id slot s).1 (h.onEquip c id slot s).2
  onUnequip c id slot s hc := hc.of_countdown (h.onUnequip c id slot s).1 (h.onUnequip c id slot s).2

namespace Engine

open Passives

variable {e : Engine σ τ} {s : Situation σ τ} {start : Instant} {rest : Nat}

/-- Times do not run backwards. -/
def Chronological (course : Course σ τ) : Prop :=
  course.Pairwise fun x y => x.1.rules.now ≤ y.1.rules.now

theorem chronological_partsOf {course : Course σ τ} (h : Chronological course) :
    Chronological (partsOf course) := by
  unfold Chronological partsOf
  rw [List.pairwise_flatMap]
  constructor
  · intro o _
    rw [List.pairwise_map]
    exact List.pairwise_of_forall fun _ _ => Nat.le_refl _
  · refine List.Pairwise.imp (fun {o o'} hle => ?_) h
    intro x hx y hy
    obtain ⟨_, -, rfl⟩ := List.mem_map.mp hx
    obtain ⟨_, -, rfl⟩ := List.mem_map.mp hy
    exact hle

/-- What an engine must be like for countdowns to be exact: the reports of its hook leave the countdown
alone, and its time is one that its clock can show. -/
structure Timely (e : Engine σ τ) : Prop where
  hook : e.hook.LeavesCountdown
  clock : e.rules.now.millis ≤ max64

/-- An operation that saves nobody leaves a countdown to wait. -/
theorem waits_operate (hf : Timely e) (hs : Waits start rest e.rules.now s.character.passives)
    (o : Operation) (ho : o.rescues s.character = false) :
    Waits start rest e.rules.now (e.operate s o).value.character.passives := by
  obtain ⟨seen, hstart, hseen, -⟩ := id hs
  refine keeps_operate (upkeep_waits (Nat.le_trans hstart hseen) hf.clock) (hf.hook.keeps _ _ _) hs o ?_
  intro hrescue
  rw [ho] at hrescue
  cases hrescue

theorem waits_le_of_rescues {now : Instant} (hs : Waits start rest now s.character.passives) {o : Operation}
    (ho : o.rescues s.character = true) : start.millis + 1000 * rest ≤ now.millis := by
  cases o with
  | triggerGiftOfLife damage => exact hs.le_of_ready ho
  | applyDamage damage => exact hs.le_of_ready (Bool.and_eq_true_iff.mp ho).2
  | _ => cases ho

/-- No operation of the course is a rescue. -/
def NoRescue (s : Situation σ τ) (course : Course σ τ) : Prop :=
  ∀ early x, early ++ [x] <+: course → x.2.rescues (arrived s early).character = false

theorem NoRescue.head {x : Engine σ τ × Operation} {course : Course σ τ} (h : NoRescue s (x :: course)) :
    x.2.rescues s.character = false :=
  h [] x (List.cons_prefix_cons.mpr ⟨rfl, List.nil_prefix⟩)

theorem NoRescue.tail {x : Engine σ τ × Operation} {course : Course σ τ} (h : NoRescue s (x :: course)) :
    NoRescue (advance s x) course :=
  fun early y hp => h (x :: early) y (List.cons_prefix_cons.mpr ⟨rfl, hp⟩)

section Runs

variable {x : Engine σ τ × Operation} {now : Instant}

/-- A countdown waits until the next rescue. -/
theorem waits_until (between : Course σ τ) (hf : ∀ y ∈ between ++ [x], Timely y.1)
    (htime : Chronological (between ++ [x])) (hfrom : ∀ y ∈ between ++ [x], now ≤ y.1.rules.now)
    (hs : Waits start rest now s.character.passives) (hquiet : NoRescue s between) :
    Waits start rest x.1.rules.now (arrived s between).character.passives := by
  induction between generalizing s now with
  | nil => exact hs.mono (hfrom x List.mem_cons_self)
  | cons first between ih =>
    obtain ⟨hlater, htime⟩ := List.pairwise_cons.mp htime
    have hnow := hs.mono (hfrom first List.mem_cons_self)
    have hone : Waits start rest first.1.rules.now (advance s first).character.passives :=
      waits_operate (hf first List.mem_cons_self) hnow first.2 hquiet.head
    exact ih (fun y hy => hf y (List.mem_cons_of_mem _ hy)) htime hlater hone hquiet.tail

/-- No rescue comes before a countdown is over, also none after another one. -/
theorem le_of_rescues (between : Course σ τ) (hf : ∀ y ∈ between ++ [x], Timely y.1)
    (htime : Chronological (between ++ [x])) (hfrom : ∀ y ∈ between ++ [x], now ≤ y.1.rules.now)
    (hs : Waits start rest now s.character.passives)
    (hx : x.2.rescues (arrived s between).character = true) :
    start.millis + 1000 * rest ≤ x.1.rules.now.millis := by
  induction between generalizing s now with
  | nil => exact waits_le_of_rescues (hs.mono (hfrom x List.mem_cons_self)) hx
  | cons first between ih =>
    obtain ⟨hlater, htime⟩ := List.pairwise_cons.mp htime
    have hnow := hs.mono (hfrom first List.mem_cons_self)
    cases hfirst : first.2.rescues s.character with
    | true =>
      -- what comes after an earlier rescue comes later still
      have hle : first.1.rules.now ≤ x.1.rules.now :=
        hlater x (List.mem_append_right _ List.mem_cons_self)
      exact Nat.le_trans (waits_le_of_rescues hnow hfirst) hle
    | false =>
      have hone : Waits start rest first.1.rules.now (advance s first).character.passives :=
        waits_operate (hf first List.mem_cons_self) hnow first.2 hfirst
      exact ih (fun y hy => hf y (List.mem_cons_of_mem _ hy)) htime hlater hone hx

end Runs

/-- **Gift of Life counts down exactly and never comes early.**  Take a course at times that do not run
backwards, in single steps, and a rescue in it, which sets the countdown to `rest` seconds.  After whatever
brings the overlay up to date before the next rescue, the countdown is `rest` less the whole seconds since
then; and between the rescue and every later one lie at least `rest` seconds. -/
theorem giftOfLife_counts_exactly (course : Course σ τ) (s : Situation σ τ)
    (hf : ∀ x ∈ course, Timely x.1) (htime : Chronological course) {before after : Course σ τ}
    {e : Engine σ τ} {o : Operation} (hsplit : partsOf course = before ++ (e, o) :: after)
    (hrescue : o.rescues (arrived s before).character = true) :
    let t := arrived s (before ++ [(e, o)])
    let rest := t.character.passives.giftOfLifeCooldown
    (∀ between e' o', between ++ [(e', o')] <+: after → NoRescue t between →
      o'.Ticks e' (arrived t between) →
      (arrived t (between ++ [(e', o')])).character.passives.giftOfLifeCooldown =
        rest - e'.rules.now.since e.rules.now / 1000) ∧
    ∀ between e' o', between ++ [(e', o')] <+: after →
      o'.rescues (arrived t between).character = true → 1000 * rest ≤ e'.rules.now.since e.rules.now := by
  intro t rest
  have hparts := forall_partsOf Timely hf
  have hsorted := chronological_partsOf htime
  rw [hsplit] at hparts hsorted
  obtain ⟨-, hafter, -⟩ := List.pairwise_append.mp hsorted
  obtain ⟨hlater, htimes⟩ := List.pairwise_cons.mp hafter
  have hstart : Waits e.rules.now rest e.rules.now t.character.passives := by
    have hset : t.character.passives = rescued e.rules.now (arrived s before).character.passives := by
      have hvalue : t = (e.operate (arrived s before) o).value := List.foldl_append
      rw [hvalue]
      exact passives_operate_of_rescues hrescue
    have hcounted := countedTo_rescued e.rules.now (arrived s before).character.passives
    rw [← hset] at hcounted
    exact hcounted.waits (Nat.le_refl _)
  have hfit : ∀ {between x}, between ++ [x] <+: after →
      (∀ y ∈ between ++ [x], Timely y.1) ∧ Chronological (between ++ [x]) ∧
        ∀ y ∈ between ++ [x], e.rules.now ≤ y.1.rules.now := by
    intro between x hp
    refine ⟨fun y hy => ?_, htimes.sublist hp.sublist, fun y hy => hlater y (hp.subset hy)⟩
    exact hparts y (List.mem_append_right _ (List.mem_cons_of_mem _ (hp.subset hy)))
  refine ⟨fun between e' o' hp hquiet hticks => ?_, fun between e' o' hp hagain => ?_⟩
  · obtain ⟨htimely, hchron, hfrom⟩ := hfit hp
    have hwaits := waits_until between htimely hchron hfrom hstart hquiet
    have hlast := htimely (e', o') (List.mem_append_right _ List.mem_cons_self)
    have hle : e.rules.now ≤ e'.rules.now := hfrom (e', o') (List.mem_append_right _ List.mem_cons_self)
    have hvalue : arrived t (between ++ [(e', o')]) = (e'.operate (arrived t between) o').value :=
      List.foldl_append
    rw [hvalue]
    exact (updates_operate (upkeep_waits hle hlast.clock) (hlast.hook.keeps _ _ _) hwaits hticks).cooldown
  · obtain ⟨htimely, hchron, hfrom⟩ := hfit hp
    have hle : e.rules.now.millis + 1000 * rest ≤ e'.rules.now.millis :=
      le_of_rescues between htimely hchron hfrom hstart hagain
    unfold Instant.since
    omega

/-! ## A gifted knight -/

def gifted : Situation Unit Unit where
  wearer :=
    { character := { id := ⟨1⟩, name := "Gifted", passives := ({} : PassiveState).unlock .giftOfLife 3 }
      arena := .empty }
  hook := ()
  rates := ()

/-- The engine of a millisecond. -/
def clockAt (millis : Nat) : Engine Unit Unit := .plain { now := ⟨millis⟩ }

/-- What follows on the rescue: the overlay is brought up to date twice, and Gift of Life saves once more. -/
def respite : Course Unit Unit :=
  [(clockAt 3600, .combatTick false), (clockAt 64801000, .tick 1000),
    (clockAt 64801000, .triggerGiftOfLife 500)]

/-- The gifted is saved after one second. -/
def twoLives : Course Unit Unit := (clockAt 1000, .applyDamage 500) :: respite

theorem timely_twoLives : ∀ x ∈ twoLives, Timely x.1 := by
  intro x hx
  simp only [twoLives, respite, List.mem_cons, List.not_mem_nil, or_false] at hx
  rcases hx with rfl | rfl | rfl | rfl <;> exact ⟨EquipHook.leavesCountdown_idle, by decide⟩

theorem chronological_twoLives : Chronological twoLives := by
  unfold Chronological
  decide

/-- The state after the first rescue. -/
def saved : Situation Unit Unit := arrived gifted [(clockAt 1000, .applyDamage 500)]

/-- Of the eighteen hours two seconds are gone 2.6 seconds later, and eighteen hours lie between the two
rescues. -/
theorem giftOfLife_counts_exactly_twoLives :
    saved.character.passives.giftOfLifeCooldown = 64800 ∧
    (arrived saved [(clockAt 3600, .combatTick false)]).character.passives.giftOfLifeCooldown =
      64800 - (3600 - 1000) / 1000 ∧
    (Operation.triggerGiftOfLife 500).rescues
      (arrived saved [(clockAt 3600, .combatTick false), (clockAt 64801000, .tick 1000)]).character = true ∧
    1000 * saved.character.passives.giftOfLifeCooldown ≤
      (clockAt 64801000).rules.now.since (clockAt 1000).rules.now := by
  have hsplit : partsOf twoLives = [] ++ (clockAt 1000, .applyDamage 500) :: respite := rfl
  have hrescue : (Operation.applyDamage 500).rescues (arrived gifted []).character = true := by decide +kernel
  have hset : saved.character.passives.giftOfLifeCooldown = 64800 := by decide +kernel
  have hagain : (Operation.triggerGiftOfLife 500).rescues
      (arrived saved [(clockAt 3600, .combatTick false), (clockAt 64801000, .tick 1000)]).character = true := by
    decide +kernel
  obtain ⟨hcount, hapart⟩ :=
    giftOfLife_counts_exactly twoLives gifted timely_twoLives chronological_twoLives hsplit hrescue
  have hquiet : NoRescue saved [] := fun early x hp => by simp at hp
  refine ⟨hset, ?_, hagain, ?_⟩
  · rw [← hset]
    exact hcount [] (clockAt 3600) (.combatTick false) ⟨_, rfl⟩ hquiet trivial
  · exact hapart [(clockAt 3600, .combatTick false), (clockAt 64801000, .tick 1000)]
      (clockAt 64801000) (.triggerGiftOfLife 500) ⟨[], rfl⟩ hagain

end Engine

end Adventurer
