import Adventurer.Proofs.Character.Conditions
import Adventurer.Proofs.Engine.Frame
import Adventurer.Proofs.Standing.Sentence

/-!
# Sentences throughout a run

Only unjustified kills and ticks touch the mark of a red or black skull (`mild_operate`).  So what is left of
such a skull is what the last kill that sentenced to it gave, less the time of all ticks since (`Sentenced`),
and the first tick outside of a fight by which that time has passed takes the skull away.
-/

namespace Adventurer

variable {σ τ : Type}

/-- The reports of the hook leave the mark alone. -/
structure EquipHook.KeepsMark (hook : EquipHook σ) : Prop where
  onEquip : ∀ c id slot s, (hook.onEquip c id slot s).1.mark = c.mark
  onUnequip : ∀ c id slot s, (hook.onUnequip c id slot s).1.mark = c.mark

theorem EquipHook.keepsMark_idle : EquipHook.idle.KeepsMark := ⟨fun _ _ _ _ => rfl, fun _ _ _ _ => rfl⟩

section Frames

variable {c d : Character}

theorem OnlyProgress.mark_eq (h : OnlyProgress c d) : d.mark = c.mark := by
  obtain ⟨_, _, _, _, _, rfl⟩ := h
  rfl

theorem OnlyEquipment.mark_eq (h : OnlyEquipment c d) : d.mark = c.mark := by
  obtain ⟨_, rfl⟩ := h
  rfl

theorem Passives.OnlyPassives.mark_eq (h : Passives.OnlyPassives c d) : d.mark = c.mark := by
  obtain ⟨_, rfl⟩ := h
  rfl

theorem Wearer.mark_refresh (rules : Rules) (w : Wearer) :
    (w.refresh rules).value.character.mark = w.character.mark := by
  obtain ⟨_, _, _, h⟩ := w.character_refresh rules
  rw [h]
  rfl

end Frames

namespace Engine

variable {e : Engine σ τ} {s : Situation σ τ}

/-! ## Single operations -/

theorem mark_answer (hk : e.hook.KeepsMark) (s : Situation σ τ) (call : Call) :
    (e.answer s call).value.character.mark = s.character.mark :=
  answer_induction (P := fun c => c.mark = s.character.mark) (fun _ _ h hc => h.mark_eq.trans hc)
    (fun _ _ h hc => h.mark_eq.trans hc) (fun rules w hw => (w.mark_refresh rules).trans hw)
    (fun c id slot t hc => (hk.onEquip c id slot t).trans hc)
    (fun c id slot t hc => (hk.onUnequip c id slot t).trans hc) rfl call

theorem mark_triggerGiftOfLife (e : Engine σ τ) (s : Situation σ τ) (damage : Nat) :
    (e.triggerGiftOfLife s damage).value.1.character.mark = s.character.mark := by
  have hcharacter : (e.triggerGiftOfLife s damage).value.1.character =
      (Passives.triggerGiftOfLife e.rules s.character damage).value.1 := rfl
  obtain ⟨_, _, h⟩ := Passives.value_triggerGiftOfLife e.rules s.character damage
  rw [hcharacter, h]
  split_ifs <;> rfl

theorem mark_applyDamage (e : Engine σ τ) (s : Situation σ τ) (damage : Nat) :
    (e.applyDamage s damage).value.1.character.mark = s.character.mark :=
  applyDamage_induction (P := fun t => t.character.mark = s.character.mark) damage
    (fun _ => mark_triggerGiftOfLife e s damage) (fun _ _ ht => ht) rfl

theorem mark_enterFight (e : Engine σ τ) (s : Situation σ τ) (pzLock : Bool) :
    (e.enterFight s pzLock).value.character.mark = s.character.mark := by
  have hcharacter : (e.enterFight s pzLock).value.character =
      (Passives.addInFightTicks e.rules s.arena pzLock s.character).value := rfl
  obtain ⟨_, h⟩ := Passives.value_addInFightTicks e.rules s.arena pzLock s.character
  rw [hcharacter, h]
  split_ifs <;> rfl

theorem mark_die (e : Engine σ τ) (s : Situation σ τ) (killer : Option CreatureView) :
    (e.die s killer).value.1.character.mark = s.character.mark := by
  have hcharacter : (e.die s killer).value.1.character =
      (Death.resolve e.rules e.rates s.character killer s.rates).value.1 := rfl
  rw [hcharacter]
  rcases Death.character_resolve e.rules e.rates s.character s.rates killer with
    ⟨-, h⟩ | ⟨d, blessings, hprogress, h⟩
  · rw [h]
    rfl
  · rw [h]
    exact hprogress.mark_eq

/-- The end of a fight takes mild skulls at most. -/
theorem mild_expire (e : Engine σ τ) (c : Character) : Mark.Mild c.mark (e.expire c).value.mark := by
  by_cases ended : .inFight ∈ c.combat.conditions.expired e.rules.now
  · simp only [expire, if_pos ended]
    exact Standing.mild_onFightEnd { c with
      combat := { c.combat with conditions := c.combat.conditions.removeExpired e.rules.now } }
  · simp only [expire, if_neg ended]
    exact .refl _

theorem conditions_expire (e : Engine σ τ) (c : Character) :
    (e.expire c).value.combat.conditions = c.combat.conditions.removeExpired e.rules.now := by
  rw [combat_expire]
  unfold combatLeft
  split_ifs <;> rfl

/-- What has ended is no fight any more, so whether there is one does not change when it goes. -/
theorem isInFight_expire (e : Engine σ τ) (c : Character) :
    (e.expire c).value.isInFight e.rules.now = c.isInFight e.rules.now := by
  unfold Character.isInFight
  rw [conditions_expire, ConditionSet.has_removeExpired]

/-- A tick counts its time off, after the fight has ended if it has. -/
theorem mark_tick (e : Engine σ τ) (s : Situation σ τ) (elapsed : Nat) :
    ∃ m, Mark.Mild s.character.mark m ∧
      (e.tick s elapsed).value.1.character.mark = m.counted elapsed (s.character.isInFight e.rules.now) := by
  have hcharacter : (e.tick s elapsed).value.1.character =
      (Passives.onCombatTick e.rules s.arena false (Standing.checkSkull (e.expire s.character).value elapsed
        ((e.expire s.character).value.isInFight e.rules.now)).value).value.1 := rfl
  refine ⟨(e.expire s.character).value.mark, mild_expire e s.character, ?_⟩
  rw [hcharacter, (Passives.onlyPassives_onCombatTick _ _ false _).mark_eq, Standing.mark_checkSkull,
    isInFight_expire]

/-- What an operation sentences a character to, and for how long. -/
def Operation.sentence? (rules : Rules) (c : Character) : Operation → Option (Skull × Nat)
  | .addUnjustifiedKill target _ => Standing.sentenceFor? rules c target
  | _ => none

/-- The time that an operation counts off. -/
def Operation.elapsed : Operation → Nat
  | .tick elapsed => elapsed
  | _ => 0

/-- An operation that is no tick and sentences to nothing gives and takes mild skulls at most. -/
theorem mild_operate (hk : e.hook.KeepsMark) (s : Situation σ τ) {o : Operation}
    (htick : ∀ elapsed, o ≠ .tick elapsed) (ho : o.sentence? e.rules s.character = none) :
    Mark.Mild s.character.mark (e.operate s o).value.character.mark := by
  cases o with
  | tick elapsed => exact absurd rfl (htick elapsed)
  | addUnjustifiedKill target name =>
    have hnone : Standing.sentenceFor? e.rules s.character target = none := ho
    refine .of_eq ((Standing.mark_addUnjustifiedKill s.character e.rules target name).trans ?_)
    rw [hnone]
    rfl
  | attackPlayer target skull struckFirst =>
    exact Standing.mild_onAttackPlayer s.character e.rules target skull struckFirst
  | retaliation avenger => exact .refl _
  | call call => exact .of_eq (mark_answer hk s call)
  | addExperience amount source announce =>
    exact .of_eq (Progress.onlyProgress_addExperience _ _ _ _ amount source announce).mark_eq
  | removeExperience amount announce =>
    exact .of_eq (Progress.onlyProgress_removeExperience _ _ _ _ amount announce).mark_eq
  | addSkillTries skill count =>
    exact .of_eq (Progress.onlyProgress_addTries _ _ _ _ (.skill skill) count).mark_eq
  | addManaSpent amount => exact .of_eq (Progress.onlyProgress_addTries _ _ _ _ .magicLevel amount).mark_eq
  | addOfflineTries track tries =>
    exact .of_eq (Progress.onlyProgress_addOfflineTries _ _ _ _ track tries).mark_eq
  | blockHit =>
    obtain ⟨_, hblock⟩ := Progress.onlyProgress_onBlockHit e.rules e.rates s.character s.rates s.arena
    exact .of_eq hblock.mark_eq
  | attackBlocked block =>
    obtain ⟨_, _, _, hblock⟩ := Progress.character_onAttackBlocked s.character block
    refine .of_eq ?_
    show (Progress.onAttackBlocked s.character block).mark = s.character.mark
    rw [hblock]
    rfl
  | combatTick force => exact .of_eq (Passives.onlyPassives_onCombatTick _ _ force _).mark_eq
  | enterFight pzLock => exact .of_eq (mark_enterFight e s pzLock)
  | triggerGiftOfLife damage => exact .of_eq (mark_triggerGiftOfLife e s damage)
  | applyDamage damage => exact .of_eq (mark_applyDamage e s damage)
  | die killer => exact .of_eq (mark_die e s killer)

/-- An operation that sentences sets what it sentences to. -/
theorem mark_operate_of_sentence {o : Operation} {skull : Skull} {duration : Nat}
    (h : o.sentence? e.rules s.character = some (skull, duration)) :
    (e.operate s o).value.character.mark = ⟨skull, duration⟩ := by
  cases o with
  | addUnjustifiedKill target name =>
    have hkill : Standing.sentenceFor? e.rules s.character target = some (skull, duration) := h
    show (Standing.addUnjustifiedKill e.rules s.character target name).value.mark = _
    rw [Standing.mark_addUnjustifiedKill, hkill]
    rfl
  | _ => cases h

/-- **What one operation does to a mark.**  It sets what it sentences to; a tick counts its time off; and any
other operation gives and takes mild skulls at most. -/
theorem mark_operate_cases (hk : e.hook.KeepsMark) (s : Situation σ τ) (o : Operation) :
    (∃ skull duration, o.sentence? e.rules s.character = some (skull, duration) ∧
      (e.operate s o).value.character.mark = ⟨skull, duration⟩) ∨
    o.sentence? e.rules s.character = none ∧
      ((∃ elapsed m, o = .tick elapsed ∧ Mark.Mild s.character.mark m ∧
        (e.operate s o).value.character.mark = m.counted elapsed (s.character.isInFight e.rules.now)) ∨
      (∀ elapsed, o ≠ .tick elapsed) ∧
        Mark.Mild s.character.mark (e.operate s o).value.character.mark) := by
  cases ho : o.sentence? e.rules s.character with
  | some given => exact .inl ⟨given.1, given.2, rfl, mark_operate_of_sentence ho⟩
  | none =>
    refine .inr ⟨rfl, ?_⟩
    by_cases htick : ∃ elapsed, o = .tick elapsed
    · obtain ⟨elapsed, rfl⟩ := htick
      obtain ⟨m, hm, htick⟩ := mark_tick e s elapsed
      exact .inl ⟨elapsed, m, rfl, hm, htick⟩
    · rw [not_exists] at htick
      exact .inr ⟨htick, mild_operate hk s htick ho⟩

section Sticky

variable (hk : e.hook.KeepsMark) (hs : s.character.mark.skull.isSticky = true)
include hk hs

/-- A red skull may become a black one by an unjustified kill, and a red or black one may leave in a tick. -/
theorem skull_operate (o : Operation) :
    (e.operate s o).value.character.mark.skull = s.character.mark.skull ∨
    s.character.mark.skull = .red ∧ (e.operate s o).value.character.mark.skull = .black ∧
      (∃ target name, o = .addUnjustifiedKill target name) ∨
    (e.operate s o).value.character.mark.skull = .none ∧ ∃ elapsed, o = .tick elapsed := by
  rcases mark_operate_cases hk s o with
    ⟨skull, duration, hgiven, hmark⟩ | ⟨-, ⟨elapsed, m, rfl, hmild, hmark⟩ | ⟨-, hmild⟩⟩
  · cases o with
    | addUnjustifiedKill target name =>
      obtain ⟨hsticky, hblack⟩ := Standing.isSticky_of_sentenceFor? _ hgiven
      have hred : s.character.mark.skull = .red := (Skull.isSticky_iff.mp hs).resolve_right hblack
      rw [hmark, hred]
      exact (Skull.isSticky_iff.mp hsticky).imp id fun h => .inl ⟨rfl, h, target, name, rfl⟩
    | _ => cases hgiven
  · rw [hmark, hmild.eq_of_sticky hs, Mark.counted]
    split_ifs
    · exact .inr (.inr ⟨rfl, elapsed, rfl⟩)
    · exact .inl rfl
  · exact .inl (hmild.skull (.inl hs))

/-- All but ticks and unjustified kills leave a red or black skull and its time alone. -/
theorem mark_operate_of_sticky {o : Operation} (htick : ∀ elapsed, o ≠ .tick elapsed)
    (hkill : ∀ target name, o ≠ .addUnjustifiedKill target name) :
    (e.operate s o).value.character.mark = s.character.mark := by
  refine (mild_operate hk s htick ?_).eq_of_sticky hs
  cases o with
  | addUnjustifiedKill target name => exact absurd rfl (hkill target name)
  | _ => rfl

omit hk in
/-- A red or black skull leaves in a tick that uses up its time outside of a fight, and in no other. -/
theorem skull_tick_iff (elapsed : Nat) : (e.tick s elapsed).value.1.character.mark.skull = .none ↔
    s.character.isInFight e.rules.now = false ∧ s.character.mark.leftAfter elapsed < 1 := by
  obtain ⟨m, hmild, hmark⟩ := mark_tick e s elapsed
  have hborne : s.character.mark.skull ≠ .none := fun h => by
    rw [h] at hs
    cases hs
  rw [hmark, hmild.eq_of_sticky hs, Mark.counted, hs]
  by_cases hfight : s.character.isInFight e.rules.now <;>
    by_cases hleft : s.character.mark.leftAfter elapsed < 1 <;> simp [hfight, hleft, hborne]

end Sticky

/-! ## Runs -/

/-- The time that a run counts off. -/
def elapsedIn (course : Course σ τ) : Nat := course.foldl (fun time o => time + o.2.elapsed) 0

/-- In a run from `s`, the last operation that sentenced to anything sentenced to this skull and for this long,
and the rest of the run came after it. -/
inductive Sentenced (s : Situation σ τ) : Course σ τ → Skull → Nat → Course σ τ → Prop
  | given {before : Course σ τ} {e : Engine σ τ} {o : Operation} {skull : Skull} {duration : Nat}
      (h : o.sentence? e.rules (arrived s before).character = some (skull, duration)) :
      Sentenced s (before ++ [(e, o)]) skull duration []
  | stays {before since : Course σ τ} {e : Engine σ τ} {o : Operation} {skull : Skull} {duration : Nat}
      (h : Sentenced s before skull duration since)
      (ho : o.sentence? e.rules (arrived s before).character = none) :
      Sentenced s (before ++ [(e, o)]) skull duration (since ++ [(e, o)])

/-- What an engine must be like for sentences to be served in full: the reports of its hook leave the mark
alone, and skulls are borne for numbers of days of thirty-two bits. -/
structure Serves (e : Engine σ τ) : Prop where
  hook : e.hook.KeepsMark
  red : e.rules.config.skulls.redDurationDays ≤ max32
  black : e.rules.config.skulls.blackDurationDays ≤ max32

theorem serves_plain {rules : Rules} (hred : rules.config.skulls.redDurationDays ≤ max32)
    (hblack : rules.config.skulls.blackDurationDays ≤ max32) : Serves (plain rules) :=
  ⟨EquipHook.keepsMark_idle, hred, hblack⟩

/-- Sixty-four bits hold what is left of a sentence. -/
theorem Serves.duration_le (h : Serves e) {c : Character} {o : Operation} {skull : Skull} {duration : Nat}
    (ho : o.sentence? e.rules c = some (skull, duration)) : (duration : Int) ≤ maxInt64 := by
  cases o with
  | addUnjustifiedKill target name =>
    have hred := h.red
    have hblack := h.black
    unfold max32 at hred hblack
    have hkill : Standing.sentenceFor? e.rules c target = some (skull, duration) := ho
    unfold Standing.sentenceFor? Standing.escalation? SkullConfig.redDuration SkullConfig.blackDuration
      dayMillis at hkill
    unfold maxInt64
    simp only at hkill
    split_ifs at hkill <;> obtain ⟨-, rfl⟩ := Prod.mk.inj (Option.some.inj hkill) <;> omega
  | _ => cases ho

theorem arrived_snoc (s : Situation σ τ) (before : Course σ τ) (e : Engine σ τ) (o : Operation) :
    arrived s (before ++ [(e, o)]) = (e.operate (arrived s before) o).value :=
  List.foldl_append

theorem elapsedIn_snoc (course : Course σ τ) (e : Engine σ τ) (o : Operation) :
    elapsedIn (course ++ [(e, o)]) = elapsedIn course + o.elapsed :=
  List.foldl_append

/-- **What is left of a red or black skull.**  What the last sentence gave, less the time since. -/
theorem sentenced_of_sticky (course : Course σ τ) (hserves : ∀ o ∈ course, Serves o.1)
    (hs : s.character.mark.skull.isSticky = false)
    (hsticky : (arrived s course).character.mark.skull.isSticky = true) :
    ∃ duration since, Sentenced s course (arrived s course).character.mark.skull duration since ∧
      (duration : Int) ≤ maxInt64 ∧
      (arrived s course).character.mark.left = ((duration - elapsedIn since : Nat) : Int) := by
  induction course using List.reverseRecOn with
  | nil =>
    rw [show arrived s [] = s from rfl, hs] at hsticky
    cases hsticky
  | append_singleton course last ih =>
    obtain ⟨e, o⟩ := last
    have hfit : Serves e := hserves (e, o) (by simp)
    have hearlier := ih fun o ho => hserves o (List.mem_append_left _ ho)
    rw [arrived_snoc] at hsticky ⊢
    rcases mark_operate_cases hfit.hook (arrived s course) o with
      ⟨skull, duration, hgiven, hmark⟩ | ⟨hnone, ⟨elapsed, m, rfl, hmild, hmark⟩ | ⟨htick, hmild⟩⟩
    · -- the last operation sentenced, whatever skull there was before
      rw [hmark]
      exact ⟨duration, [], .given hgiven, hfit.duration_le hgiven, rfl⟩
    · -- a tick that did not take the skull away: it was there already, with more time left
      rw [hmark] at hsticky ⊢
      have hskull := Mark.skull_counted hsticky
      have hsame := hmild.skull (.inr (hskull ▸ hsticky))
      obtain ⟨duration, since, hsentenced, hle, hleft⟩ := hearlier (hsame ▸ hskull ▸ hsticky)
      refine ⟨duration, since ++ [(e, .tick elapsed)], ?_, hle, ?_⟩
      · rw [hskull, hsame]
        exact hsentenced.stays hnone
      · rw [elapsedIn_snoc, ← Nat.sub_sub]
        refine Mark.leftAfter_eq (hmild.left.trans hleft) ?_
        omega
    · -- neither a sentence nor a tick: a red or black skull was there already, with the same time left
      have hsame := hmild.skull (.inr hsticky)
      obtain ⟨duration, since, hsentenced, hle, hleft⟩ := hearlier (hsame ▸ hsticky)
      refine ⟨duration, since ++ [(e, o)], ?_, hle, ?_⟩
      · rw [hsame]
        exact hsentenced.stays hnone
      · have hzero : o.elapsed = 0 := by
          cases o with
          | tick elapsed => exact absurd rfl (htick elapsed)
          | _ => rfl
        rw [elapsedIn_snoc, hzero, Nat.add_zero, hmild.left, hleft]

/-- No operation makes a time negative. -/
theorem left_nonneg (course : Course σ τ) (hserves : ∀ o ∈ course, Serves o.1) (s : Situation σ τ) :
    0 ≤ (arrived s course).character.mark.left ∨
      (arrived s course).character.mark.left = s.character.mark.left := by
  refine @Run.throughout (Situation σ τ) (Engine σ τ × Operation) advance (fun o => Serves o.1)
    (fun t => 0 ≤ t.character.mark.left ∨ t.character.mark.left = s.character.mark.left)
    (fun t o hfit ht => ?_) course hserves s (.inr rfl) course List.prefix_rfl
  show 0 ≤ (o.1.operate t o.2).value.character.mark.left ∨
    (o.1.operate t o.2).value.character.mark.left = s.character.mark.left
  rcases mark_operate_cases hfit.hook t o.2 with
    ⟨skull, duration, -, hmark⟩ | ⟨-, ⟨elapsed, m, -, -, hmark⟩ | ⟨-, hmild⟩⟩
  · rw [hmark]
    exact .inl (Int.natCast_nonneg duration)
  · rw [hmark]
    exact .inl (m.leftAfter_nonneg elapsed)
  · rw [hmild.left]
    exact ht

/-- **Red and black skulls are served in full.**  Take a run from a state without such a skull, by engines
whose hooks leave the mark alone and whose skulls are borne for numbers of days of thirty-two bits.  No time is
ever negative that was not so at the start.  A red skull changes only to black, by an unjustified kill, or to
none, in a tick, and a black one only to none, in a tick; nothing but ticks and kills touches either or its
time.  What is left of it is what the last sentence gave less the time since; and a tick takes it away exactly
if there is no fight and the time since the last sentence, with its own, comes to that duration. -/
theorem skulls_served_in_full (course : Course σ τ) (s : Situation σ τ)
    (hserves : ∀ o ∈ course, Serves o.1) (hs : s.character.mark.skull.isSticky = false) :
    (∀ before, before <+: course →
      0 ≤ (arrived s before).character.mark.left ∨
        (arrived s before).character.mark.left = s.character.mark.left) ∧
    ∀ before e o, before ++ [(e, o)] <+: course →
      (arrived s before).character.mark.skull.isSticky = true →
      let m := (arrived s before).character.mark
      let m' := (arrived s (before ++ [(e, o)])).character.mark
      (m'.skull = m.skull ∨
        m.skull = .red ∧ m'.skull = .black ∧ (∃ target name, o = .addUnjustifiedKill target name) ∨
        m'.skull = .none ∧ ∃ elapsed, o = .tick elapsed) ∧
      ((∀ elapsed, o ≠ .tick elapsed) → (∀ target name, o ≠ .addUnjustifiedKill target name) → m' = m) ∧
      ∃ duration since, Sentenced s before m.skull duration since ∧
        m.left = ((duration - elapsedIn since : Nat) : Int) ∧
        ∀ elapsed, o = .tick elapsed →
          (m'.skull = .none ↔ (arrived s before).character.isInFight e.rules.now = false ∧
            duration ≤ elapsedIn since + elapsed) := by
  refine ⟨fun before hp => left_nonneg before (fun o ho => hserves o (hp.subset ho)) s, ?_⟩
  intro before e o hp hsticky m m'
  have hbefore : ∀ o ∈ before, Serves o.1 := fun o ho =>
    hserves o (hp.subset (List.mem_append_left _ ho))
  have hk : e.hook.KeepsMark := (hserves (e, o) (hp.subset (by simp))).hook
  have hm' : m' = (e.operate (arrived s before) o).value.character.mark := by
    simp only [m', arrived_snoc]
  obtain ⟨duration, since, hsentenced, hle, hleft⟩ := sentenced_of_sticky before hbefore hs hsticky
  rw [hm']
  refine ⟨skull_operate hk hsticky o, fun htick hkill => mark_operate_of_sticky hk hsticky htick hkill,
    duration, since, hsentenced, hleft, ?_⟩
  rintro elapsed rfl
  have hafter : m.leftAfter elapsed = ((duration - elapsedIn since - elapsed : Nat) : Int) :=
    Mark.leftAfter_eq hleft (by omega)
  show (e.tick (arrived s before) elapsed).value.1.character.mark.skull = .none ↔ _
  rw [skull_tick_iff hsticky elapsed]
  refine and_congr_right fun _ => ?_
  show m.leftAfter elapsed < 1 ↔ _
  rw [hafter]
  omega

/-! ## A day as a murderer -/

/-- An engine under which one kill of a day leads to a red skull. -/
def strict (now : Nat) : Engine Unit Unit :=
  .plain { config := { skulls := { dayKillsToRed := 1 } }, now := ⟨now⟩ }

def murderer : Situation Unit Unit where
  wearer := { character := { id := ⟨1⟩, name := "Murderer" }, arena := .empty }
  hook := ()
  rates := ()

/-- A murder, and a fight shortly before the day is over. -/
def spree : Course Unit Unit :=
  [(strict 0, .addUnjustifiedKill ⟨2⟩ "Victim"), (strict 86390000, .enterFight false),
    (strict 86400000, .tick 86400000)]

/-- The tick at which the fight has run out. -/
def atonement : Course Unit Unit := spree ++ [(strict 86450000, .tick 50000)]

/-- The day ends in a fight, so the skull is borne until the fight has run out. -/
theorem skulls_served_in_full_atonement :
    (∀ o ∈ atonement, Serves o.1) ∧ murderer.character.mark.skull.isSticky = false ∧
      (arrived murderer spree).character.mark = ⟨.red, 0⟩ ∧
      (∃ duration since, Sentenced murderer spree .red duration since ∧ duration ≤ elapsedIn since + 50000) ∧
      (arrived murderer atonement).character.mark = ⟨.none, 0⟩ := by
  have hserves : ∀ o ∈ atonement, Serves o.1 := by
    intro o ho
    simp only [atonement, spree, List.cons_append, List.nil_append, List.mem_cons, List.not_mem_nil,
      or_false] at ho
    rcases ho with rfl | rfl | rfl | rfl <;> exact serves_plain (by decide) (by decide)
  have hred : (arrived murderer spree).character.mark = ⟨.red, 0⟩ := by decide +kernel
  have hnone : (arrived murderer atonement).character.mark = ⟨.none, 0⟩ := by decide +kernel
  obtain ⟨-, hsteps⟩ := skulls_served_in_full atonement murderer hserves rfl
  obtain ⟨-, -, duration, since, hsentenced, -, hleaves⟩ :=
    hsteps spree (strict 86450000) (.tick 50000) List.prefix_rfl (by rw [hred]; rfl)
  rw [hred] at hsentenced
  refine ⟨hserves, rfl, hred, ⟨duration, since, hsentenced, ?_⟩, hnone⟩
  exact ((hleaves 50000 rfl).mp (congrArg Mark.skull hnone)).2

end Engine

end Adventurer
