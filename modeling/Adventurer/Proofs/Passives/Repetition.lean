import Adventurer.Proofs.Passives.Changes

/-!
# A combat tick twice over

What a passive grants hangs on the situation and on its stage, and neither on the major stats nor on the
deadlines that evaluations write.  So once the passives that are due have been evaluated, each of them finds
written what it grants (`Grant.Stands`), and is settled (`Settled`): evaluating it again writes nothing new.
Evaluations of other passives leave that as it is (`Kept`), whence a second tick in the same situation finds
all passives settled and changes nothing but the clock of an idle countdown.
-/

namespace Adventurer.Passives

variable {rules : Rules} {a : Arena} {force again : Bool} {c d : Character} {p q : PassiveState}

/-! ## What is granted stands -/

/-- All that is granted is written already. -/
structure Grant.Stands (g : Grant) (p : PassiveState) : Prop where
  majors : ∀ v ∈ g.majors, p.majorOf v.1 = v.2
  nearby : ∀ n, g.nearby = some n → p.creaturesNearby = n

theorem writeMajor_of_eq {stat : MajorStat} {value : Int} (h : p.majorOf stat = value) :
    p.writeMajor stat value = (p, false) := if_pos h

theorem writeMajors_of_eq : ∀ {values : List (MajorStat × Int)}, (∀ v ∈ values, p.majorOf v.1 = v.2) →
    writeMajors p values = (p, false)
  | [], _ => rfl
  | v :: values, h => by
    have hnext : writeNext (p, false) v = (p, false) := by
      unfold writeNext
      rw [writeMajor_of_eq (h v List.mem_cons_self)]
      rfl
    have hrest := writeMajors_of_eq fun u hu => h u (List.mem_cons_of_mem v hu)
    unfold writeMajors at hrest ⊢
    rw [List.foldl_cons, hnext, hrest]

theorem creaturesNearby_writeMajor (p : PassiveState) (stat : MajorStat) (value : Int) :
    (p.writeMajor stat value).1.creaturesNearby = p.creaturesNearby := by
  unfold PassiveState.writeMajor
  split_ifs <;> rfl

theorem creaturesNearby_foldl_writeNext :
    ∀ (values : List (MajorStat × Int)) (done : PassiveState × Bool),
      (values.foldl writeNext done).1.creaturesNearby = done.1.creaturesNearby
  | [], _ => rfl
  | v :: values, done =>
    (creaturesNearby_foldl_writeNext values (writeNext done v)).trans
      (creaturesNearby_writeMajor done.1 v.1 v.2)

theorem majorOf_foldl_writeNext_of_notMem {stat : MajorStat} :
    ∀ (values : List (MajorStat × Int)) (done : PassiveState × Bool), stat ∉ values.map Prod.fst →
      (values.foldl writeNext done).1.majorOf stat = done.1.majorOf stat
  | [], _, _ => rfl
  | v :: values, done, h => by
    rw [List.map_cons, List.mem_cons, not_or] at h
    rw [List.foldl_cons, majorOf_foldl_writeNext_of_notMem values _ h.2]
    exact (moves_writeMajor done.1 v.1 v.2).frame stat h.1

/-- Of stats written one after the other each has its value at the end if none is written twice. -/
theorem majorOf_foldl_writeNext_of_mem {v : MajorStat × Int} :
    ∀ (values : List (MajorStat × Int)) (done : PassiveState × Bool), (values.map Prod.fst).Nodup →
      v ∈ values → (values.foldl writeNext done).1.majorOf v.1 = v.2
  | [], _, _, h => absurd h List.not_mem_nil
  | u :: values, done, hn, h => by
    rw [List.map_cons, List.nodup_cons] at hn
    rw [List.foldl_cons]
    rcases List.mem_cons.mp h with rfl | h
    · rw [majorOf_foldl_writeNext_of_notMem values _ hn.1]
      exact majorOf_writeMajor_self done.1 v.1 v.2
    · exact majorOf_foldl_writeNext_of_mem values _ hn.2 h

namespace Grant

variable {g : Grant}

theorem note_of_eq (h : ∀ n, g.nearby = some n → p.creaturesNearby = n) : g.note p = p := by
  unfold note
  cases hn : g.nearby with
  | none => rfl
  | some n =>
    rw [← h n hn]
    rfl

/-- What stands is not written again. -/
theorem write_of_stands (h : g.Stands c.passives) : g.write c = (c, false) := by
  unfold write
  rw [note_of_eq h.nearby, writeMajors_of_eq h.majors]

theorem creaturesNearby_write (g : Grant) (c : Character) :
    (g.write c).1.passives.creaturesNearby = (g.note c.passives).creaturesNearby :=
  creaturesNearby_foldl_writeNext g.majors (g.note c.passives, false)

/-- What has been written stands. -/
theorem stands_write (hn : (g.majors.map Prod.fst).Nodup) (c : Character) :
    g.Stands (g.write c).1.passives where
  majors v hv := majorOf_foldl_writeNext_of_mem g.majors (g.note c.passives, false) hn hv
  nearby n hnear := by
    rw [creaturesNearby_write, note, hnear]
    rfl

end Grant

/-! ## What evaluations leave alone -/

/-- The two characters differ at most in the major stats, the deadlines and the number of creatures
counted. -/
def Overlaid (c d : Character) : Prop :=
  ∃ major deadlines creaturesNearby,
    d = { c with passives := { c.passives with major, deadlines, creaturesNearby } }

theorem Overlaid.refl (c : Character) : Overlaid c c := ⟨_, _, _, rfl⟩

theorem Overlaid.trans {e : Character} (h : Overlaid c d) (h' : Overlaid d e) : Overlaid c e := by
  obtain ⟨_, _, _, rfl⟩ := h
  obtain ⟨_, _, _, rfl⟩ := h'
  exact ⟨_, _, _, rfl⟩

theorem writeMajor_writes (p : PassiveState) (stat : MajorStat) (value : Int) :
    ∃ major, (p.writeMajor stat value).1 = { p with major } := by
  unfold PassiveState.writeMajor
  split_ifs
  · exact ⟨p.major, rfl⟩
  · exact ⟨p.major.set stat value, rfl⟩

theorem foldl_writeNext_writes :
    ∀ (values : List (MajorStat × Int)) (done : PassiveState × Bool),
      ∃ major, (values.foldl writeNext done).1 = { done.1 with major }
  | [], done => ⟨done.1.major, rfl⟩
  | v :: values, done => by
    obtain ⟨_, hone⟩ := writeMajor_writes done.1 v.1 v.2
    obtain ⟨major, hrest⟩ := foldl_writeNext_writes values (writeNext done v)
    have hnext : (writeNext done v).1 = (done.1.writeMajor v.1 v.2).1 := rfl
    rw [hnext, hone] at hrest
    exact ⟨major, hrest⟩

/-- An evaluation writes the major stats and the number of creatures counted. -/
theorem evaluate_writes (rules : Rules) (a : Arena) (passive : Passive) (c : Character) :
    ∃ major creaturesNearby, (evaluate rules a passive c).1 =
      { c with passives := { c.passives with major, creaturesNearby } } := by
  obtain ⟨major, hmajor⟩ := foldl_writeNext_writes (grant rules a passive c).majors
    ((grant rules a passive c).note c.passives, false)
  have hvalue : (evaluate rules a passive c).1 = { c with
      passives := { (grant rules a passive c).note c.passives with major } } := by
    rw [← hmajor]
    rfl
  rw [hvalue]
  unfold Grant.note
  cases (grant rules a passive c).nearby with
  | none => exact ⟨major, c.passives.creaturesNearby, rfl⟩
  | some n => exact ⟨major, n, rfl⟩

theorem overlaid_refreshOne (rules : Rules) (a : Arena) (force : Bool) (done : Character × Bool)
    (passive : Passive) : Overlaid done.1 (refreshOne rules a force done passive).1 := by
  unfold refreshOne
  simp only
  split_ifs
  · obtain ⟨_, _, h⟩ := evaluate_writes rules a passive done.1
    rw [h]
    exact ⟨_, _, _, rfl⟩
  · exact .refl done.1

theorem overlaid_refresh (rules : Rules) (a : Arena) (passives : List Passive) (force : Bool)
    (c : Character) : Overlaid c (refresh rules a passives force c).1 :=
  related_foldl_refreshOne Overlaid.refl Overlaid.trans (c, false)
    fun passive _ done => overlaid_refreshOne rules a force done passive

/-- All that a passive is evaluated by, and all that its own evaluation writes, is the same in the second
character. -/
structure Kept (passive : Passive) (c d : Character) : Prop where
  only : OnlyPassives c d
  unlocked : d.passives.unlocked = c.passives.unlocked
  stages : d.passives.stages = c.passives.stages
  deadline : d.passives.deadline passive = c.passives.deadline passive
  major : ∀ stat, stat.governor = passive → d.passives.majorOf stat = c.passives.majorOf stat
  nearby : passive = .battleInstinct → d.passives.creaturesNearby = c.passives.creaturesNearby

namespace Kept

variable {passive : Passive} {e : Character}

theorem refl (passive : Passive) (c : Character) : Kept passive c c :=
  ⟨.refl c, rfl, rfl, rfl, fun _ _ => rfl, fun _ => rfl⟩

theorem trans (h : Kept passive c d) (h' : Kept passive d e) : Kept passive c e where
  only := h.only.trans h'.only
  unlocked := h'.unlocked.trans h.unlocked
  stages := h'.stages.trans h.stages
  deadline := h'.deadline.trans h.deadline
  major stat hs := (h'.major stat hs).trans (h.major stat hs)
  nearby hp := (h'.nearby hp).trans (h.nearby hp)

theorem isDue_eq (h : Kept passive c d) (rules : Rules) (force : Bool) :
    isDue rules force d passive = isDue rules force c passive := by
  unfold isDue PassiveState.isUnlocked
  rw [h.unlocked, h.deadline]

end Kept

/-- What a passive grants hangs on the situation and the stages alone. -/
theorem grant_congr (rules : Rules) (a : Arena) (passive : Passive) (h : OnlyPassives c d)
    (hs : d.passives.stages = c.passives.stages) :
    grant rules a passive d = grant rules a passive c := by
  obtain ⟨q, rfl⟩ := h
  have hstage : ∀ other, q.stage other = c.passives.stage other := by
    intro other
    unfold PassiveState.stage
    rw [← hs]
  cases passive with
  | combatMastery =>
    show combatMastery rules a { c with passives := q } = combatMastery rules a c
    unfold combatMastery
    rw [hstage]
    rfl
  | divineEmpowerment =>
    show divineEmpowerment rules { c with passives := q } = divineEmpowerment rules c
    unfold divineEmpowerment
    rw [hstage]
    rfl
  | _ => rfl

theorem nearby_grant_of_ne (rules : Rules) (a : Arena) (c : Character) {passive : Passive}
    (h : passive ≠ .battleInstinct) : (grant rules a passive c).nearby = none := by
  cases passive with
  | battleInstinct => exact absurd rfl h
  | positionalTactics =>
    unfold grant positionalTactics
    cases rules.world <;> rfl
  | _ => rfl

theorem Kept.stands {passive : Passive} (h : Kept passive c d)
    (hc : (grant rules a passive c).Stands c.passives) :
    (grant rules a passive d).Stands d.passives := by
  rw [grant_congr rules a passive h.only h.stages]
  refine ⟨fun v hv => ?_, fun n hn => ?_⟩
  · have hgov : v.1.governor = passive := governor_of_mem_grant (List.mem_map_of_mem hv)
    rw [h.major v.1 hgov]
    exact hc.majors v hv
  · by_cases hp : passive = .battleInstinct
    · rw [h.nearby hp]
      exact hc.nearby n hn
    · rw [nearby_grant_of_ne rules a c hp] at hn
      exact absurd hn (by simp)

/-- Evaluating one passive leaves all that belongs to another alone. -/
theorem kept_refreshOne (rules : Rules) (a : Arena) (force : Bool) (done : Character × Bool)
    {passive other : Passive} (hne : other ≠ passive) :
    Kept passive done.1 (refreshOne rules a force done other).1 := by
  obtain ⟨major, near, hwrites⟩ := evaluate_writes rules a other done.1
  have hmoves := moves_evaluate rules a other done.1
  have hnear := (grant rules a other done.1).creaturesNearby_write done.1
  unfold refreshOne
  simp only
  split_ifs
  · refine ⟨(onlyPassives_evaluate rules a other done.1).trans ⟨_, rfl⟩, ?_, ?_, ?_, ?_, ?_⟩
    · rw [hwrites]
      rfl
    · rw [hwrites]
      rfl
    · rw [hwrites]
      exact Table.get_set_of_ne _ _ hne
    · intro stat hs
      exact hmoves.frame stat fun ho => hne (ho.symm.trans hs)
    · rintro rfl
      rw [Grant.note, nearby_grant_of_ne rules a done.1 hne] at hnear
      exact hnear
  · exact .refl passive done.1

theorem kept_foldl_refreshOne (rules : Rules) (a : Arena) (force : Bool) {passive : Passive}
    {passives : List Passive} (h : passive ∉ passives) (done : Character × Bool) :
    Kept passive done.1 (passives.foldl (refreshOne rules a force) done).1 := by
  refine related_foldl_refreshOne (Kept.refl passive) Kept.trans done fun other ho done => ?_
  have hne : other ≠ passive := fun he => h (he ▸ ho)
  exact kept_refreshOne rules a force done hne

/-! ## Settled passives -/

/-- If a passive is due, then what it grants stands and its next deadline is set. -/
def Settled (rules : Rules) (a : Arena) (force : Bool) (passive : Passive) (c : Character) : Prop :=
  isDue rules force c passive = true →
    (grant rules a passive c).Stands c.passives ∧
      c.passives.deadline passive = rules.config.nextPassiveDeadline rules.now

theorem Settled.of_kept {passive : Passive} (h : Kept passive c d) (hc : Settled rules a force passive c) :
    Settled rules a force passive d := by
  intro hdue
  rw [h.isDue_eq] at hdue
  obtain ⟨hstands, hdeadline⟩ := hc hdue
  exact ⟨h.stands hstands, h.deadline.trans hdeadline⟩

theorem setDeadline_of_eq {passive : Passive} {time : Instant} (h : p.deadline passive = time) :
    p.setDeadline passive time = p := by
  subst h
  unfold PassiveState.setDeadline PassiveState.deadline
  rw [Table.set_get_self]

theorem mapPassives_of_eq {change : PassiveState → PassiveState} (h : change c.passives = c.passives) :
    c.mapPassives change = c := by
  unfold Character.mapPassives
  rw [h]

/-- A settled passive is not written again. -/
theorem refreshOne_of_settled {passive : Passive} (h : Settled rules a force passive c) (changed : Bool) :
    refreshOne rules a force (c, changed) passive = (c, changed) := by
  unfold refreshOne
  simp only
  split_ifs with hdue
  · obtain ⟨hstands, hdeadline⟩ := h hdue
    have hevaluate : evaluate rules a passive c = (c, false) := Grant.write_of_stands hstands
    rw [hevaluate, Bool.or_false]
    rw [mapPassives_of_eq (setDeadline_of_eq hdeadline)]
  · rfl

theorem foldl_refreshOne_of_settled :
    ∀ {passives : List Passive} (changed : Bool), (∀ passive ∈ passives, Settled rules a force passive c) →
      passives.foldl (refreshOne rules a force) (c, changed) = (c, changed)
  | [], _, _ => rfl
  | passive :: passives, changed, h => by
    rw [List.foldl_cons, refreshOne_of_settled (h passive List.mem_cons_self)]
    exact foldl_refreshOne_of_settled changed fun other ho => h other (List.mem_cons_of_mem _ ho)

/-- Evaluating a passive settles it, also for ticks that evaluate no more than this one does. -/
theorem settled_refreshOne (hagain : force = true ∨ again = false) (done : Character × Bool)
    (passive : Passive) : Settled rules a again passive (refreshOne rules a force done passive).1 := by
  obtain ⟨_, _, hwrites⟩ := evaluate_writes rules a passive done.1
  unfold refreshOne
  simp only
  split_ifs with hdue
  · intro _
    have hgrant : grant rules a passive ((evaluate rules a passive done.1).1.mapPassives
        (·.setDeadline passive (rules.config.nextPassiveDeadline rules.now))) =
        grant rules a passive done.1 := by
      rw [hwrites]
      exact grant_congr rules a passive ⟨_, rfl⟩ rfl
    rw [hgrant]
    have hstands := Grant.stands_write (nodup_grant rules a passive done.1) done.1
    exact ⟨⟨hstands.majors, hstands.nearby⟩, Table.get_set_self _ _ _⟩
  · -- what is not due by `force` is not due by less
    intro hless
    refine absurd ?_ hdue
    unfold isDue at hless ⊢
    rcases hagain with rfl | rfl
    · simp only [Bool.true_or, Bool.and_true]
      exact (Bool.and_eq_true_iff.mp hless).1
    · rw [Bool.false_or] at hless
      rw [Bool.and_eq_true_iff] at hless ⊢
      exact ⟨hless.1, Bool.or_eq_true_iff.mpr (.inr hless.2)⟩

theorem settled_foldl_refreshOne (hagain : force = true ∨ again = false) :
    ∀ (passives : List Passive) (done : Character × Bool), passives.Nodup →
      ∀ passive ∈ passives,
        Settled rules a again passive (passives.foldl (refreshOne rules a force) done).1
  | [], _, _, _, h => absurd h List.not_mem_nil
  | first :: rest, done, hn, passive, h => by
    rw [List.nodup_cons] at hn
    rw [List.foldl_cons]
    rcases List.mem_cons.mp h with rfl | h
    · exact (settled_refreshOne hagain done passive).of_kept
        (kept_foldl_refreshOne rules a force hn.1 _)
    · exact settled_foldl_refreshOne hagain rest _ hn.2 passive h

theorem settled_refresh (hagain : force = true ∨ again = false) {passives : List Passive}
    (hn : passives.Nodup) (c : Character) :
    ∀ passive ∈ passives, Settled rules a again passive (refresh rules a passives force c).1 :=
  settled_foldl_refreshOne hagain passives (c, false) hn

/-! ## The countdown -/

/-- No whole second has gone by since the countdown was brought up to date, if it runs at all. -/
def Counted (now : Instant) (p : PassiveState) : Prop :=
  p.giftOfLifeCooldown = 0 ∨ now.since p.cooldownClock < 1000

theorem counted_tickGiftOfLife (c : Character) {now : Instant} (hnow : now.millis ≤ max64) :
    Counted now (tickGiftOfLife c now).passives := by
  unfold tickGiftOfLife Character.mapPassives
  simp only
  split_ifs with h
  · exact .inl h
  · refine .inr ?_
    unfold Instant.since Instant.later addUpTo
    simp only
    have hseconds := Nat.div_mul_le_self (now.millis - c.passives.cooldownClock.millis) 1000
    omega

/-- With nothing to count, bringing the countdown up to date moves at most its clock. -/
theorem tickGiftOfLife_of_counted {now : Instant} (h : Counted now c.passives) :
    ∃ clock, tickGiftOfLife c now = c.mapPassives ({ · with cooldownClock := clock }) := by
  unfold tickGiftOfLife Character.mapPassives
  simp only
  split_ifs with hzero
  · exact ⟨now, rfl⟩
  · have hseconds : now.since c.passives.cooldownClock / 1000 = 0 :=
      Nat.div_eq_of_lt (h.resolve_left hzero)
    rw [hseconds]
    exact ⟨_, rfl⟩

theorem majorOf_tickGiftOfLife (c : Character) (now : Instant) (stat : MajorStat) :
    (tickGiftOfLife c now).passives.majorOf stat = c.passives.majorOf stat := by
  unfold tickGiftOfLife Character.mapPassives
  simp only
  split_ifs <;> rfl

/-! ## Ticks -/

theorem onCombatTick_eq_resync (rules : Rules) (a : Arena) (force : Bool) (c : Character) :
    onCombatTick rules a force c =
      resync (if rests rules (tickGiftOfLife c rules.now) then reset (tickGiftOfLife c rules.now)
        else refresh rules a Passive.periodic force (tickGiftOfLife c rules.now)) := by
  unfold onCombatTick
  simp only
  split_ifs <;> rfl

theorem value_onCombatTick (rules : Rules) (a : Arena) (force : Bool) (c : Character) :
    (onCombatTick rules a force c).value =
      if rests rules (tickGiftOfLife c rules.now) then reset (tickGiftOfLife c rules.now)
      else refresh rules a Passive.periodic force (tickGiftOfLife c rules.now) := by
  rw [onCombatTick_eq_resync, value_resync]

theorem notices_onCombatTick (rules : Rules) (a : Arena) (force : Bool) (c : Character) :
    (onCombatTick rules a force c).notices =
      if (onCombatTick rules a force c).value.2 then [.skills, .stats] else [] := by
  rw [onCombatTick_eq_resync, notices_resync, value_resync]

/-- What a tick says of itself. -/
theorem moves_onCombatTick (rules : Rules) (a : Arena) (force : Bool) (c : Character) :
    Moves (fun _ => True) c.passives (onCombatTick rules a force c).value.1.passives
      (onCombatTick rules a force c).value.2 := by
  have hcount : Moves (fun _ => False) c.passives (tickGiftOfLife c rules.now).passives false :=
    .of_eq (majorOf_tickGiftOfLife c rules.now)
  rw [value_onCombatTick]
  split_ifs
  · exact (hcount.trans (moves_reset _) fun _ => False.elim).mono fun _ _ => trivial
  · exact (hcount.trans (moves_refresh rules a force nodup_periodic _) fun _ => False.elim).mono
      fun _ _ => trivial

theorem rests_congr (rules : Rules) (h : Overlaid c d) : rests rules d = rests rules c := by
  obtain ⟨_, _, _, rfl⟩ := h
  rfl

theorem Counted.congr {now : Instant} (h : Overlaid c d) (hc : Counted now c.passives) :
    Counted now d.passives := by
  obtain ⟨_, _, _, rfl⟩ := h
  exact hc

theorem overlaid_reset (c : Character) : Overlaid c (reset c).1 := ⟨_, _, _, rfl⟩

theorem reset_of_zero (h : ∀ stat, c.passives.majorOf stat = 0) : reset c = (c, false) := by
  have hmajor : c.passives.resetMajors = c.passives := by
    have htable : c.passives.major = .replicate 0 :=
      MajorStat.table_ext fun stat => (h stat).trans (Table.get_replicate _ _).symm
    unfold PassiveState.resetMajors
    rw [← htable]
  have hnone : c.passives.anyMajor = false := by
    rw [← Bool.not_eq_true, PassiveState.anyMajor_iff]
    rintro ⟨stat, hstat⟩
    exact hstat (h stat)
  unfold reset
  rw [mapPassives_of_eq hmajor, hnone]

theorem kept_setClock (passive : Passive) (c : Character) (clock : Instant) :
    Kept passive c (c.mapPassives ({ · with cooldownClock := clock })) :=
  ⟨⟨_, rfl⟩, rfl, rfl, rfl, fun _ _ => rfl, fun _ => rfl⟩

/-- The overlay has nothing to write: all stats are at zero while it rests, and all passives are settled
while it does not. -/
def AtEase (rules : Rules) (a : Arena) (force : Bool) (c : Character) : Prop :=
  if rests rules c then ∀ stat, c.passives.majorOf stat = 0
  else ∀ passive ∈ Passive.periodic, Settled rules a force passive c

/-- A tick that finds nothing to count and nothing to write moves at most the clock of the countdown. -/
theorem value_onCombatTick_of_atEase (hcount : Counted rules.now c.passives) (h : AtEase rules a force c) :
    ∃ clock, (onCombatTick rules a force c).value =
      (c.mapPassives ({ · with cooldownClock := clock }), false) := by
  obtain ⟨clock, hclock⟩ := tickGiftOfLife_of_counted hcount
  refine ⟨clock, ?_⟩
  rw [value_onCombatTick, hclock]
  have hrests : rests rules (c.mapPassives ({ · with cooldownClock := clock })) = rests rules c := rfl
  rw [hrests]
  unfold AtEase at h
  split_ifs at h ⊢
  · exact reset_of_zero h
  · exact foldl_refreshOne_of_settled false fun passive hp => (h passive hp).of_kept (kept_setClock _ _ _)

/-- A tick does not change whether the overlay rests, once the countdown is up to date. -/
theorem rests_onCombatTick (rules : Rules) (a : Arena) (force : Bool) (c : Character) :
    rests rules (onCombatTick rules a force c).value.1 = rests rules (tickGiftOfLife c rules.now) := by
  rw [value_onCombatTick]
  split_ifs
  · exact rests_congr rules (overlaid_reset _)
  · exact rests_congr rules (overlaid_refresh rules a _ force _)

/-- After a tick the overlay is at ease for every further tick that evaluates no more than this one. -/
theorem atEase_onCombatTick (hagain : force = true ∨ again = false) (c : Character) :
    AtEase rules a again (onCombatTick rules a force c).value.1 := by
  unfold AtEase
  rw [rests_onCombatTick, value_onCombatTick]
  split_ifs
  · exact fun stat => PassiveState.majorOf_resetMajors _ stat
  · exact settled_refresh hagain nodup_periodic _

theorem counted_onCombatTick (rules : Rules) (a : Arena) (force : Bool) (c : Character)
    (hnow : rules.now.millis ≤ max64) :
    Counted rules.now (onCombatTick rules a force c).value.1.passives := by
  have hcount := counted_tickGiftOfLife c hnow
  rw [value_onCombatTick]
  split_ifs
  · exact hcount.congr (overlaid_reset _)
  · exact hcount.congr (overlaid_refresh rules a _ force _)

/-- **Ticks say what they change and settle at once.**  A tick says that it has changed the overlay exactly
if some major stat is another one afterwards, and then the client is told to read skills and stats again,
in this order, and nothing otherwise.  A second tick in the same situation, any after a forced one and an
unforced after an unforced one, says and tells nothing and moves at most the clock of the countdown. -/
theorem onCombatTick_tells_and_settles (rules : Rules) (a : Arena) (force : Bool) (c : Character)
    (hnow : rules.now.millis ≤ max64) :
    ((onCombatTick rules a force c).value.2 = true ↔
      ∃ stat, (onCombatTick rules a force c).value.1.passives.majorOf stat ≠ c.passives.majorOf stat) ∧
    ((onCombatTick rules a force c).notices =
      if (onCombatTick rules a force c).value.2 then [.skills, .stats] else []) ∧
    ∀ again, (force = true ∨ again = false) →
      (onCombatTick rules a again (onCombatTick rules a force c).value.1).notices = [] ∧
      ∃ clock, (onCombatTick rules a again (onCombatTick rules a force c).value.1).value =
        ((onCombatTick rules a force c).value.1.mapPassives ({ · with cooldownClock := clock }), false) := by
  refine ⟨(moves_onCombatTick rules a force c).report, notices_onCombatTick rules a force c, ?_⟩
  intro again hagain
  obtain ⟨clock, hvalue⟩ := value_onCombatTick_of_atEase (counted_onCombatTick rules a force c hnow)
    (atEase_onCombatTick hagain c)
  refine ⟨?_, clock, hvalue⟩
  rw [notices_onCombatTick, hvalue]
  rfl

/-- Empty-handed in a fight that goes on for five seconds. -/
def brawler : Character where
  id := ⟨1⟩
  name := "Brawler"
  combat := { conditions := ⟨[.timed .inFight ⟨5000⟩]⟩ }
  passives := ({} : PassiveState).unlock .combatMastery 1

def oneSecondIn : Rules := { now := ⟨1000⟩ }

/-- The first tick grants the brawler defense and tells the client, and the second does neither. -/
theorem onCombatTick_tells_and_settles_brawler :
    (onCombatTick oneSecondIn .empty false brawler).value.2 = true ∧
    (onCombatTick oneSecondIn .empty false brawler).notices = [.skills, .stats] ∧
    (∃ stat, (onCombatTick oneSecondIn .empty false brawler).value.1.passives.majorOf stat ≠
      brawler.passives.majorOf stat) ∧
    (onCombatTick oneSecondIn .empty false
      (onCombatTick oneSecondIn .empty false brawler).value.1).notices = [] := by
  have hchanged : (onCombatTick oneSecondIn .empty false brawler).value.2 = true := by decide +kernel
  obtain ⟨hreport, htold, hsettled⟩ :=
    onCombatTick_tells_and_settles oneSecondIn .empty false brawler (by decide)
  rw [hchanged] at htold
  exact ⟨hchanged, htold, hreport.mp hchanged, (hsettled false (.inr rfl)).1⟩

end Adventurer.Passives
