import Adventurer.Proofs.Passives.Overlay
import Mathlib.Data.List.Nodup
import Mathlib.Tactic.IntervalCases

/-!
# What evaluations change, and what they say of it

Each major stat is governed by one passive.  An evaluation writes the stats of its passive and no others,
each of them once, and compares before it writes; so what it says is whether a stat differs afterwards.
Since no two passives govern the same stat, evaluations one after the other say the same of them all
together: no later one can take back what an earlier one has said.
-/

namespace Adventurer

/-- The passive that governs a major stat. -/
def MajorStat.governor : MajorStat → Passive
  | .melee | .shield => .battleInstinct
  | .distance | .magic => .positionalTactics
  | .criticalDamage | .physicalDamage | .holyDamage => .ballisticMastery
  | .masteryCriticalDamage | .defense => .combatMastery
  | .damage => .divineEmpowerment

/-- The major stats that a passive governs. -/
def Passive.governs (passive : Passive) : List MajorStat := MajorStat.all.filter (·.governor = passive)

theorem Passive.mem_governs {passive : Passive} {stat : MajorStat} :
    stat ∈ passive.governs ↔ stat.governor = passive := by
  unfold governs
  have hall : stat ∈ MajorStat.all := Enumerated.mem_all stat
  simp [hall]

theorem Passive.nodup_governs (passive : Passive) : passive.governs.Nodup :=
  List.Nodup.filter _ (by decide)

theorem MajorStat.governor_mem_periodic (stat : MajorStat) : stat.governor ∈ Passive.periodic := by
  cases stat <;> decide

/-- Tables of major stats with the same cells are the same. -/
theorem MajorStat.table_ext {α : Type} {t u : Table MajorStat α} (h : ∀ stat, t.get stat = u.get stat) :
    t = u := by
  obtain ⟨cells⟩ := t
  obtain ⟨others⟩ := u
  congr 1
  ext i hi
  have hcell : ∀ stat : MajorStat, i = stat.ctorIdx → cells[i] = others[i] := by
    rintro stat rfl
    exact h stat
  have hlt : i < 10 := hi
  interval_cases i
  · exact hcell .melee rfl
  · exact hcell .shield rfl
  · exact hcell .distance rfl
  · exact hcell .magic rfl
  · exact hcell .criticalDamage rfl
  · exact hcell .masteryCriticalDamage rfl
  · exact hcell .physicalDamage rfl
  · exact hcell .holyDamage rfl
  · exact hcell .defense rfl
  · exact hcell .damage rfl

namespace PassiveState

theorem majorOf_setMajor (p : PassiveState) (stat other : MajorStat) (value : Int) :
    (p.setMajor stat value).majorOf other = if stat = other then value else p.majorOf other :=
  Table.get_set _ _ _ _

theorem majorOf_resetMajors (p : PassiveState) (stat : MajorStat) : p.resetMajors.majorOf stat = 0 :=
  Table.get_replicate _ _

/-- Some cell of the table is not zero exactly if some stat is not. -/
theorem anyMajor_iff {p : PassiveState} : p.anyMajor = true ↔ ∃ stat, p.majorOf stat ≠ 0 := by
  unfold anyMajor Table.toList
  rw [List.any_eq_true]
  constructor
  · rintro ⟨value, hv, hne⟩
    by_contra hnone
    push Not at hnone
    have hzero : p.major = .replicate 0 :=
      MajorStat.table_ext fun stat => (hnone stat).trans (Table.get_replicate _ _).symm
    rw [hzero, Vector.mem_toList_iff] at hv
    obtain rfl := (Vector.mem_replicate.mp hv).2
    simp at hne
  · rintro ⟨stat, hstat⟩
    refine ⟨p.majorOf stat, ?_, by simpa using hstat⟩
    rw [Vector.mem_toList_iff]
    exact Vector.getElem_mem _

end PassiveState

namespace Passives

/-- Of the major stats at most those that are `mine` have changed, and `changed` says whether one has. -/
structure Moves (mine : MajorStat → Prop) (p q : PassiveState) (changed : Bool) : Prop where
  frame : ∀ stat, ¬ mine stat → q.majorOf stat = p.majorOf stat
  report : changed = true ↔ ∃ stat, q.majorOf stat ≠ p.majorOf stat

namespace Moves

variable {mine yours : MajorStat → Prop} {p q r : PassiveState} {b b' : Bool}

theorem mono (h : Moves mine p q b) (hmine : ∀ stat, mine stat → yours stat) : Moves yours p q b :=
  ⟨fun stat hs => h.frame stat fun hm => hs (hmine stat hm), h.report⟩

/-- Where all stats are as they were, nothing has moved. -/
theorem of_eq (h : ∀ stat, q.majorOf stat = p.majorOf stat) : Moves mine p q false :=
  ⟨fun stat _ => h stat, iff_of_false Bool.false_ne_true fun ⟨stat, hs⟩ => hs (h stat)⟩

/-- Changes of different stats, one after the other. -/
theorem trans (h : Moves mine p q b) (h' : Moves yours q r b') (hd : ∀ stat, mine stat → ¬ yours stat) :
    Moves (fun stat => mine stat ∨ yours stat) p r (b || b') where
  frame stat hs := by
    rw [not_or] at hs
    exact (h'.frame stat hs.2).trans (h.frame stat hs.1)
  report := by
    rw [Bool.or_eq_true, h.report, h'.report]
    constructor
    · rintro (⟨stat, hs⟩ | ⟨stat, hs⟩)
      · -- what the first has changed is not written by the second
        have hmine : mine stat := by_contra fun hn => hs (h.frame stat hn)
        exact ⟨stat, by rwa [h'.frame stat (hd stat hmine)]⟩
      · have hyours : yours stat := by_contra fun hn => hs (h'.frame stat hn)
        exact ⟨stat, by rwa [← h.frame stat fun hm => hd stat hm hyours]⟩
    · rintro ⟨stat, hs⟩
      by_cases hq : q.majorOf stat = p.majorOf stat
      · exact .inr ⟨stat, by rwa [hq]⟩
      · exact .inl ⟨stat, hq⟩

/-- What says that nothing has changed is right. -/
theorem major_eq (h : Moves mine p q false) : q.major = p.major := by
  refine MajorStat.table_ext fun stat => ?_
  by_contra hs
  exact Bool.false_ne_true (h.report.mpr ⟨stat, hs⟩)

end Moves

/-! ## Writing -/

theorem moves_writeMajor (p : PassiveState) (stat : MajorStat) (value : Int) :
    Moves (· = stat) p (p.writeMajor stat value).1 (p.writeMajor stat value).2 := by
  unfold PassiveState.writeMajor
  split_ifs with h
  · exact .of_eq fun _ => rfl
  · refine ⟨fun other ho => ?_, iff_of_true rfl ⟨stat, ?_⟩⟩
    · rw [PassiveState.majorOf_setMajor, if_neg (Ne.symm ho)]
    · rw [PassiveState.majorOf_setMajor, if_pos rfl]
      exact Ne.symm h

theorem majorOf_writeMajor_self (p : PassiveState) (stat : MajorStat) (value : Int) :
    (p.writeMajor stat value).1.majorOf stat = value := by
  unfold PassiveState.writeMajor
  split_ifs with h
  · exact h
  · rw [PassiveState.majorOf_setMajor, if_pos rfl]

theorem moves_foldl_writeNext {mine : MajorStat → Prop} {p : PassiveState} :
    ∀ (values : List (MajorStat × Int)) (done : PassiveState × Bool), (values.map Prod.fst).Nodup →
      (∀ stat ∈ values.map Prod.fst, ¬ mine stat) → Moves mine p done.1 done.2 →
      Moves (fun stat => mine stat ∨ stat ∈ values.map Prod.fst) p (values.foldl writeNext done).1
        (values.foldl writeNext done).2
  | [], _, _, _, h => h.mono fun _ hm => .inl hm
  | v :: values, done, hn, hd, h => by
    rw [List.map_cons, List.nodup_cons] at hn
    have hv : ∀ stat, mine stat → ¬ stat = v.1 := by
      rintro stat hm rfl
      exact hd v.1 List.mem_cons_self hm
    have hnext := h.trans (moves_writeMajor done.1 v.1 v.2) hv
    refine (moves_foldl_writeNext values (writeNext done v) hn.2 ?_ hnext).mono ?_
    · rintro stat hs (hm | rfl)
      · exact hd stat (List.mem_cons_of_mem _ hs) hm
      · exact hn.1 hs
    · rintro stat ((hm | rfl) | hs)
      · exact .inl hm
      · exact .inr List.mem_cons_self
      · exact .inr (List.mem_cons_of_mem _ hs)

theorem moves_writeMajors {values : List (MajorStat × Int)} (hn : (values.map Prod.fst).Nodup)
    (p : PassiveState) :
    Moves (· ∈ values.map Prod.fst) p (writeMajors p values).1 (writeMajors p values).2 := by
  have hstart : Moves (fun _ => False) p (p, false).1 (p, false).2 := .of_eq fun _ => rfl
  exact (moves_foldl_writeNext values (p, false) hn (fun _ _ => not_false) hstart).mono
    fun _ hs => hs.resolve_left not_false

theorem Grant.majorOf_note (g : Grant) (p : PassiveState) (stat : MajorStat) :
    (g.note p).majorOf stat = p.majorOf stat := by
  unfold Grant.note
  cases g.nearby <;> rfl

theorem Grant.moves_write {g : Grant} (hn : (g.majors.map Prod.fst).Nodup) (c : Character) :
    Moves (· ∈ g.majors.map Prod.fst) c.passives (g.write c).1.passives (g.write c).2 := by
  have h := moves_writeMajors hn (g.note c.passives)
  refine ⟨fun stat hs => (h.frame stat hs).trans (g.majorOf_note _ stat), h.report.trans ?_⟩
  refine exists_congr fun stat => ?_
  rw [Grant.majorOf_note]
  exact Iff.rfl

/-! ## Evaluating -/

/-- A passive grants each of the stats it governs once, or none of them where it cannot see the world. -/
theorem grant_stats (rules : Rules) (a : Arena) (passive : Passive) (c : Character) :
    (grant rules a passive c).majors.map Prod.fst = [] ∨
      (grant rules a passive c).majors.map Prod.fst = passive.governs := by
  cases passive with
  | battleInstinct =>
    unfold grant battleInstinct
    cases rules.world with
    | none => exact .inl rfl
    | some world => exact .inr rfl
  | positionalTactics =>
    unfold grant positionalTactics
    cases rules.world with
    | none => exact .inl rfl
    | some world => exact .inr rfl
  | ballisticMastery => exact .inr rfl
  | combatMastery => exact .inr rfl
  | divineEmpowerment => exact .inr rfl
  | _ => exact .inl rfl

theorem nodup_grant (rules : Rules) (a : Arena) (passive : Passive) (c : Character) :
    ((grant rules a passive c).majors.map Prod.fst).Nodup := by
  rcases grant_stats rules a passive c with h | h
  · rw [h]
    exact List.nodup_nil
  · rw [h]
    exact passive.nodup_governs

theorem governor_of_mem_grant {rules : Rules} {a : Arena} {passive : Passive} {c : Character}
    {stat : MajorStat} (h : stat ∈ (grant rules a passive c).majors.map Prod.fst) :
    stat.governor = passive := by
  rcases grant_stats rules a passive c with hs | hs
  · rw [hs] at h
    exact absurd h List.not_mem_nil
  · rw [hs] at h
    exact Passive.mem_governs.mp h

theorem moves_evaluate (rules : Rules) (a : Arena) (passive : Passive) (c : Character) :
    Moves (·.governor = passive) c.passives (evaluate rules a passive c).1.passives
      (evaluate rules a passive c).2 :=
  (Grant.moves_write (nodup_grant rules a passive c) c).mono fun _ => governor_of_mem_grant

theorem moves_refreshOne {mine : MajorStat → Prop} {p : PassiveState} (rules : Rules) (a : Arena)
    (force : Bool) {done : Character × Bool} (passive : Passive)
    (hd : ∀ stat, mine stat → stat.governor ≠ passive) (h : Moves mine p done.1.passives done.2) :
    Moves (fun stat => mine stat ∨ stat.governor = passive) p
      (refreshOne rules a force done passive).1.passives (refreshOne rules a force done passive).2 := by
  unfold refreshOne
  simp only
  split_ifs
  · have hone := h.trans (moves_evaluate rules a passive done.1) hd
    exact ⟨hone.frame, hone.report⟩
  · exact h.mono fun _ hm => .inl hm

theorem moves_foldl_refreshOne {p : PassiveState} (rules : Rules) (a : Arena) (force : Bool) :
    ∀ (passives : List Passive) (mine : MajorStat → Prop) (done : Character × Bool), passives.Nodup →
      (∀ stat, mine stat → stat.governor ∉ passives) → Moves mine p done.1.passives done.2 →
      Moves (fun stat => mine stat ∨ stat.governor ∈ passives) p
        (passives.foldl (refreshOne rules a force) done).1.passives
        (passives.foldl (refreshOne rules a force) done).2
  | [], _, _, _, _, h => h.mono fun _ hm => .inl hm
  | passive :: passives, mine, done, hn, hd, h => by
    rw [List.nodup_cons] at hn
    have hone := moves_refreshOne rules a force passive
      (fun stat hm he => hd stat hm (he ▸ List.mem_cons_self)) h
    refine (moves_foldl_refreshOne rules a force passives _ _ hn.2 ?_ hone).mono ?_
    · rintro stat (hm | rfl) hs
      · exact hd stat hm (List.mem_cons_of_mem _ hs)
      · exact hn.1 hs
    · rintro stat ((hm | rfl) | hs)
      · exact .inl hm
      · exact .inr List.mem_cons_self
      · exact .inr (List.mem_cons_of_mem _ hs)

/-- A refresh changes the stats that its passives govern, and says whether one has changed. -/
theorem moves_refresh (rules : Rules) (a : Arena) (force : Bool) {passives : List Passive}
    (hn : passives.Nodup) (c : Character) :
    Moves (·.governor ∈ passives) c.passives (refresh rules a passives force c).1.passives
      (refresh rules a passives force c).2 := by
  have hstart : Moves (fun _ => False) c.passives (c, false).1.passives (c, false).2 := .of_eq fun _ => rfl
  exact (moves_foldl_refreshOne rules a force passives _ (c, false) hn (fun _ h => h.elim) hstart).mono
    fun _ hs => hs.resolve_left not_false

theorem nodup_periodic : Passive.periodic.Nodup := by decide

theorem nodup_inFightPassives : inFightPassives.Nodup := by decide

/-- Dropping all major stats says whether one was there. -/
theorem moves_reset (c : Character) :
    Moves (fun _ => True) c.passives (reset c).1.passives (reset c).2 := by
  refine ⟨fun _ hs => absurd trivial hs, PassiveState.anyMajor_iff.trans ?_⟩
  refine exists_congr fun stat => ?_
  have hzero : (reset c).1.passives.majorOf stat = 0 := c.passives.majorOf_resetMajors stat
  rw [hzero]
  exact ne_comm

end Passives

end Adventurer
