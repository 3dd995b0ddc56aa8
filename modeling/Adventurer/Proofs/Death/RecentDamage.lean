import Adventurer.Death.Assessment
import Adventurer.Proofs.Collection.SortedMap
import Mathlib.Algebra.BigOperators.Group.Finset.Basic
import Mathlib.Algebra.GroupWithZero.Nat
import Mathlib.Algebra.Order.BigOperators.Group.Finset
import Mathlib.Data.Nat.ModEq

/-!
# The damage that counts when a death is judged

The record of damage keeps one total and the time of the last hit for each attacker, however often it
struck.  Beside the record stands the log of the blows themselves.  The record says of each attacker what
the log says (`Keeps`), so a death is judged by all remembered blows of the attackers that have struck of
late (`assessed_by_active`).  These are not only the recent blows: who strikes again after a lull has the
old blows counted once more, unless the record was pruned in between.

Sums over attackers are taken in sixty-four bits.  What a larger log tells beyond a smaller one (`excess`)
may therefore be so many whole rounds that the tally does not show it (`Hidden`).
-/

namespace Adventurer

theorem CreatureId.compare_def (a b : CreatureId) : compare a b = compare a.number b.number := by
  change (compare a.number b.number).then .eq = _
  cases compare a.number b.number <;> rfl

instance : Std.TransOrd CreatureId where
  eq_swap {a b} := by
    rw [CreatureId.compare_def, CreatureId.compare_def]
    exact Std.OrientedOrd.eq_swap
  isLE_trans {a b c} := by
    simp only [CreatureId.compare_def]
    exact Std.TransOrd.isLE_trans

instance : Std.LawfulEqOrd CreatureId where
  eq_of_compare {a b} h := by
    rw [CreatureId.compare_def] at h
    exact congrArg CreatureId.mk (Std.LawfulEqOrd.eq_of_compare h)

/-- A hit that a character has taken. -/
structure Blow where
  attacker : CreatureId
  amount : Nat
  time : Instant
  deriving DecidableEq, Repr

/-- What the record of damage hears of a fight. -/
inductive FightEvent where
  | struck (blow : Blow)
  | pruned (time : Instant)
  deriving DecidableEq, Repr

namespace FightEvent

def time : FightEvent → Instant
  | struck blow => blow.time
  | pruned time => time

def blow? : FightEvent → Option Blow
  | struck blow => some blow
  | pruned _ => none

end FightEvent

namespace CombatProfile

/-- Books one event of a fight; what is pruned has not struck for `window` milliseconds. -/
def hear (window : Nat) (p : CombatProfile) : FightEvent → CombatProfile
  | .struck blow => p.recordDamage blow.attacker blow.amount blow.time
  | .pruned time => p.pruneDamage time window

/-- Books the events of a fight. -/
def follow (window : Nat) (p : CombatProfile) (events : List FightEvent) : CombatProfile :=
  events.foldl (hear window) p

theorem follow_concat (window : Nat) (p : CombatProfile) (events : List FightEvent) (e : FightEvent) :
    p.follow window (events ++ [e]) = (p.follow window events).hear window e :=
  List.foldl_concat ..

end CombatProfile

/-- A character after a fight. -/
def Character.afterFight (window : Nat) (c : Character) (events : List FightEvent) : Character :=
  { c with combat := c.combat.follow window events }

/-- What is judged of a fight once its damage is tallied. -/
def DamageTally.verdict (t : DamageTally) (config : GameConfig) (level : Nat)
    (killer : Option CreatureView) : FightAssessment where
  pvpDeath := t.isPvp config killer
  unfairFightReduction :=
    if t.isPvp config killer && level < t.levels then t.reduction config level else 100

namespace Fight

/-! ## Logs of blows -/

section Log

variable (now : Instant) (window : Nat) (log : List Blow) (a : CreatureId)

/-- Whether a blow is at most `window` milliseconds old. -/
def isRecent (b : Blow) : Bool := now.since b.time ≤ window

/-- The recent blows. -/
def recent : List Blow := log.filter (isRecent now window)

/-- The blows of one attacker. -/
def blowsOf : List Blow := log.filter (·.attacker = a)

/-- Whether an attacker has struck of late. -/
def isActive : Bool := (blowsOf log a).any (isRecent now window)

/-- All blows, recent or not, of the attackers that have struck of late. -/
def ofActive : List Blow := log.filter fun b => isActive now window log b.attacker

/-- The sum of an attacker's blows, as far as sixty-four bits hold it. -/
def dealt : Nat := min max64 ((blowsOf log a).map (·.amount)).sum

/-- Who struck. -/
def attackers : Finset CreatureId := (log.map (·.attacker)).toFinset

/-- The damage of a log, that of online players apart, and the sum of the levels of these, as far as
sixty-four bits hold them. -/
def tally (level : CreatureId → Option Nat) : DamageTally where
  byPlayers := wrap max64 (∑ a ∈ attackers log with (level a).isSome, dealt log a)
  byOthers := wrap max64 (∑ a ∈ attackers log with (level a).isNone, dealt log a)
  levels := wrap max64 (∑ a ∈ attackers log, (level a).getD 0)

/-- What the record has to say of an attacker: the sum of its blows and the time of the last. -/
def summary : Option DamageRecord :=
  (blowsOf log a).getLast?.map fun b => ⟨dealt log a, b.time⟩

end Log

/-- What one log tells beyond another of the attackers that `p` picks. -/
def excess (small big : List Blow) (p : CreatureId → Bool) : Nat :=
  ∑ a ∈ attackers big with p a, (dealt big a - dealt small a)

/-- What one log tells beyond another, of the players online and of the others, is so many whole rounds of
sixty-four bits. -/
def Hidden (level : CreatureId → Option Nat) (small big : List Blow) : Prop :=
  max64 + 1 ∣ excess small big (fun a => (level a).isSome) ∧
    max64 + 1 ∣ excess small big fun a => (level a).isNone

instance (level : CreatureId → Option Nat) (small big : List Blow) : Decidable (Hidden level small big) :=
  inferInstanceAs (Decidable (_ ∧ _))

/-- The blows of a fight. -/
def blows (events : List FightEvent) : List Blow := events.filterMap FightEvent.blow?

/-- The log after an event, where pruning takes the blows of attackers without a recent one. -/
def remember (window : Nat) (log : List Blow) : FightEvent → List Blow
  | .struck blow => log ++ [blow]
  | .pruned time => ofActive time window log

/-- The blows of a fight that no pruning has taken. -/
def remembered (window : Nat) (events : List FightEvent) : List Blow :=
  events.foldl (remember window) []

/-- Whether the events are told in the order of their times, up to `now`. -/
def InOrder (events : List FightEvent) (now : Instant) : Prop :=
  (events.map FightEvent.time ++ [now]).Pairwise (· ≤ ·)

instance (events : List FightEvent) (now : Instant) : Decidable (InOrder events now) :=
  inferInstanceAs (Decidable (List.Pairwise _ _))

variable {now t : Instant} {window : Nat} {log small big : List Blow} {a : CreatureId} {b : Blow}
  {events : List FightEvent} {e : FightEvent}

theorem remembered_concat (window : Nat) (events : List FightEvent) (e : FightEvent) :
    remembered window (events ++ [e]) = remember window (remembered window events) e :=
  List.foldl_concat ..

theorem blows_concat (events : List FightEvent) (e : FightEvent) :
    blows (events ++ [e]) = blows events ++ e.blow?.toList := by
  cases e <;> simp [blows, FightEvent.blow?]

theorem mem_attackers : a ∈ attackers log ↔ ∃ b ∈ log, b.attacker = a := by simp [attackers]

theorem mem_blowsOf : b ∈ blowsOf log a ↔ b ∈ log ∧ b.attacker = a := by simp [blowsOf]

theorem isRecent_iff : isRecent now window b = true ↔ now.millis - b.time.millis ≤ window := by
  simp [isRecent, Instant.since]

theorem isActive_iff : isActive now window log a = true ↔
    ∃ b ∈ log, b.attacker = a ∧ isRecent now window b = true := by
  simp only [isActive, List.any_eq_true, mem_blowsOf, and_assoc]

theorem isActive_iff_mem : isActive now window log a = true ↔ a ∈ attackers (recent now window log) := by
  simp only [isActive_iff, mem_attackers, recent, List.mem_filter, and_assoc]
  exact exists_congr fun b => and_congr_right fun _ => and_comm

theorem blowsOf_concat (log : List Blow) (b : Blow) (a : CreatureId) :
    blowsOf (log ++ [b]) a = blowsOf log a ++ if b.attacker = a then [b] else [] := by
  by_cases h : b.attacker = a <;> simp [blowsOf, h]

theorem blowsOf_ofActive (now : Instant) (window : Nat) (log : List Blow) (a : CreatureId) :
    blowsOf (ofActive now window log) a = if isActive now window log a then blowsOf log a else [] := by
  unfold blowsOf ofActive
  rw [List.filter_filter]
  split_ifs with active
  · refine List.filter_congr fun b _ => ?_
    by_cases h : b.attacker = a <;> simp [h, active]
  · refine List.filter_eq_nil_iff.mpr fun b _ hb => ?_
    obtain ⟨h, hactive⟩ := Bool.and_eq_true_iff.mp hb
    rw [of_decide_eq_true h] at hactive
    exact active hactive

/-- A blow more is added to its attacker's sum, which stays at the largest number it can reach. -/
theorem dealt_concat_self (log : List Blow) (b : Blow) :
    dealt (log ++ [b]) b.attacker = addUpTo max64 (dealt log b.attacker) b.amount := by
  unfold dealt addUpTo
  rw [blowsOf_concat, if_pos rfl, List.map_append, List.sum_append]
  simp only [List.map_cons, List.map_nil, List.sum_cons, List.sum_nil]
  omega

theorem dealt_congr (h : blowsOf small a = blowsOf big a) : dealt small a = dealt big a := by
  unfold dealt
  rw [h]

theorem dealt_le_of_sublist (h : small.Sublist big) (a : CreatureId) : dealt small a ≤ dealt big a := by
  have hsum : ((blowsOf small a).map (·.amount)).sum ≤ ((blowsOf big a).map (·.amount)).sum :=
    ((h.filter _).map _).sum_le_sum fun _ _ => Nat.zero_le _
  unfold dealt
  omega

/-! ## The record and the log -/

/-- The record of damage says of each attacker what the log says, and the log is in the order of time. -/
structure Keeps (m : SortedMap CreatureId DamageRecord) (log : List Blow) : Prop where
  sorted : m.Sorted
  ordered : log.Pairwise fun b b' => b.time ≤ b'.time
  find : ∀ a, m.find? a = summary log a

theorem keeps_empty : Keeps .empty [] := ⟨SortedMap.sorted_empty, .nil, fun _ => rfl⟩

/-- In a log in order the last blow of an attacker tells whether any is recent. -/
theorem isActive_eq_getLast? (now : Instant) (window : Nat) (a : CreatureId)
    (ordered : log.Pairwise fun b b' => b.time ≤ b'.time) :
    isActive now window log a = (blowsOf log a).getLast?.any (isRecent now window) := by
  have hordered : (blowsOf log a).Pairwise fun b b' => b.time ≤ b'.time := ordered.filter _
  unfold isActive
  generalize blowsOf log a = own at hordered
  rcases List.eq_nil_or_concat own with rfl | ⟨init, last, rfl⟩
  · rfl
  · simp only [List.concat_eq_append, List.getLast?_append, List.getLast?_singleton, Option.some_or,
      Option.any_some, List.any_append, List.any_cons, List.any_nil, Bool.or_false, Bool.or_eq_right_iff_imp,
      List.any_eq_true]
    rintro ⟨b, hb, hrecent⟩
    have hle : b.time.millis ≤ last.time.millis :=
      (List.pairwise_append.mp (by simpa using hordered)).2.2 b hb last (by simp)
    rw [isRecent_iff] at hrecent ⊢
    omega

/-- Pruning the record is pruning the log. -/
theorem Keeps.prune {m : SortedMap CreatureId DamageRecord} (h : Keeps m log) (t : Instant)
    (window : Nat) :
    Keeps (m.filter fun _ record => t.since record.lastHit ≤ window) (ofActive t window log) where
  sorted := h.sorted.filter _
  ordered := h.ordered.filter _
  find a := by
    have hactive := isActive_eq_getLast? t window a h.ordered
    rw [h.sorted.find?_filter, h.find a]
    unfold summary
    have hown := blowsOf_ofActive t window log a
    cases hlast : (blowsOf log a).getLast? with
    | none =>
      rw [hlast] at hactive
      rw [hown, if_neg (by simp [hactive])]
      rfl
    | some last =>
      rw [hlast] at hactive
      change isActive t window log a = decide (t.since last.time ≤ window) at hactive
      by_cases old : t.since last.time ≤ window
      · rw [decide_eq_true old] at hactive
        rw [if_pos hactive] at hown
        rw [dealt_congr hown, hown, hlast]
        simp [Option.filter, old]
      · rw [decide_eq_false old] at hactive
        rw [hown, hactive]
        simp [Option.filter, old]

/-- Recording a blow is adding it to the log. -/
theorem Keeps.record {p : CombatProfile} (h : Keeps p.damage log) (late : ∀ b' ∈ log, b'.time ≤ b.time) :
    Keeps (p.recordDamage b.attacker b.amount b.time).damage (log ++ [b]) where
  sorted := h.sorted.insert _ _
  ordered := List.pairwise_append.mpr
    ⟨h.ordered, List.pairwise_singleton _ _, fun b' hb' _ hb => List.mem_singleton.mp hb ▸ late b' hb'⟩
  find a := by
    have hdealt : ((p.damage.find? b.attacker).map (·.total)).getD 0 = dealt log b.attacker := by
      rw [h.find, summary]
      cases hlast : (blowsOf log b.attacker).getLast? with
      | none => simp [dealt, List.getLast?_eq_none_iff.mp hlast]
      | some last => rfl
    simp only [CombatProfile.recordDamage, SortedMap.find?_insert, hdealt]
    split_ifs with same
    · subst same
      rw [← dealt_concat_self]
      simp [summary, blowsOf_concat]
    · have hown : blowsOf (log ++ [b]) a = blowsOf log a := by
        rw [blowsOf_concat, if_neg same, List.append_nil]
      rw [h.find, summary, summary, hown, dealt_congr hown]

/-- What one event preserves. -/
theorem Keeps.hear {p : CombatProfile} (h : Keeps p.damage log) (late : ∀ b ∈ log, b.time ≤ e.time) :
    Keeps (p.hear window e).damage (remember window log e) := by
  cases e with
  | struck b => exact h.record late
  | pruned t => exact h.prune t window

/-! ## Fights in order -/

theorem InOrder.before (h : InOrder (events ++ [e]) now) : InOrder events e.time := by
  unfold InOrder at h ⊢
  rw [List.map_append] at h
  exact (List.pairwise_append.mp h).1

theorem InOrder.le (h : InOrder events now) (he : e ∈ events) : e.time ≤ now :=
  (List.pairwise_append.mp h).2.2 _ (List.mem_map_of_mem he) now (List.mem_singleton_self _)

theorem InOrder.weaken (h : InOrder (events ++ [e]) now) : InOrder events now :=
  h.sublist (((List.sublist_append_left _ _).map _).append_right _)

/-- Blows alone come in the order in which they came among the other events. -/
theorem InOrder.onlyBlows (h : InOrder events now) : InOrder ((blows events).map .struck) now := by
  refine List.Pairwise.sublist (List.Sublist.append_right ?_ _) h
  clear h
  induction events with
  | nil => exact .slnil
  | cons e rest ih =>
    cases e with
    | struck b => exact ih.cons_cons _
    | pruned t => exact ih.cons _

theorem mem_blows : b ∈ blows events ↔ .struck b ∈ events := by
  unfold blows
  rw [List.mem_filterMap]
  constructor
  · rintro ⟨e, he, hb⟩
    cases e with
    | struck b' =>
      obtain rfl : b' = b := Option.some.inj hb
      exact he
    | pruned t => cases hb
  · exact fun h => ⟨_, h, rfl⟩

/-- No blow is remembered that was not dealt. -/
theorem sublist_remembered (window : Nat) (events : List FightEvent) :
    (remembered window events).Sublist (blows events) := by
  induction events using List.reverseRecOn with
  | nil => exact .slnil
  | append_singleton events e ih =>
    rw [remembered_concat, blows_concat]
    cases e with
    | struck b => exact ih.append_right _
    | pruned t =>
      simp only [FightEvent.blow?, Option.toList_none, List.append_nil]
      exact List.filter_sublist.trans ih

/-- The record after a fight says what the remembered blows say. -/
theorem keeps_follow {p : CombatProfile} (fresh : p.damage = .empty) (h : InOrder events now) :
    Keeps (p.follow window events).damage (remembered window events) := by
  induction events using List.reverseRecOn generalizing now with
  | nil => exact fresh ▸ keeps_empty
  | append_singleton events e ih =>
    rw [remembered_concat, CombatProfile.follow_concat]
    refine (ih h.weaken).hear fun b hb => ?_
    exact h.before.le (mem_blows.mp ((sublist_remembered window events).subset hb))

/-- A blow that is recent now was more so when the log was pruned. -/
theorem recent_ofActive (h : t.millis ≤ now.millis) :
    recent now window (ofActive t window log) = recent now window log := by
  unfold recent ofActive
  rw [List.filter_filter]
  refine List.filter_congr fun b hb => ?_
  simp only [Bool.and_eq_left_iff_imp]
  intro hrecent
  refine isActive_iff.mpr ⟨b, hb, rfl, ?_⟩
  rw [isRecent_iff] at hrecent ⊢
  omega

/-- No pruning takes a blow that is recent at a later time. -/
theorem recent_remembered (window : Nat) (h : InOrder events now) :
    recent now window (remembered window events) = recent now window (blows events) := by
  induction events using List.reverseRecOn with
  | nil => rfl
  | append_singleton events e ih =>
    rw [remembered_concat, blows_concat]
    have hbefore := ih h.weaken
    cases e with
    | struck b =>
      simp only [remember, FightEvent.blow?, Option.toList_some, recent, List.filter_append] at hbefore ⊢
      rw [hbefore]
    | pruned t =>
      have htime : t.millis ≤ now.millis := h.le (List.mem_append_right _ (List.mem_singleton_self _))
      simp only [remember, FightEvent.blow?, Option.toList_none, List.append_nil]
      rw [← hbefore]
      exact recent_ofActive htime

/-- Who has struck of late has a recent blow. -/
theorem attackers_ofActive (now : Instant) (window : Nat) (log : List Blow) :
    attackers (ofActive now window log) = attackers (recent now window log) := by
  ext a
  rw [← isActive_iff_mem, mem_attackers]
  constructor
  · rintro ⟨b, hb, rfl⟩
    exact (List.mem_filter.mp hb).2
  · intro hactive
    obtain ⟨b, hb, rfl, -⟩ := isActive_iff.mp hactive
    exact ⟨b, List.mem_filter.mpr ⟨hb, hactive⟩, rfl⟩

theorem ofActive_sublist_ofActive (h : small.Sublist big)
    (same : recent now window small = recent now window big) :
    (ofActive now window small).Sublist (ofActive now window big) := by
  have hactive : isActive now window small = isActive now window big := by
    funext a
    rw [Bool.eq_iff_iff, isActive_iff_mem, isActive_iff_mem, same]
  unfold ofActive
  rw [hactive]
  exact h.filter _

theorem recent_sublist_ofActive (now : Instant) (window : Nat) (log : List Blow) :
    (recent now window log).Sublist (ofActive now window log) := by
  rw [← recent_ofActive le_rfl]
  exact List.filter_sublist

/-! ## Tallies -/

theorem foldl_add (level : CreatureId → Option Nat) (l : List (CreatureId × DamageRecord)) :
    l.foldl (fun (tally : DamageTally) e => tally.add e.2.total (level e.1)) {} =
      { byPlayers := wrap max64 ((l.filter fun e => (level e.1).isSome).map (·.2.total)).sum
        byOthers := wrap max64 ((l.filter fun e => (level e.1).isNone).map (·.2.total)).sum
        levels := wrap max64 (l.map fun e => (level e.1).getD 0).sum } := by
  induction l using List.reverseRecOn with
  | nil => rfl
  | append_singleton l e ih =>
    rw [List.foldl_concat, ih]
    cases h : level e.1 <;> simp [DamageTally.add, h, List.filter_append, wrap_wrap_add]

section Record

variable {m : SortedMap CreatureId DamageRecord} (h : Keeps m log)

include h

theorem Keeps.toFinset_keys : m.keys.toFinset = attackers log := by
  ext a
  have hfound : a ∈ m.keys ↔ (m.find? a).isSome := by
    simp only [SortedMap.keys, List.mem_map, Option.isSome_iff_exists, h.sorted.find?_eq_some]
    exact ⟨fun ⟨e, he, ha⟩ => ⟨e.2, ha ▸ he⟩, fun ⟨record, he⟩ => ⟨_, he, rfl⟩⟩
  rw [List.mem_toFinset, hfound, h.find, summary, Option.isSome_map, List.getLast?_isSome, mem_attackers,
    ne_eq, List.eq_nil_iff_forall_not_mem]
  simp [mem_blowsOf]

theorem Keeps.total_eq {entry : CreatureId × DamageRecord} (he : entry ∈ m.entries) :
    entry.2.total = dealt log entry.1 := by
  have hfind := h.find entry.1
  rw [h.sorted.find?_eq_some.mpr he] at hfind
  obtain ⟨last, -, hrecord⟩ := Option.map_eq_some_iff.mp hfind.symm
  rw [← hrecord]

/-- The totals of some of the attackers are what the log tells of them. -/
theorem Keeps.sum_totals (p : CreatureId → Bool) :
    ((m.entries.filter fun e => p e.1).map (·.2.total)).sum = ∑ a ∈ attackers log with p a, dealt log a := by
  have hnodup : (m.keys.filter p).Nodup := h.sorted.nodup_keys.filter p
  calc ((m.entries.filter fun e => p e.1).map (·.2.total)).sum
      = ((m.entries.filter fun e => p e.1).map fun e => dealt log e.1).sum := by
        rw [List.map_congr_left fun e he => h.total_eq (List.mem_of_mem_filter he)]
    _ = ((m.keys.filter p).map (dealt log)).sum := by
        rw [SortedMap.keys, List.filter_map, List.map_map]
        rfl
    _ = ∑ a ∈ attackers log with p a, dealt log a := by
        rw [← List.sum_toFinset _ hnodup, List.toFinset_filter, h.toFinset_keys]

/-- The record tallies as its log does. -/
theorem Keeps.foldl_add (level : CreatureId → Option Nat) :
    m.entries.foldl (fun tally e => tally.add e.2.total (level e.1)) {} = tally log level := by
  have hlevels : (m.entries.map fun e => (level e.1).getD 0).sum =
      ∑ a ∈ attackers log, (level a).getD 0 := by
    rw [← h.toFinset_keys, List.sum_toFinset _ h.sorted.nodup_keys, SortedMap.keys, List.map_map]
    rfl
  rw [Fight.foldl_add, h.sum_totals fun a => (level a).isSome, h.sum_totals fun a => (level a).isNone,
    hlevels]
  rfl

end Record

section Comparison

variable {p : CreatureId → Bool} (hle : ∀ a, dealt small a ≤ dealt big a)
include hle

/-- The larger sum is the smaller one and the excess. -/
theorem sum_dealt_eq_add :
    ∑ a ∈ attackers big with p a, dealt big a =
      (∑ a ∈ attackers big with p a, dealt small a) + excess small big p := by
  unfold excess
  rw [← Finset.sum_add_distrib]
  exact Finset.sum_congr rfl fun a _ => (Nat.add_sub_of_le (hle a)).symm

/-- Sums agree in sixty-four bits just when the excess is so many whole rounds. -/
theorem wrap_sum_dealt_eq_iff :
    wrap max64 (∑ a ∈ attackers big with p a, dealt small a) =
        wrap max64 (∑ a ∈ attackers big with p a, dealt big a) ↔
      max64 + 1 ∣ excess small big p := by
  rw [sum_dealt_eq_add hle]
  have hround := Nat.modEq_iff_dvd' (n := max64 + 1)
    (Nat.le_add_right (∑ a ∈ attackers big with p a, dealt small a) (excess small big p))
  rwa [Nat.add_sub_cancel_left] at hround

/-- Two logs of the same attackers, one telling at most as much damage as the other of each, tally alike
just when what the larger tells beyond the smaller is hidden. -/
theorem tally_eq_tally_iff (level : CreatureId → Option Nat) (same : attackers small = attackers big) :
    tally small level = tally big level ↔ Hidden level small big := by
  unfold tally Hidden
  rw [same, DamageTally.mk.injEq, wrap_sum_dealt_eq_iff hle, wrap_sum_dealt_eq_iff hle]
  simp only [and_true]

/-- An excess below a round is hidden only if there is none. -/
theorem dvd_excess_iff (hfit : ∑ a ∈ attackers big, dealt big a ≤ max64) :
    max64 + 1 ∣ excess small big p ↔ ∀ a ∈ attackers big, p a = true → dealt small a = dealt big a := by
  have hbound : excess small big p ≤ max64 := by
    refine le_trans ?_ ((Finset.sum_le_sum_of_subset (Finset.filter_subset (fun a => p a) _)).trans hfit)
    exact Finset.sum_le_sum fun a _ => Nat.sub_le _ _
  have hzero : max64 + 1 ∣ excess small big p ↔ excess small big p = 0 :=
    ⟨fun h => Nat.eq_zero_of_dvd_of_lt h (Nat.lt_succ_of_le hbound), fun h => h ▸ Nat.dvd_zero _⟩
  rw [hzero, excess, Finset.sum_eq_zero_iff]
  simp only [Finset.mem_filter, and_imp]
  refine forall₃_congr fun a _ _ => ?_
  have := hle a
  omega

/-- Where sixty-four bits hold all that was dealt, only an equal tale of every attacker is hidden. -/
theorem hidden_iff_of_le (level : CreatureId → Option Nat)
    (hfit : ∑ a ∈ attackers big, dealt big a ≤ max64) :
    Hidden level small big ↔ ∀ a ∈ attackers big, dealt small a = dealt big a := by
  unfold Hidden
  rw [dvd_excess_iff hle hfit, dvd_excess_iff hle hfit]
  constructor
  · rintro ⟨hplayers, hothers⟩ a ha
    cases hlevel : level a with
    | some n => exact hplayers a ha (by simp [hlevel])
    | none => exact hothers a ha (by simp [hlevel])
  · exact fun hall => ⟨fun a ha _ => hall a ha, fun a ha _ => hall a ha⟩

end Comparison

/-! ## The judgement -/

/-- Blows alone are all remembered. -/
theorem remembered_blows (window : Nat) (log : List Blow) : remembered window (log.map .struck) = log := by
  induction log using List.reverseRecOn with
  | nil => rfl
  | append_singleton log b ih => rw [List.map_append, List.map_singleton, remembered_concat, ih, remember]

/-- The levels of the players online. -/
def playerLevel (rules : Rules) (a : CreatureId) : Option Nat :=
  rules.world.bind fun world => world.playerLevel a

/-- A death tallies the remembered blows of the attackers that have struck of late. -/
theorem damageTally_afterFight {rules : Rules} {c : Character} (fresh : c.combat.damage = .empty)
    (ordered : InOrder events rules.now) :
    let window := rules.config.inFightWindowMillis
    (c.afterFight window events).damageTally rules =
      tally (ofActive rules.now window (remembered window events)) (playerLevel rules) :=
  ((keeps_follow fresh ordered).prune rules.now _).foldl_add (playerLevel rules)

/-- **Whose damage decides a death.**  After any fight told in order a death is judged by all remembered
blows of the attackers with a blow in the window.  This is the tally of the recent blows alone exactly
when what the attackers' older remembered blows add is hidden; and pruning leaves the tally alone exactly
when what it took from those who struck again is hidden.  Where sixty-four bits hold all that the active
attackers dealt, hidden means that there is nothing: no attacker has older blows that are still remembered
and count for something, and pruning took nothing from those who struck again. -/
theorem assessed_by_active (rules : Rules) (c : Character) (killer : Option CreatureView)
    (events : List FightEvent) (fresh : c.combat.damage = .empty) (ordered : InOrder events rules.now) :
    let window := rules.config.inFightWindowMillis
    let level := playerLevel rules
    let fought := c.afterFight window events
    let unpruned := c.afterFight window ((blows events).map .struck)
    let late := recent rules.now window (blows events)
    let counted := ofActive rules.now window (remembered window events)
    let dealtByActive := ofActive rules.now window (blows events)
    fought.assessFight rules killer = (tally counted level).verdict rules.config c.level killer ∧
      (fought.damageTally rules = tally late level ↔ Hidden level late counted) ∧
      (fought.damageTally rules = unpruned.damageTally rules ↔ Hidden level counted dealtByActive) ∧
      (∑ a ∈ attackers late, dealt dealtByActive a ≤ max64 →
        (Hidden level late counted ↔ ∀ a ∈ attackers late, dealt late a = dealt counted a) ∧
        (Hidden level counted dealtByActive ↔
          ∀ a ∈ attackers late, dealt counted a = dealt dealtByActive a)) := by
  intro window level fought unpruned late counted dealtByActive
  have hfought : fought.damageTally rules = tally counted level := damageTally_afterFight fresh ordered
  have hunpruned : unpruned.damageTally rules = tally dealtByActive level := by
    have h : unpruned.damageTally rules =
        tally (ofActive rules.now window (remembered window ((blows events).map .struck))) level :=
      damageTally_afterFight fresh ordered.onlyBlows
    rwa [remembered_blows] at h
  have hlate : late = recent rules.now window (remembered window events) :=
    (recent_remembered window ordered).symm
  have hcounted : attackers counted = attackers late := by rw [hlate, attackers_ofActive]
  have hactive : attackers dealtByActive = attackers late := attackers_ofActive ..
  have holder : ∀ a, dealt late a ≤ dealt counted a := by
    rw [hlate]
    exact dealt_le_of_sublist (recent_sublist_ofActive ..)
  have hkept : ∀ a, dealt counted a ≤ dealt dealtByActive a :=
    dealt_le_of_sublist (ofActive_sublist_ofActive (sublist_remembered window events) hlate.symm)
  refine ⟨?_, ?_, ?_, fun hfit => ⟨?_, ?_⟩⟩
  · rw [← hfought]
    rfl
  · rw [hfought, eq_comm]
    exact tally_eq_tally_iff holder level hcounted.symm
  · rw [hfought, hunpruned]
    exact tally_eq_tally_iff hkept level (hcounted.trans hactive.symm)
  · rw [← hcounted] at hfit ⊢
    exact hidden_iff_of_le holder level ((Finset.sum_le_sum fun a _ => hkept a).trans hfit)
  · rw [← hactive] at hfit ⊢
    exact hidden_iff_of_le hkept level hfit

/-! ## An ambush -/

/-- A world in which the creature numbered 20 is a player of level 300. -/
def ambushRules : Rules where
  world := some ⟨fun _ => none, fun _ _ => 0, fun _ => .normal,
    fun a => if a = ⟨20⟩ then some 300 else none⟩
  now := ⟨400000⟩

/-- A player strikes hard, and more than five minutes later once again, lightly, while a monster does more. -/
def ambush : List FightEvent :=
  [.struck ⟨⟨20⟩, 1000, ⟨0⟩⟩, .struck ⟨⟨20⟩, 1, ⟨400000⟩⟩, .struck ⟨⟨500⟩, 10, ⟨400000⟩⟩]

/-- The same fight with the record pruned during the lull. -/
def prunedAmbush : List FightEvent :=
  [.struck ⟨⟨20⟩, 1000, ⟨0⟩⟩, .pruned ⟨350000⟩, .struck ⟨⟨20⟩, 1, ⟨400000⟩⟩,
    .struck ⟨⟨500⟩, 10, ⟨400000⟩⟩]

def ambushed : Character := { id := ⟨1⟩, name := "Knight" }

/-- The recent blows of the ambush are tallied alone if the record was pruned, and not otherwise. -/
theorem assessed_by_active_ambush :
    let window := ambushRules.config.inFightWindowMillis
    let late := tally (recent ambushRules.now window (blows ambush)) (playerLevel ambushRules)
    (ambushed.afterFight window prunedAmbush).damageTally ambushRules = late ∧
      (ambushed.afterFight window ambush).damageTally ambushRules ≠ late := by
  have hpruned := (assessed_by_active ambushRules ambushed none prunedAmbush rfl (by decide)).2.1
  have hambush := (assessed_by_active ambushRules ambushed none ambush rfl (by decide)).2.1
  exact ⟨hpruned.mpr (by decide), hambush.not.mpr (by decide)⟩

/-- The old blow makes the death one between players, which it is not by the recent blows, and neither if
the record was pruned in the meantime. -/
theorem old_blow_counts :
    let window := ambushRules.config.inFightWindowMillis
    let late := tally (recent ambushRules.now window (blows ambush)) (playerLevel ambushRules)
    InOrder ambush ambushRules.now ∧ InOrder prunedAmbush ambushRules.now ∧
      ((ambushed.afterFight window ambush).assessFight ambushRules none).pvpDeath = true ∧
      (late.verdict ambushRules.config ambushed.level none).pvpDeath = false ∧
      ((ambushed.afterFight window prunedAmbush).assessFight ambushRules none).pvpDeath = false := by
  refine ⟨by decide, by decide, ?_, ?_, ?_⟩ <;> decide +kernel

end Fight

end Adventurer
