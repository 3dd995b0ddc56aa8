import Adventurer.Character.Condition
import Mathlib.Data.Finset.Card
import Mathlib.Data.List.Nodup
import Mathlib.Order.Lattice.Nat
import Mathlib.Order.WithBot
import Mathlib.Tactic.SplitIfs

/-!
# Conditions as a finite map

The conditions of a character are kept in a list, and every question goes to the first entry of a kind.
Beside the list stands a finite map (`Roster`) from a kind to how long it lasts and whether death takes it
(`Tenure`), of at most as many kinds as a set has room for.  Two tenures of one kind are joined by their
least upper bound, so neither order nor repetition matters (`Tenure.foldl_join_congr`).  Whatever is done to
an empty set, its list and the map go on saying the same (`refines_run`).
-/

namespace Adventurer

theorem Instant.millis_latest (a b : Instant) : (latest a b).millis = max a.millis b.millis := by
  unfold latest
  split_ifs with h
  · exact (Nat.max_eq_right (Nat.le_of_lt h)).symm
  · exact (Nat.max_eq_left (Nat.le_of_not_lt h)).symm

/-! ## Tenures -/

/-- Until which millisecond a kind is held, for ever where nothing ends it, and whether death takes it. -/
@[ext]
structure Tenure where
  ends : WithTop ℕ
  persistent : Bool

namespace Tenure

variable {t u : Tenure} {l l' : List Tenure} {now : Instant}

/-- The later end, and taken by death only if both are. -/
def join (t u : Tenure) : Tenure := ⟨max t.ends u.ends, t.persistent && u.persistent⟩

/-- The tenure has not ended by `now`. -/
def Active (t : Tenure) (now : Instant) : Prop := WithTop.some now.millis < t.ends

instance (t : Tenure) (now : Instant) : Decidable (t.Active now) :=
  inferInstanceAs (Decidable (WithTop.some now.millis < t.ends))

/-- The end brought some milliseconds nearer, though not before `now`. -/
def hasten (span : Nat) (now : Instant) (t : Tenure) : Tenure :=
  { t with ends := t.ends.map fun ends => max (ends - span) now.millis }

theorem ends_foldl_join_le_iff {bound : WithTop ℕ} :
    (l.foldl join t).ends ≤ bound ↔ t.ends ≤ bound ∧ ∀ u ∈ l, u.ends ≤ bound := by
  induction l generalizing t with
  | nil => simp
  | cons u l ih =>
    rw [List.foldl_cons, ih, join, max_le_iff, List.forall_mem_cons, and_assoc]

theorem persistent_foldl_join :
    (l.foldl join t).persistent = true ↔ t.persistent = true ∧ ∀ u ∈ l, u.persistent = true := by
  induction l generalizing t with
  | nil => simp
  | cons u l ih =>
    rw [List.foldl_cons, ih, join, Bool.and_eq_true, List.forall_mem_cons, and_assoc]

/-- Joined tenures are their least upper bound: neither order nor repetition matters. -/
theorem foldl_join_congr (h : ∀ x, x ∈ t :: l ↔ x ∈ u :: l') : l.foldl join t = l'.foldl join u := by
  have hall (p : Tenure → Prop) : (p t ∧ ∀ x ∈ l, p x) ↔ (p u ∧ ∀ x ∈ l', p x) := by
    rw [← List.forall_mem_cons, ← List.forall_mem_cons]
    exact forall_congr' fun x => imp_congr_left (h x)
  apply Tenure.ext
  · apply eq_of_forall_ge_iff
    intro bound
    rw [ends_foldl_join_le_iff, ends_foldl_join_le_iff]
    exact hall (·.ends ≤ bound)
  · rw [Bool.eq_iff_iff, persistent_foldl_join, persistent_foldl_join]
    exact hall (·.persistent = true)

/-- What is hastened is active at a later instant exactly if it was to be active longer by the span. -/
theorem active_hasten_iff {span : Nat} {at_ : Instant} (h : now ≤ at_) :
    (t.hasten span now).Active at_ ↔ WithTop.some (at_.millis + span) < t.ends := by
  have hle : now.millis ≤ at_.millis := h
  unfold Active hasten
  cases t.ends with
  | top => simp
  | coe ends =>
    simp only [WithTop.map_coe, WithTop.coe_lt_coe]
    omega

end Tenure

/-! ## Finite maps of kinds -/

/-- A finite map from kinds to tenures. -/
structure Roster where
  entry : ConditionKind → Option Tenure
  kinds : Finset ConditionKind
  mem_kinds : ∀ kind, kind ∈ kinds ↔ (entry kind).isSome

namespace Roster

variable {m n : Roster} {kind other : ConditionKind} {t u : Tenure}

theorem ext_entry (h : ∀ kind, m.entry kind = n.entry kind) : m = n := by
  have hentry : m.entry = n.entry := funext h
  have hkinds : m.kinds = n.kinds := Finset.ext fun kind => by rw [m.mem_kinds, n.mem_kinds, h]
  cases m
  cases n
  simp only at hentry hkinds
  subst hentry hkinds
  rfl

theorem notMem_kinds : kind ∉ m.kinds ↔ m.entry kind = none := by
  rw [m.mem_kinds, Bool.not_eq_true, Option.isSome_eq_false_iff, Option.isNone_iff_eq_none]

/-- The map without kinds. -/
def empty : Roster := ⟨fun _ => none, ∅, by simp⟩

/-- Writes the entry of one kind. -/
def set (m : Roster) (kind : ConditionKind) (t : Tenure) : Roster where
  entry other := if other = kind then some t else m.entry other
  kinds := insert kind m.kinds
  mem_kinds other := by
    rw [Finset.mem_insert, m.mem_kinds]
    split_ifs with h <;> simp [h]

/-- Keeps the entries that pass a test. -/
def filter (m : Roster) (keep : ConditionKind → Tenure → Bool) : Roster where
  entry kind := (m.entry kind).filter (keep kind)
  kinds := m.kinds.filter fun kind => ((m.entry kind).filter (keep kind)).isSome
  mem_kinds kind := by
    rw [Finset.mem_filter, m.mem_kinds, and_iff_right_iff_imp]
    exact Option.isSome_of_isSome_filter _ _

/-- Changes every entry. -/
def map (m : Roster) (change : ConditionKind → Tenure → Tenure) : Roster where
  entry kind := (m.entry kind).map (change kind)
  kinds := m.kinds
  mem_kinds kind := by rw [m.mem_kinds, Option.isSome_map]

/-- Joins a tenure to the one of its kind, or enters a new kind as long as there is room. -/
def add? (m : Roster) (kind : ConditionKind) (t : Tenure) : Option Roster :=
  match m.entry kind with
  | some held => some (m.set kind (held.join t))
  | none => if m.kinds.card < ConditionSet.capacity then some (m.set kind t) else none

def add (m : Roster) (kind : ConditionKind) (t : Tenure) : Roster := (m.add? kind t).getD m

def remove (m : Roster) (kind : ConditionKind) : Roster := m.filter fun other _ => other ≠ kind

def removePersistent (m : Roster) : Roster := m.filter fun _ t => !t.persistent

def removeExpired (m : Roster) (now : Instant) : Roster := m.filter fun _ t => t.Active now

/-- Cooldowns come nearer; all other kinds stay. -/
def reduceCooldowns (m : Roster) (span : Nat) (now : Instant) : Roster :=
  m.map fun kind t => if kind.isCooldown then t.hasten span now else t

theorem add?_of_entry (h : m.entry kind = some t) : m.add? kind u = some (m.set kind (t.join u)) := by
  rw [add?, h]

/-- A tenure is refused exactly if its kind is new and the map is full. -/
theorem add?_eq_none_iff :
    m.add? kind t = none ↔ kind ∉ m.kinds ∧ ConditionSet.capacity ≤ m.kinds.card := by
  rw [notMem_kinds, add?]
  cases hentry : m.entry kind with
  | some held => simp
  | none => simp

theorem set_set : (m.set kind t).set kind u = m.set kind u := by
  apply ext_entry
  intro other
  unfold set
  simp only
  split_ifs <;> rfl

theorem set_of_entry (h : m.entry kind = some t) : m.set kind t = m := by
  apply ext_entry
  intro other
  unfold set
  simp only
  split_ifs with same
  · rw [same, h]
  · rfl

theorem entry_set_self : (m.set kind t).entry kind = some t := if_pos rfl

/-- Tenures of a kind that is there are joined to its own. -/
theorem foldl_add_of_entry (h : m.entry kind = some t) (l : List Tenure) :
    l.foldl (·.add kind ·) m = m.set kind (l.foldl Tenure.join t) := by
  induction l generalizing m t with
  | nil => exact (set_of_entry h).symm
  | cons u l ih =>
    have hadd : m.add kind u = m.set kind (t.join u) := by rw [add, add?_of_entry h, Option.getD_some]
    rw [List.foldl_cons, hadd, ih entry_set_self, set_set, List.foldl_cons]

/-- Neither order nor repetition of what is added of one kind matters. -/
theorem foldl_add_congr {l l' : List Tenure} (h : ∀ t, t ∈ l ↔ t ∈ l') :
    l.foldl (·.add kind ·) m = l'.foldl (·.add kind ·) m := by
  cases hentry : m.entry kind with
  | some t =>
    rw [foldl_add_of_entry hentry, foldl_add_of_entry hentry]
    congr 1
    apply Tenure.foldl_join_congr
    intro x
    rw [List.mem_cons, List.mem_cons, h x]
  | none =>
    by_cases room : m.kinds.card < ConditionSet.capacity
    · have hfirst (u : Tenure) (r : List Tenure) :
          (u :: r).foldl (·.add kind ·) m = m.set kind (r.foldl Tenure.join u) := by
        have hadd : m.add kind u = m.set kind u := by
          rw [add, add?, hentry]
          simp only [if_pos room, Option.getD_some]
        rw [List.foldl_cons, hadd, foldl_add_of_entry entry_set_self, set_set]
      cases l with
      | nil =>
        have hnone : l' = [] :=
          List.eq_nil_iff_forall_not_mem.mpr fun t ht => List.not_mem_nil ((h t).mpr ht)
        rw [hnone]
      | cons u r =>
        cases l' with
        | nil => exact absurd ((h u).mp List.mem_cons_self) List.not_mem_nil
        | cons u' r' => rw [hfirst, hfirst, Tenure.foldl_join_congr h]
    · -- a full map takes none of them
      have hrefuse (u : Tenure) : m.add kind u = m := by
        have hfull : m.add? kind u = none :=
          add?_eq_none_iff.mpr ⟨notMem_kinds.mpr hentry, Nat.le_of_not_lt room⟩
        rw [add, hfull, Option.getD_none]
      have hsame (r : List Tenure) : r.foldl (·.add kind ·) m = m := by
        induction r with
        | nil => rfl
        | cons u r ih => rw [List.foldl_cons, hrefuse, ih]
      rw [hsame, hsame]

end Roster

/-! ## Single conditions -/

namespace Condition

variable {c d : Condition} {now : Instant}

/-- How long a condition lasts and whether death takes it. -/
def tenure (c : Condition) : Tenure where
  ends := c.expiresAt.elim ⊤ fun ends => WithTop.some ends.millis
  persistent := c.persistent

theorem isActive_iff : c.isActive now = true ↔ c.tenure.Active now := by
  unfold isActive Tenure.Active tenure
  cases c.expiresAt with
  | none => simp
  | some ends => simp [Instant.lt_def]

/-- Two conditions are joined as their tenures are. -/
theorem tenure_join (c d : Condition) : (c.join d).tenure = c.tenure.join d.tenure := by
  apply Tenure.ext
  · unfold tenure join Tenure.join
    cases c.expiresAt with
    | none => simp
    | some s =>
      cases d.expiresAt with
      | none => simp
      | some t =>
        show WithTop.some (Instant.latest s t).millis = max (WithTop.some s.millis) (WithTop.some t.millis)
        rw [Instant.millis_latest, WithTop.coe_max]
  · rfl

theorem tenure_hasten (span : Nat) (now : Instant) (c : Condition) :
    (c.hasten span now).tenure =
      if c.kind.isCooldown then c.tenure.hasten span now else c.tenure := by
  unfold hasten
  split_ifs
  · apply Tenure.ext
    · unfold tenure Tenure.hasten
      cases c.expiresAt with
      | none => rfl
      | some ends =>
        show WithTop.some (Instant.latest (ends.earlier span) now).millis =
          max (WithTop.some (ends.millis - span)) (WithTop.some now.millis)
        rw [Instant.millis_latest, WithTop.coe_max]
        rfl
    · rfl
  · rfl

end Condition

/-! ## Sets of conditions -/

namespace ConditionSet

variable {s : ConditionSet} {kind : ConditionKind} {condition : Condition} {now : Instant}

/-- No kind occurs twice. -/
def Distinct (s : ConditionSet) : Prop := (s.conditions.map (·.kind)).Nodup

/-- The first entry of a kind, ended or not. -/
def find? (s : ConditionSet) (kind : ConditionKind) : Option Condition :=
  s.conditions.find? (·.kind = kind)

theorem find?_isSome : (s.find? kind).isSome = true ↔ kind ∈ s.conditions.map (·.kind) := by
  simp [find?]

theorem kind_of_find? (h : s.find? kind = some condition) : condition.kind = kind := by
  simpa using List.find?_some h

/-- What the list says, as a map. -/
def roster (s : ConditionSet) : Roster where
  entry kind := (s.find? kind).map Condition.tenure
  kinds := (s.conditions.map (·.kind)).toFinset
  mem_kinds kind := by rw [List.mem_toFinset, Option.isSome_map, find?_isSome]

theorem entry_roster : s.roster.entry kind = (s.find? kind).map Condition.tenure := rfl

theorem Distinct.card_kinds (h : s.Distinct) : s.roster.kinds.card = s.conditions.length := by
  rw [roster, List.toFinset_card_of_nodup h, List.length_map]

/-- A search that asks for a kind finds whatever passes it, wherever it stands. -/
theorem Distinct.find?_eq_some {test : Condition → Bool} (h : s.Distinct)
    (htest : ∀ c, test c = true → c.kind = kind) :
    s.conditions.find? test = some condition ↔ condition ∈ s.conditions ∧ test condition = true := by
  constructor
  · intro hfound
    exact ⟨List.mem_of_find?_eq_some hfound, List.find?_some hfound⟩
  · rintro ⟨hmem, hpass⟩
    cases hfound : s.conditions.find? test with
    | none => exact absurd hpass (List.find?_eq_none.mp hfound condition hmem)
    | some other =>
      have hother := List.find?_some hfound
      have hkind : other.kind = condition.kind := (htest other hother).trans (htest condition hpass).symm
      rw [List.inj_on_of_nodup_map h (List.mem_of_find?_eq_some hfound) hmem hkind]

theorem Distinct.find?_eq_some_iff (h : s.Distinct) :
    s.find? kind = some condition ↔ condition ∈ s.conditions ∧ condition.kind = kind := by
  have htest : ∀ c : Condition, decide (c.kind = kind) = true → c.kind = kind :=
    fun c hc => of_decide_eq_true hc
  unfold find?
  rw [h.find?_eq_some htest, decide_eq_true_iff]

/-- An answer about an active condition is one about the only entry of its kind. -/
theorem Distinct.active?_eq (h : s.Distinct) (kind : ConditionKind) (now : Instant) :
    s.active? kind now = (s.find? kind).filter (·.isActive now) := by
  apply Option.ext
  intro c
  have htest : ∀ c : Condition, (decide (c.kind = kind) && c.isActive now) = true → c.kind = kind :=
    fun c hc => of_decide_eq_true (Bool.and_eq_true_iff.mp hc).1
  rw [active?, h.find?_eq_some htest, Option.filter_eq_some_iff, h.find?_eq_some_iff, Bool.and_eq_true,
    decide_eq_true_iff, and_assoc]

/-! ### Single operations -/

theorem Distinct.filter (h : s.Distinct) (p : Condition → Bool) : Distinct ⟨s.conditions.filter p⟩ :=
  List.Nodup.sublist (List.filter_sublist.map _) h

theorem Distinct.find?_filter (h : s.Distinct) (p : Condition → Bool) (kind : ConditionKind) :
    find? ⟨s.conditions.filter p⟩ kind = (s.find? kind).filter p := by
  apply Option.ext
  intro c
  rw [(h.filter p).find?_eq_some_iff, Option.filter_eq_some_iff, h.find?_eq_some_iff, List.mem_filter]
  exact and_right_comm

/-- Filtering the list by what the map knows of a condition filters the map. -/
theorem Distinct.roster_filter (h : s.Distinct) {p : Condition → Bool}
    {keep : ConditionKind → Tenure → Bool} (hp : ∀ c, p c = keep c.kind c.tenure) :
    roster ⟨s.conditions.filter p⟩ = s.roster.filter keep := by
  apply Roster.ext_entry
  intro kind
  show (find? ⟨s.conditions.filter p⟩ kind).map Condition.tenure =
    ((s.find? kind).map Condition.tenure).filter (keep kind)
  rw [h.find?_filter]
  cases hfind : s.find? kind with
  | none => rfl
  | some c =>
    have hkind := kind_of_find? hfind
    subst hkind
    cases hkeep : keep c.kind c.tenure <;> simp [Option.filter, hp, hkeep]

theorem Distinct.roster_remove (h : s.Distinct) (kind : ConditionKind) :
    (s.remove kind).roster = s.roster.remove kind :=
  h.roster_filter fun _ => rfl

theorem Distinct.roster_removePersistent (h : s.Distinct) :
    s.removePersistent.roster = s.roster.removePersistent :=
  h.roster_filter fun _ => rfl

theorem Distinct.roster_removeExpired (h : s.Distinct) (now : Instant) :
    (s.removeExpired now).roster = s.roster.removeExpired now :=
  h.roster_filter fun c => by rw [Bool.eq_iff_iff, Condition.isActive_iff, decide_eq_true_iff]

theorem kinds_reduceCooldowns (s : ConditionSet) (span : Nat) (now : Instant) :
    (s.reduceCooldowns span now).conditions.map (·.kind) = s.conditions.map (·.kind) := by
  rw [reduceCooldowns, List.map_map]
  exact List.map_congr_left fun c _ => c.hasten_kind span now

theorem roster_reduceCooldowns (s : ConditionSet) (span : Nat) (now : Instant) :
    (s.reduceCooldowns span now).roster = s.roster.reduceCooldowns span now := by
  apply Roster.ext_entry
  intro kind
  have hfind : (s.reduceCooldowns span now).find? kind = (s.find? kind).map (·.hasten span now) := by
    unfold find? reduceCooldowns
    rw [List.find?_map]
    simp only [Function.comp_def, Condition.hasten_kind]
  show ((s.reduceCooldowns span now).find? kind).map Condition.tenure =
    ((s.find? kind).map Condition.tenure).map _
  rw [hfind, Option.map_map, Option.map_map]
  cases hcond : s.find? kind with
  | none => rfl
  | some c => simp [Condition.tenure_hasten, kind_of_find? hcond]

theorem kinds_modifyFirst? {change : Condition → Condition} (hchange : ∀ c, (change c).kind = c.kind)
    {l l' : List Condition} (h : modifyFirst? kind change l = some l') :
    l'.map (·.kind) = l.map (·.kind) := by
  induction l generalizing l' with
  | nil => cases h
  | cons c rest ih =>
    unfold modifyFirst? at h
    split_ifs at h
    · obtain rfl := Option.some.inj h
      simp [hchange]
    · obtain ⟨rest', hrest, rfl⟩ := Option.map_eq_some_iff.mp h
      simp [ih hrest]

theorem modifyFirst?_eq_none {change : Condition → Condition} {l : List Condition} :
    modifyFirst? kind change l = none ↔ kind ∉ l.map (·.kind) := by
  induction l with
  | nil => simp [modifyFirst?]
  | cons c rest ih =>
    by_cases same : c.kind = kind
    · simp [modifyFirst?, same]
    · simp [modifyFirst?, same, Ne.symm same, ih]

/-- Only the first entry of the kind is changed. -/
theorem find?_modifyFirst? {change : Condition → Condition} (hchange : ∀ c, (change c).kind = c.kind)
    {l l' : List Condition} (h : modifyFirst? kind change l = some l') (other : ConditionKind) :
    l'.find? (·.kind = other) =
      if other = kind then (l.find? (·.kind = kind)).map change else l.find? (·.kind = other) := by
  induction l generalizing l' with
  | nil => cases h
  | cons c rest ih =>
    unfold modifyFirst? at h
    split_ifs at h with same
    · obtain rfl := Option.some.inj h
      subst same
      by_cases hother : other = c.kind
      · simp [hchange, hother]
      · simp [hchange, hother, Ne.symm hother]
    · obtain ⟨rest', hrest, rfl⟩ := Option.map_eq_some_iff.mp h
      by_cases hother : other = kind
      · subst hother
        simpa [same] using ih hrest
      · by_cases hc : c.kind = other
        · simp [hc, hother]
        · simpa [hc, hother] using ih hrest

/-- A condition is added to the list as its tenure is to the map. -/
theorem Distinct.roster_add? (h : s.Distinct) (condition : Condition) :
    (s.add? condition).map roster = s.roster.add? condition.kind condition.tenure := by
  have hchange (c : Condition) : (c.join condition).kind = c.kind := Condition.join_kind c condition
  unfold add?
  cases hmodified : modifyFirst? condition.kind (·.join condition) s.conditions with
  | some joined =>
    have hfound := find?_modifyFirst? hchange hmodified
    obtain ⟨held, hheld⟩ : ∃ held, s.find? condition.kind = some held := by
      rw [← Option.isSome_iff_exists, find?_isSome]
      by_contra hnew
      rw [modifyFirst?_eq_none.mpr hnew] at hmodified
      cases hmodified
    have hentry : s.roster.entry condition.kind = some held.tenure := by rw [entry_roster, hheld]; rfl
    rw [Roster.add?_of_entry hentry]
    refine congrArg some (Roster.ext_entry fun other => ?_)
    show (joined.find? (·.kind = other)).map Condition.tenure =
      if other = condition.kind then some (held.tenure.join condition.tenure)
      else (s.find? other).map Condition.tenure
    rw [hfound other]
    split_ifs with same
    · have hfind : s.conditions.find? (·.kind = condition.kind) = some held := hheld
      rw [hfind, Option.map_some, Option.map_some, Condition.tenure_join]
    · rfl
  | none =>
    have hnone : s.find? condition.kind = none := by
      rw [← Option.not_isSome_iff_eq_none, find?_isSome]
      exact modifyFirst?_eq_none.mp hmodified
    have hentry : s.roster.entry condition.kind = none := by rw [entry_roster, hnone]; rfl
    simp only [Roster.add?, hentry, h.card_kinds]
    split_ifs with room
    · refine congrArg some (Roster.ext_entry fun other => ?_)
      show ((s.conditions ++ [condition]).find? (·.kind = other)).map Condition.tenure =
        if other = condition.kind then some condition.tenure else (s.find? other).map Condition.tenure
      rw [List.find?_append]
      by_cases same : other = condition.kind
      · subst same
        have hfind : s.conditions.find? (·.kind = condition.kind) = none := hnone
        simp [hfind]
      · have hlast : [condition].find? (·.kind = other) = none := by simp [Ne.symm same]
        rw [hlast, Option.or_none, if_neg same]
        rfl
    · rfl

theorem Distinct.roster_add (h : s.Distinct) (condition : Condition) :
    (s.add condition).roster = s.roster.add condition.kind condition.tenure := by
  have hadd := h.roster_add? condition
  unfold add Roster.add
  rw [← hadd, Option.getD_map]

theorem Distinct.add (h : s.Distinct) (condition : Condition) : (s.add condition).Distinct := by
  unfold ConditionSet.add add?
  cases hmodified : modifyFirst? condition.kind (·.join condition) s.conditions with
  | some joined =>
    have hkinds : joined.map (·.kind) = s.conditions.map (·.kind) :=
      kinds_modifyFirst? (fun c => Condition.join_kind c condition) hmodified
    show (joined.map (·.kind)).Nodup
    rw [hkinds]
    exact h
  | none =>
    have hnew : condition.kind ∉ s.conditions.map (·.kind) := modifyFirst?_eq_none.mp hmodified
    simp only
    split_ifs
    · show ((s.conditions ++ [condition]).map (·.kind)).Nodup
      rw [List.map_append, List.map_singleton]
      exact List.nodup_append.mpr ⟨h, List.nodup_singleton _, fun kind hkind other hother => by
        rw [List.mem_singleton.mp hother]
        rintro rfl
        exact hnew hkind⟩
    · exact h

theorem Distinct.reduceCooldowns (h : s.Distinct) (span : Nat) (now : Instant) :
    (s.reduceCooldowns span now).Distinct := by
  unfold Distinct
  rw [kinds_reduceCooldowns]
  exact h

/-! ### Answers -/

theorem Distinct.has_iff (h : s.Distinct) :
    s.has kind now = true ↔ ∃ t, s.roster.entry kind = some t ∧ t.Active now := by
  rw [has, h.active?_eq, entry_roster]
  cases s.find? kind with
  | none => simp
  | some c => simp [Option.filter, ← Condition.isActive_iff]

theorem Distinct.expiresAt?_eq_some_iff (h : s.Distinct) {ends : Instant} :
    s.expiresAt? kind now = some ends ↔
      ∃ t, s.roster.entry kind = some t ∧ t.Active now ∧ t.ends = WithTop.some ends.millis := by
  rw [expiresAt?, h.active?_eq, entry_roster]
  cases s.find? kind with
  | none => simp
  | some c =>
    have hends : c.expiresAt = some ends ↔ c.tenure.ends = WithTop.some ends.millis := by
      unfold Condition.tenure
      cases c.expiresAt with
      | none => simp
      | some there =>
        obtain ⟨there⟩ := there
        obtain ⟨ends⟩ := ends
        simp
    cases hactive : c.isActive now with
    | false =>
      have hnot : ¬ c.tenure.Active now := by rw [← Condition.isActive_iff, hactive]; simp
      simp [Option.filter, hactive, hnot]
    | true =>
      have hyes : c.tenure.Active now := Condition.isActive_iff.mp hactive
      simp [Option.filter, hactive, hyes, hends]

theorem Distinct.mem_expired_iff (h : s.Distinct) :
    kind ∈ s.expired now ↔ ∃ t, s.roster.entry kind = some t ∧ ¬ t.Active now := by
  rw [expired, List.mem_map]
  constructor
  · rintro ⟨c, hc, rfl⟩
    obtain ⟨hmem, hended⟩ := List.mem_filter.mp hc
    have hfind : s.find? c.kind = some c := h.find?_eq_some_iff.mpr ⟨hmem, rfl⟩
    refine ⟨c.tenure, by rw [entry_roster, hfind]; rfl, ?_⟩
    rw [← Condition.isActive_iff]
    simpa using hended
  · rintro ⟨t, hentry, hended⟩
    obtain ⟨c, hfind, rfl⟩ := Option.map_eq_some_iff.mp hentry
    obtain ⟨hmem, hkind⟩ := h.find?_eq_some_iff.mp hfind
    refine ⟨c, List.mem_filter.mpr ⟨hmem, ?_⟩, hkind⟩
    rw [← Condition.isActive_iff] at hended
    simpa using hended

theorem Distinct.nodup_expired (h : s.Distinct) (now : Instant) : (s.expired now).Nodup :=
  (h.filter _ : Distinct ⟨s.conditions.filter (!·.isActive now)⟩)

/-- After a reduction a cooldown is active when it was to be active longer by the span, and all else when
it was before. -/
theorem Distinct.has_reduceCooldowns (h : s.Distinct) {span : Nat} {at_ : Instant} (hnow : now ≤ at_)
    (hfit : at_.millis + span ≤ max64) :
    (s.reduceCooldowns span now).has kind at_ =
      s.has kind (if kind.isCooldown then at_.later span else at_) := by
  rw [Bool.eq_iff_iff, (h.reduceCooldowns span now).has_iff, h.has_iff, roster_reduceCooldowns]
  have hentry : (s.roster.reduceCooldowns span now).entry kind = (s.roster.entry kind).map
      fun t => if kind.isCooldown then t.hasten span now else t := rfl
  rw [hentry]
  cases s.roster.entry kind with
  | none => simp
  | some t =>
    cases kind.isCooldown with
    | false => simp
    | true =>
      have hlater : (at_.later span).millis = at_.millis + span := addUpTo_of_le hfit
      simp only [Option.map_some, if_true, Option.some.injEq, exists_eq_left']
      rw [Tenure.active_hasten_iff hnow, Tenure.Active, hlater]

/-! ### Kinds that are held -/

theorem holds_iff : s.holds kind = true ↔ kind ∈ s.conditions.map (·.kind) := by
  simp [holds]

/-- Adding a condition adds its kind, unless the kind is new and the set is full. -/
theorem holds_add : (s.add condition).holds kind = true ↔
    s.holds kind = true ∨ condition.kind = kind ∧ s.conditions.length < capacity := by
  unfold add add?
  cases hmodified : modifyFirst? condition.kind (·.join condition) s.conditions with
  | some joined =>
    have hkinds : joined.map (·.kind) = s.conditions.map (·.kind) :=
      kinds_modifyFirst? (fun c => Condition.join_kind c condition) hmodified
    have hheld : condition.kind ∈ s.conditions.map (·.kind) := by
      by_contra hnew
      rw [modifyFirst?_eq_none.mpr hnew] at hmodified
      cases hmodified
    simp only [Option.getD_some, holds_iff, hkinds]
    exact ⟨.inl, fun h => h.elim id fun h => h.1 ▸ hheld⟩
  | none =>
    simp only
    split_ifs with room
    · simp only [Option.getD_some, holds_iff, List.map_append, List.map_cons, List.map_nil,
        List.mem_append, List.mem_singleton, room, and_true]
      exact or_congr_right eq_comm
    · simp [room]

theorem holds_reduceCooldowns (span : Nat) :
    (s.reduceCooldowns span now).holds kind = s.holds kind := by
  rw [Bool.eq_iff_iff, holds_iff, holds_iff, kinds_reduceCooldowns]

theorem holds_removeExpired (h : kind ∉ s.expired now) :
    (s.removeExpired now).holds kind = s.holds kind := by
  rw [Bool.eq_iff_iff, holds_iff, holds_iff, removeExpired, List.mem_map, List.mem_map]
  constructor
  · rintro ⟨c, hc, hkind⟩
    exact ⟨c, List.mem_of_mem_filter hc, hkind⟩
  · rintro ⟨c, hc, rfl⟩
    refine ⟨c, List.mem_filter.mpr ⟨hc, ?_⟩, rfl⟩
    by_contra hended
    exact h (List.mem_map.mpr ⟨c, List.mem_filter.mpr ⟨hc, by simpa using hended⟩, rfl⟩)

theorem mem_expired (hc : condition ∈ s.conditions) {ends : Instant} (hends : condition.expiresAt = some ends)
    (hle : ends ≤ now) : condition.kind ∈ s.expired now := by
  refine List.mem_map.mpr ⟨condition, List.mem_filter.mpr ⟨hc, ?_⟩, rfl⟩
  have hle' : ends.millis ≤ now.millis := hle
  simp [Condition.isActive, hends, Instant.lt_def, hle']

/-- A condition is active or not whether what has ended is there or gone. -/
theorem has_removeExpired (s : ConditionSet) (kind : ConditionKind) (now : Instant) :
    (s.removeExpired now).has kind now = s.has kind now := by
  unfold has active? removeExpired
  rw [List.find?_filter]
  congr 2
  funext c
  cases c.isActive now <;> simp

/-! ## Runs -/

/-- Something done to a set of conditions. -/
inductive Deed where
  | add (condition : Condition)
  | remove (kind : ConditionKind)
  | removePersistent
  | removeExpired (now : Instant)
  | reduceCooldowns (span : Nat) (now : Instant)

def perform (s : ConditionSet) : Deed → ConditionSet
  | .add condition => s.add condition
  | .remove kind => s.remove kind
  | .removePersistent => s.removePersistent
  | .removeExpired now => s.removeExpired now
  | .reduceCooldowns span now => s.reduceCooldowns span now

/-- An empty set after some deeds. -/
def after (deeds : List Deed) : ConditionSet := deeds.foldl perform empty

end ConditionSet

namespace Roster

open ConditionSet (Deed)

def perform (m : Roster) : Deed → Roster
  | .add condition => m.add condition.kind condition.tenure
  | .remove kind => m.remove kind
  | .removePersistent => m.removePersistent
  | .removeExpired now => m.removeExpired now
  | .reduceCooldowns span now => m.reduceCooldowns span now

/-- An empty map after some deeds. -/
def after (deeds : List Deed) : Roster := deeds.foldl perform empty

theorem card_add_le {m : Roster} (h : m.kinds.card ≤ ConditionSet.capacity) (kind : ConditionKind)
    (t : Tenure) : (m.add kind t).kinds.card ≤ ConditionSet.capacity := by
  unfold add add?
  cases hentry : m.entry kind with
  | some held =>
    have hmem : kind ∈ m.kinds := by rw [m.mem_kinds, hentry]; rfl
    show (insert kind m.kinds).card ≤ _
    rw [Finset.insert_eq_of_mem hmem]
    exact h
  | none =>
    simp only
    split_ifs with room
    · exact (Finset.card_insert_le _ _).trans room
    · exact h

theorem card_perform_le {m : Roster} (h : m.kinds.card ≤ ConditionSet.capacity) (d : Deed) :
    (m.perform d).kinds.card ≤ ConditionSet.capacity := by
  have hfilter (keep : ConditionKind → Tenure → Bool) :
      (m.filter keep).kinds.card ≤ ConditionSet.capacity :=
    (Finset.card_filter_le _ _).trans h
  cases d with
  | add condition => exact card_add_le h _ _
  | remove kind => exact hfilter _
  | removePersistent => exact hfilter _
  | removeExpired now => exact hfilter _
  | reduceCooldowns span now => exact h

end Roster

namespace ConditionSet

variable {s : ConditionSet}

theorem Distinct.perform (h : s.Distinct) (d : Deed) : (s.perform d).Distinct := by
  cases d with
  | add condition => exact h.add condition
  | remove kind => exact h.filter _
  | removePersistent => exact h.filter _
  | removeExpired now => exact h.filter _
  | reduceCooldowns span now => exact h.reduceCooldowns span now

/-- A deed makes of the map what it makes of the list. -/
theorem Distinct.roster_perform (h : s.Distinct) (d : Deed) :
    (s.perform d).roster = s.roster.perform d := by
  cases d with
  | add condition => exact h.roster_add condition
  | remove kind => exact h.roster_remove kind
  | removePersistent => exact h.roster_removePersistent
  | removeExpired now => exact h.roster_removeExpired now
  | reduceCooldowns span now => exact roster_reduceCooldowns s span now

/-- The same conditions of one kind, added in another order or more than once, make the same map. -/
theorem Distinct.roster_foldl_add (h : s.Distinct) {kind : ConditionKind} {l l' : List Condition}
    (hl : ∀ c ∈ l, c.kind = kind) (hsame : ∀ c, c ∈ l ↔ c ∈ l') :
    (l.foldl ConditionSet.add s).roster = (l'.foldl ConditionSet.add s).roster := by
  have hfold : ∀ (r : List Condition) (s : ConditionSet), s.Distinct → (∀ c ∈ r, c.kind = kind) →
      (r.foldl ConditionSet.add s).roster = (r.map Condition.tenure).foldl (·.add kind ·) s.roster := by
    intro r
    induction r with
    | nil => exact fun _ _ _ => rfl
    | cons c r ih =>
      intro s hs hr
      obtain ⟨hc, hrest⟩ := List.forall_mem_cons.mp hr
      rw [List.foldl_cons, ih _ (hs.add c) hrest, hs.roster_add c, hc]
      rfl
  rw [hfold l s h hl, hfold l' s h fun c hc => hl c ((hsame c).mpr hc)]
  apply Roster.foldl_add_congr
  intro t
  simp only [List.mem_map, hsame]

/-- The set says what the map says, and every operation on it is the one on the map. -/
structure Refines (s : ConditionSet) (m : Roster) : Prop where
  /-- No kind occurs twice. -/
  distinct : s.Distinct
  roster_eq : s.roster = m
  fits : m.kinds.card ≤ capacity
  perform (d : Deed) : (s.perform d).roster = m.perform d
  /-- A condition is joined to that of its kind: the later end, none where one has none, and taken by death
  only if both are. -/
  joins {c : Condition} {t : Tenure} : m.entry c.kind = some t →
    (s.add c).roster = m.set c.kind ⟨max t.ends c.tenure.ends, t.persistent && c.persistent⟩
  /-- A new kind is refused exactly if the set is full, and then nothing changes. -/
  refuses {c : Condition} : s.add? c = none ↔ c.kind ∉ m.kinds ∧ m.kinds.card = capacity
  refused {c : Condition} : s.add? c = none → s.add c = s
  /-- A new kind for which there is room is entered as it is. -/
  enters {c : Condition} : c.kind ∉ m.kinds → m.kinds.card < capacity →
    (s.add c).roster = m.set c.kind c.tenure
  /-- Neither order nor repetition of what is added of a kind matters. -/
  readd {kind : ConditionKind} {l l' : List Condition} : (∀ c ∈ l, c.kind = kind) →
    (∀ c, c ∈ l ↔ c ∈ l') → (l.foldl add s).roster = (l'.foldl add s).roster
  has_iff {kind : ConditionKind} {now : Instant} : s.has kind now = true ↔
    ∃ t, m.entry kind = some t ∧ WithTop.some now.millis < t.ends
  expiresAt_iff {kind : ConditionKind} {now ends : Instant} : s.expiresAt? kind now = some ends ↔
    ∃ t, m.entry kind = some t ∧ now < ends ∧ t.ends = WithTop.some ends.millis
  /-- What is dropped at an instant is reported, each kind once, and the rest stays. -/
  nodup_expired (now : Instant) : (s.expired now).Nodup
  mem_expired_iff {kind : ConditionKind} {now : Instant} : kind ∈ s.expired now ↔
    ∃ t, m.entry kind = some t ∧ t.ends ≤ WithTop.some now.millis
  entry_removeExpired {kind : ConditionKind} {now : Instant} :
    (s.removeExpired now).roster.entry kind =
      (m.entry kind).filter fun t => WithTop.some now.millis < t.ends
  /-- From the instant of a reduction on, cooldowns are active as they would have been by the span later, and
  all else is as it was; what never ends does not change. -/
  has_reduceCooldowns {kind : ConditionKind} {span : Nat} {now at_ : Instant} : now ≤ at_ →
    at_.millis + span ≤ max64 → (s.reduceCooldowns span now).has kind at_ =
      s.has kind (if kind.isCooldown then at_.later span else at_)
  permanent {kind : ConditionKind} {t : Tenure} {span : Nat} {now : Instant} : m.entry kind = some t →
    t.ends = ⊤ → (s.reduceCooldowns span now).roster.entry kind = some t

theorem Distinct.refines (h : s.Distinct) (hfit : s.roster.kinds.card ≤ capacity) :
    s.Refines s.roster where
  distinct := h
  roster_eq := rfl
  fits := hfit
  perform := h.roster_perform
  joins {c t} hentry := by
    rw [h.roster_add, Roster.add, Roster.add?_of_entry hentry]
    rfl
  refuses {c} := by
    have hrefused : s.add? c = none ↔ s.roster.add? c.kind c.tenure = none := by
      rw [← h.roster_add? c, Option.map_eq_none_iff]
    rw [hrefused, Roster.add?_eq_none_iff]
    exact and_congr_right fun _ => ⟨fun hfull => Nat.le_antisymm hfit hfull, fun heq => heq.ge⟩
  refused {c} hnone := by rw [ConditionSet.add, hnone, Option.getD_none]
  enters {c} hnew room := by
    rw [h.roster_add, Roster.add, Roster.add?, Roster.notMem_kinds.mp hnew]
    simp only [if_pos room, Option.getD_some]
  readd := h.roster_foldl_add
  has_iff := h.has_iff
  expiresAt_iff {kind now ends} := by
    rw [h.expiresAt?_eq_some_iff]
    refine exists_congr fun t => and_congr_right fun _ => and_congr_left fun hends => ?_
    rw [Tenure.Active, hends, WithTop.coe_lt_coe]
    exact Iff.rfl
  nodup_expired := h.nodup_expired
  mem_expired_iff {kind now} := by
    rw [h.mem_expired_iff]
    exact exists_congr fun t => and_congr_right fun _ => not_lt
  entry_removeExpired {kind now} := by
    rw [h.roster_removeExpired]
    rfl
  has_reduceCooldowns := h.has_reduceCooldowns
  permanent {kind t span now} hentry hends := by
    have hsame : t.hasten span now = t := by
      apply Tenure.ext
      · show t.ends.map _ = t.ends
        rw [hends]
        rfl
      · rfl
    rw [roster_reduceCooldowns]
    show (s.roster.entry kind).map _ = some t
    rw [hentry, Option.map_some]
    simp only [hsame, ite_self]

/-- **Conditions are a finite map.**  After whatever is done to an empty set of conditions, the set refines
the map to which the same was done. -/
theorem refines_run (deeds : List Deed) : (after deeds).Refines (Roster.after deeds) := by
  have hrun : (after deeds).Distinct ∧ (after deeds).roster = Roster.after deeds ∧
      (Roster.after deeds).kinds.card ≤ capacity := by
    induction deeds using List.reverseRecOn with
    | nil => exact ⟨List.nodup_nil, Roster.ext_entry fun _ => rfl, Nat.zero_le _⟩
    | append_singleton deeds d ih =>
      obtain ⟨hdistinct, hroster, hfit⟩ := ih
      rw [after, Roster.after, List.foldl_concat, List.foldl_concat]
      refine ⟨hdistinct.perform d, ?_, Roster.card_perform_le hfit d⟩
      exact (hdistinct.roster_perform d).trans (congrArg (·.perform d) hroster)
  obtain ⟨hdistinct, hroster, hfit⟩ := hrun
  rw [← hroster] at hfit ⊢
  exact hdistinct.refines hfit

/-- A poison that lasts for ever outlives any other, and is no longer taken by death. -/
example : (after [.add (.timed .poison ⟨5⟩), .add (.permanent .poison), .add (.timed .poison ⟨9⟩)]).conditions =
    [.permanent .poison] := by decide

end ConditionSet

end Adventurer
