import Adventurer.Schedule
import Mathlib.Data.List.Nodup
import Mathlib.Order.Nat

/-!
# The agenda

An agenda is the plain list of the actions that are pending, in the order in which they were scheduled,
and says what a schedule is meant to do: the action that comes up first is the one that no other one
comes up before, by deadline and then by ticket.  `Agenda.perm_run` says that whatever was scheduled is
delivered, cancelled or still pending, and only one of these.
-/

namespace Adventurer

variable {α : Type}

/-! ## The order of turns -/

namespace Turn

/-- The first turn comes up no later than the second one. -/
def NotAfter (t u : Turn) : Prop :=
  t.deadline < u.deadline ∨ t.deadline = u.deadline ∧ t.ticket.number ≤ u.ticket.number

instance (t u : Turn) : Decidable (t.NotAfter u) :=
  inferInstanceAs (Decidable (_ ∨ _ ∧ _))

variable {t u v : Turn}

theorem notAfter_iff : t.NotAfter u ↔ t.deadline.millis < u.deadline.millis ∨
    t.deadline.millis = u.deadline.millis ∧ t.ticket.number ≤ u.ticket.number := by
  obtain ⟨⟨d⟩, k⟩ := t
  obtain ⟨⟨e⟩, l⟩ := u
  simp [NotAfter, Instant.lt_def]

theorem NotAfter.trans (h : t.NotAfter u) (h' : u.NotAfter v) : t.NotAfter v := by
  rw [notAfter_iff] at *
  omega

theorem notAfter_total (t u : Turn) : t.NotAfter u ∨ u.NotAfter t := by
  rw [notAfter_iff, notAfter_iff]
  omega

theorem NotAfter.antisymm (h : t.NotAfter u) (h' : u.NotAfter t) : t = u := by
  obtain ⟨⟨d⟩, ⟨k⟩⟩ := t
  obtain ⟨⟨e⟩, ⟨l⟩⟩ := u
  simp only [notAfter_iff] at h h'
  simp only [Turn.mk.injEq, Instant.mk.injEq, Ticket.mk.injEq]
  omega

end Turn

/-! ## Agendas -/

namespace Schedule

/-- What is asked of a schedule. -/
inductive Op (α : Type) where
  | add (deadline : Instant) (action : α)
  | cancel (ticket : Ticket)
  | isPending (ticket : Ticket)
  | nextDeadline
  | popDue (now : Instant)
  | drainDue (now : Instant)
  | size
  | isEmpty

/-- What is answered. -/
inductive Answer (α : Type) where
  | ticket (ticket : Ticket)
  | action (action : Option α)
  | flag (holds : Bool)
  | deadline (deadline : Option Instant)
  | entry (entry : Option (Ticket × α))
  | entries (entries : List (Ticket × α))
  | count (count : Nat)

variable {σ : Type}

/-- The operations of a run, each with its answer. -/
def transcript (step : σ → Op α → σ × Answer α) (s : σ) : List (Op α) → List (Op α × Answer α)
  | [] => []
  | op :: ops => (op, (step s op).2) :: transcript step (step s op).1 ops

/-- The state after a run. -/
def after (step : σ → Op α → σ × Answer α) (s : σ) (ops : List (Op α)) : σ :=
  ops.foldl (fun s op => (step s op).1) s

/-- What an operation has scheduled. -/
def scheduledBy : Op α × Answer α → List (Ticket × α)
  | (.add _ action, .ticket ticket) => [(ticket, action)]
  | _ => []

/-- What an operation has delivered. -/
def deliveredBy : Op α × Answer α → List (Ticket × α)
  | (.popDue _, .entry entry) => entry.toList
  | (.drainDue _, .entries entries) => entries
  | _ => []

/-- What an operation has cancelled. -/
def cancelledBy : Op α × Answer α → List (Ticket × α)
  | (.cancel ticket, .action action) => (action.map (ticket, ·)).toList
  | _ => []

/-- The operation schedules an action. -/
def Op.adds : Op α → Bool
  | .add _ _ => true
  | _ => false

end Schedule

open Schedule (Op Answer)

/-- The pending actions with their turns as they were scheduled, and how many were scheduled so far. -/
structure Agenda (α : Type) where
  entries : List (Turn × α) := []
  next : Nat := 0

namespace Agenda

def empty : Agenda α := {}

def add (g : Agenda α) (deadline : Instant) (action : α) : Agenda α × Ticket :=
  ({ entries := g.entries ++ [(⟨deadline, ⟨g.next⟩⟩, action)], next := g.next + 1 }, ⟨g.next⟩)

def find? (g : Agenda α) (ticket : Ticket) : Option α :=
  (g.entries.find? (·.1.ticket = ticket)).map (·.2)

def drop (g : Agenda α) (ticket : Ticket) : Agenda α :=
  { g with entries := g.entries.filter (·.1.ticket ≠ ticket) }

/-- The entry that comes up no later than any other. -/
def first? (g : Agenda α) : Option (Turn × α) :=
  g.entries.find? fun e => g.entries.all fun f => e.1.NotAfter f.1

/-- Takes the first entry if its deadline has come. -/
def popDue (g : Agenda α) (now : Instant) : Agenda α × Option (Ticket × α) :=
  match g.first? with
  | some e => if e.1.deadline ≤ now then (g.drop e.1.ticket, some (e.1.ticket, e.2)) else (g, none)
  | none => (g, none)

/-- The entries whose deadline has come, in the order in which they come up. -/
def due (g : Agenda α) (now : Instant) : List (Turn × α) :=
  (g.entries.filter (·.1.deadline ≤ now)).mergeSort fun e f => e.1.NotAfter f.1

/-- The entries whose deadline has not come. -/
def later (g : Agenda α) (now : Instant) : Agenda α :=
  { g with entries := g.entries.filter fun e => !(e.1.deadline ≤ now) }

/-- The pending actions by their tickets. -/
def listed (entries : List (Turn × α)) : List (Ticket × α) := entries.map fun e => (e.1.ticket, e.2)

def perform (g : Agenda α) : Op α → Agenda α × Answer α
  | .add deadline action => ((g.add deadline action).1, .ticket (g.add deadline action).2)
  | .cancel ticket => (g.drop ticket, .action (g.find? ticket))
  | .isPending ticket => (g, .flag (g.find? ticket).isSome)
  | .nextDeadline => (g, .deadline (g.first?.map (·.1.deadline)))
  | .popDue now => ((g.popDue now).1, .entry (g.popDue now).2)
  | .drainDue now => (g.later now, .entries (listed (g.due now)))
  | .size => (g, .count g.entries.length)
  | .isEmpty => (g, .flag g.entries.isEmpty)

/-- The tickets ascend, and are those given out so far. -/
structure Numbered (g : Agenda α) : Prop where
  ascend : g.entries.Pairwise fun e f => e.1.ticket.number < f.1.ticket.number
  older : ∀ e ∈ g.entries, e.1.ticket.number < g.next

variable {g : Agenda α} {e f : Turn × α} {now : Instant} {ticket : Ticket}

theorem numbered_empty : (empty : Agenda α).Numbered := ⟨.nil, fun _ h => by simp [empty] at h⟩

theorem Numbered.sublist (h : g.Numbered) {l : List (Turn × α)} (hl : l.Sublist g.entries) :
    ({ g with entries := l } : Agenda α).Numbered :=
  ⟨h.ascend.sublist hl, fun e he => h.older e (hl.subset he)⟩

theorem Numbered.drop (h : g.Numbered) (ticket : Ticket) : (g.drop ticket).Numbered :=
  h.sublist List.filter_sublist

theorem Numbered.add (h : g.Numbered) (deadline : Instant) (action : α) :
    (g.add deadline action).1.Numbered where
  ascend := by
    refine List.pairwise_append.mpr ⟨h.ascend, List.pairwise_singleton _ _, fun e he f hf => ?_⟩
    rw [List.mem_singleton.mp hf]
    exact h.older e he
  older e he := by
    rcases List.mem_append.mp he with he | he
    · exact (h.older e he).trans (Nat.lt_succ_self _)
    · rw [List.mem_singleton.mp he]
      exact Nat.lt_succ_self _

theorem Numbered.later (h : g.Numbered) (now : Instant) : (g.later now).Numbered :=
  h.sublist List.filter_sublist

theorem Numbered.nodup (h : g.Numbered) : (g.entries.map (·.1.ticket.number)).Nodup :=
  List.pairwise_map.mpr (h.ascend.imp Nat.ne_of_lt)

/-- A ticket stands for one entry. -/
theorem Numbered.eq_of_ticket (h : g.Numbered) (he : e ∈ g.entries) (hf : f ∈ g.entries)
    (ht : e.1.ticket = f.1.ticket) : e = f :=
  List.inj_on_of_nodup_map h.nodup he hf (congrArg Ticket.number ht)

theorem Numbered.find?_eq_some (h : g.Numbered) {action : α} :
    g.find? ticket = some action ↔ ∃ e ∈ g.entries, e.1.ticket = ticket ∧ e.2 = action := by
  unfold find?
  rw [Option.map_eq_some_iff]
  constructor
  · rintro ⟨e, hfind, rfl⟩
    exact ⟨e, List.mem_of_find?_eq_some hfind, by simpa using List.find?_some hfind, rfl⟩
  · rintro ⟨e, he, rfl, rfl⟩
    obtain ⟨f, hfind⟩ : ∃ f, g.entries.find? (·.1.ticket = e.1.ticket) = some f :=
      Option.isSome_iff_exists.mp (List.find?_isSome.mpr ⟨e, he, by simp⟩)
    have ht : f.1.ticket = e.1.ticket := by simpa using List.find?_some hfind
    refine ⟨f, hfind, ?_⟩
    rw [h.eq_of_ticket (List.mem_of_find?_eq_some hfind) he ht]

/-- Taking one entry out leaves the others. -/
theorem Numbered.perm_drop (h : g.Numbered) (he : e ∈ g.entries) :
    g.entries.Perm (e :: (g.drop e.1.ticket).entries) := by
  refine (List.perm_ext_iff_of_nodup (.of_map _ h.nodup) ?_).mpr fun f => ?_
  · refine List.nodup_cons.mpr ⟨fun hm => ?_, (List.Nodup.of_map _ h.nodup).filter _⟩
    simpa using (List.mem_filter.mp hm).2
  · have hiff : f ∈ (g.drop e.1.ticket).entries ↔ f ∈ g.entries ∧ f.1.ticket ≠ e.1.ticket := by
      simp [Agenda.drop, List.mem_filter]
    rw [List.mem_cons, hiff]
    constructor
    · intro hf
      by_cases ht : f.1.ticket = e.1.ticket
      · exact .inl (h.eq_of_ticket hf he ht)
      · exact .inr ⟨hf, ht⟩
    · rintro (rfl | ⟨hf, -⟩)
      · exact he
      · exact hf

theorem Numbered.perm_listed_drop (h : g.Numbered) (he : e ∈ g.entries) :
    (listed g.entries).Perm ((e.1.ticket, e.2) :: listed (g.drop e.1.ticket).entries) :=
  (h.perm_drop he).map fun f : Turn × α => (f.1.ticket, f.2)

theorem drop_eq_self (hno : ∀ e ∈ g.entries, e.1.ticket ≠ ticket) : g.drop ticket = g := by
  have hall : g.entries.filter (·.1.ticket ≠ ticket) = g.entries :=
    List.filter_eq_self.mpr fun e he => by simpa using hno e he
  unfold drop
  rw [hall]

/-! ## The first entry -/

theorem mem_of_first? (hf : g.first? = some e) : e ∈ g.entries := List.mem_of_find?_eq_some hf

theorem notAfter_of_first? (hf : g.first? = some e) (hm : f ∈ g.entries) : e.1.NotAfter f.1 := by
  have hall := List.find?_some hf
  exact of_decide_eq_true (List.all_eq_true.mp hall f hm)

/-- Some entry of a list comes up no later than any other. -/
theorem exists_least : ∀ l : List (Turn × α), l ≠ [] → ∃ e ∈ l, ∀ f ∈ l, e.1.NotAfter f.1
  | [], hne => absurd rfl hne
  | [e], _ => ⟨e, List.mem_singleton_self e, fun f hf => by
      rw [List.mem_singleton.mp hf]
      exact (Turn.notAfter_total _ _).elim id id⟩
  | e :: f :: l, _ => by
    obtain ⟨m, hm, hleast⟩ := exists_least (f :: l) (List.cons_ne_nil f l)
    rcases Turn.notAfter_total e.1 m.1 with he | he
    · refine ⟨e, List.mem_cons_self, fun x hx => ?_⟩
      rcases List.mem_cons.mp hx with rfl | hx
      · exact (Turn.notAfter_total _ _).elim id id
      · exact he.trans (hleast x hx)
    · refine ⟨m, List.mem_cons_of_mem _ hm, fun x hx => ?_⟩
      rcases List.mem_cons.mp hx with rfl | hx
      · exact he
      · exact hleast x hx

theorem first?_eq_none_iff : g.first? = none ↔ g.entries = [] := by
  constructor
  · intro hnone
    by_contra hne
    obtain ⟨e, he, hleast⟩ := exists_least g.entries hne
    have hfail := List.find?_eq_none.mp hnone e he
    exact hfail (List.all_eq_true.mpr fun f hf => decide_eq_true (hleast f hf))
  · intro hnil
    unfold first?
    rw [hnil]
    rfl

/-- The first entry is the only one that comes up no later than any other. -/
theorem Numbered.first?_eq_some (h : g.Numbered) (he : e ∈ g.entries)
    (hleast : ∀ f ∈ g.entries, e.1.NotAfter f.1) : g.first? = some e := by
  cases hf : g.first? with
  | none => rw [first?_eq_none_iff.mp hf] at he; simp at he
  | some f =>
    have hm := mem_of_first? hf
    have ht : f.1 = e.1 := (notAfter_of_first? hf he).antisymm (hleast f hm)
    rw [h.eq_of_ticket hm he (congrArg Turn.ticket ht)]

/-! ## What is due -/

theorem due_eq_nil (hlater : ∀ e ∈ g.entries, ¬ e.1.deadline ≤ now) : g.due now = [] := by
  have hnil : g.entries.filter (·.1.deadline ≤ now) = [] :=
    List.filter_eq_nil_iff.mpr fun e he => by simpa using hlater e he
  unfold due
  rw [hnil, List.mergeSort_nil]

theorem later_eq_self (hlater : ∀ e ∈ g.entries, ¬ e.1.deadline ≤ now) : g.later now = g := by
  have hall : (g.entries.filter fun e => !(e.1.deadline ≤ now)) = g.entries :=
    List.filter_eq_self.mpr fun e he => by simpa using hlater e he
  unfold later
  rw [hall]

theorem not_due_of_first? (hf : g.first? = some e) (hlate : ¬ e.1.deadline ≤ now) :
    ∀ f ∈ g.entries, ¬ f.1.deadline ≤ now := by
  intro f hm hle
  have hle' := Turn.notAfter_iff.mp (notAfter_of_first? hf hm)
  rw [Instant.le_def] at hlate hle
  omega

/-- The entries of one due list after the other: none comes up before an earlier one. -/
theorem pairwise_due (g : Agenda α) (now : Instant) :
    (g.due now).Pairwise fun e f => e.1.NotAfter f.1 := by
  have hsorted : (g.due now).Pairwise fun e f => decide (e.1.NotAfter f.1) := by
    refine List.pairwise_mergeSort (fun a b c hab hbc => ?_) (fun a b => ?_) _
    · exact decide_eq_true ((of_decide_eq_true hab).trans (of_decide_eq_true hbc))
    · rcases Turn.notAfter_total a.1 b.1 with h | h <;> simp [h]
  exact hsorted.imp of_decide_eq_true

theorem perm_due (g : Agenda α) (now : Instant) :
    (g.due now).Perm (g.entries.filter (·.1.deadline ≤ now)) := List.mergeSort_perm _ _

theorem mem_due : e ∈ g.due now ↔ e ∈ g.entries ∧ e.1.deadline ≤ now := by
  rw [(perm_due g now).mem_iff, List.mem_filter, decide_eq_true_iff]

/-- What is due is the first entry and then what is due of the others. -/
theorem Numbered.due_cons (h : g.Numbered) (hf : g.first? = some e) (hdue : e.1.deadline ≤ now) :
    g.due now = e :: (g.drop e.1.ticket).due now := by
  have hm := mem_of_first? hf
  have hperm : (g.due now).Perm (e :: (g.drop e.1.ticket).due now) := by
    refine (perm_due g now).trans ?_
    refine ((h.perm_drop hm).filter _).trans ?_
    rw [List.filter_cons_of_pos (by simpa using hdue)]
    exact (perm_due _ now).symm.cons e
  have hsorted : (e :: (g.drop e.1.ticket).due now).Pairwise fun e f => e.1.NotAfter f.1 := by
    refine List.pairwise_cons.mpr ⟨fun f hf' => ?_, pairwise_due _ now⟩
    exact notAfter_of_first? hf (List.mem_of_mem_filter (mem_due.mp hf').1)
  refine hperm.eq_of_pairwise (fun a b ha _ hab hba => ?_) (pairwise_due g now) hsorted
  have hb : b ∈ g.due now := hperm.mem_iff.mpr ‹_›
  exact h.eq_of_ticket (mem_due.mp ha).1 (mem_due.mp hb).1
    (congrArg Turn.ticket (hab.antisymm hba))

theorem later_drop (hdue : e.1.deadline ≤ now) (h : g.Numbered) (hm : e ∈ g.entries) :
    (g.drop e.1.ticket).later now = g.later now := by
  unfold later drop
  simp only [List.filter_filter, Agenda.mk.injEq, and_true]
  refine List.filter_congr fun f hf => ?_
  by_cases ht : f.1.ticket = e.1.ticket
  · rw [h.eq_of_ticket hf hm ht]
    simp [hdue]
  · simp [ht]

theorem not_due_of_popDue (hnone : (g.popDue now).2 = none) :
    g.popDue now = (g, none) ∧ ∀ f ∈ g.entries, ¬ f.1.deadline ≤ now := by
  unfold popDue at hnone ⊢
  cases hf : g.first? with
  | none =>
    refine ⟨rfl, fun f hm => ?_⟩
    rw [first?_eq_none_iff.mp hf] at hm
    simp at hm
  | some e =>
    by_cases hdue : e.1.deadline ≤ now
    · simp [hf, hdue] at hnone
    · simp only [if_neg hdue]
      exact ⟨trivial, not_due_of_first? hf hdue⟩

theorem first_of_popDue {entry : Ticket × α} (hsome : (g.popDue now).2 = some entry) :
    ∃ e, g.first? = some e ∧ e.1.deadline ≤ now ∧ entry = (e.1.ticket, e.2) ∧
      (g.popDue now).1 = g.drop e.1.ticket := by
  unfold popDue at hsome ⊢
  cases hf : g.first? with
  | none => simp [hf] at hsome
  | some e =>
    by_cases hdue : e.1.deadline ≤ now
    · simp only [hf, if_pos hdue, Option.some.injEq] at hsome
      exact ⟨e, rfl, hdue, hsome.symm, by simp only [if_pos hdue]⟩
    · simp [hf, hdue] at hsome

/-! ## Whatever was scheduled -/

theorem Numbered.perform (h : g.Numbered) (op : Op α) : (g.perform op).1.Numbered := by
  cases op with
  | add deadline action => exact h.add deadline action
  | cancel ticket => exact h.drop ticket
  | popDue now =>
    show (g.popDue now).1.Numbered
    unfold Agenda.popDue
    split
    · split_ifs
      · exact h.drop _
      · exact h
    · exact h
  | drainDue now => exact h.later now
  | isPending | nextDeadline | size | isEmpty => exact h

theorem perm_due_later (g : Agenda α) (now : Instant) :
    (g.due now ++ (g.later now).entries).Perm g.entries :=
  ((perm_due g now).append_right _).trans (List.filter_append_perm _ g.entries)

/-- What one operation delivers, cancels and leaves is what was pending and what it schedules. -/
theorem Numbered.perm_perform (h : g.Numbered) (op : Op α) :
    (Schedule.deliveredBy (op, (g.perform op).2) ++ Schedule.cancelledBy (op, (g.perform op).2) ++
      listed (g.perform op).1.entries).Perm
    (Schedule.scheduledBy (op, (g.perform op).2) ++ listed g.entries) := by
  cases op with
  | isPending | nextDeadline | size | isEmpty => exact .refl _
  | add deadline action =>
    show (listed (g.entries ++ [_])).Perm (_ :: listed g.entries)
    rw [listed, List.map_append]
    exact List.perm_append_comm
  | cancel ticket =>
    show (((g.find? ticket).map (ticket, ·)).toList ++ listed (g.drop ticket).entries).Perm
      (listed g.entries)
    cases hfind : g.find? ticket with
    | none =>
      have hno : ∀ e ∈ g.entries, e.1.ticket ≠ ticket := fun e he ht => by
        rw [h.find?_eq_some.mpr ⟨e, he, ht, rfl⟩] at hfind
        simp at hfind
      rw [drop_eq_self hno]
      exact .refl _
    | some action =>
      obtain ⟨e, he, rfl, rfl⟩ := h.find?_eq_some.mp hfind
      exact (h.perm_listed_drop he).symm
  | popDue now =>
    show (((g.popDue now).2.toList ++ []) ++ listed (g.popDue now).1.entries).Perm (listed g.entries)
    rw [List.append_nil]
    unfold Agenda.popDue
    split
    · next e hf =>
      split_ifs
      · exact (h.perm_listed_drop (mem_of_first? hf)).symm
      · exact .refl _
    · exact .refl _
  | drainDue now =>
    show ((listed (g.due now) ++ []) ++ listed (g.later now).entries).Perm (listed g.entries)
    rw [List.append_nil, listed, listed, ← List.map_append]
    exact (perm_due_later g now).map _

/-- What a run delivers, cancels and leaves is what was pending before and what the run schedules. -/
theorem Numbered.perm_run (h : g.Numbered) (ops : List (Op α)) :
    ((Schedule.transcript Agenda.perform g ops).flatMap Schedule.deliveredBy ++
      (Schedule.transcript Agenda.perform g ops).flatMap Schedule.cancelledBy ++
      listed (Schedule.after Agenda.perform g ops).entries).Perm
    (listed g.entries ++ (Schedule.transcript Agenda.perform g ops).flatMap Schedule.scheduledBy) := by
  induction ops generalizing g with
  | nil =>
    show (listed g.entries).Perm (listed g.entries ++ [])
    rw [List.append_nil]
  | cons op ops ih =>
    have hstep := h.perm_perform op
    have hrest := ih (h.perform op)
    classical
    refine List.perm_iff_count.mpr fun x => ?_
    have hx := hstep.count_eq x
    have hx' := hrest.count_eq x
    simp only [Schedule.transcript, List.flatMap_cons]
    simp only [List.count_append, Schedule.after, List.foldl_cons] at *
    omega

theorem next_popDue (g : Agenda α) (now : Instant) : (g.popDue now).1.next = g.next := by
  unfold popDue
  split
  · split_ifs <;> rfl
  · rfl

theorem next_perform (g : Agenda α) (op : Op α) :
    (g.perform op).1.next = g.next + if op.adds then 1 else 0 := by
  cases op with
  | add deadline action => rfl
  | popDue now => exact next_popDue g now
  | cancel ticket | isPending ticket | nextDeadline | drainDue now | size | isEmpty => rfl

/-- The tickets of a run are counted up. -/
theorem scheduled_tickets (g : Agenda α) (ops : List (Op α)) :
    ((Schedule.transcript perform g ops).flatMap Schedule.scheduledBy).map (·.1.number) =
      List.range' g.next (ops.countP Op.adds) := by
  induction ops generalizing g with
  | nil => rfl
  | cons op ops ih =>
    simp only [Schedule.transcript, List.flatMap_cons, List.map_append, ih, next_perform]
    cases op with
    | add deadline action =>
      show g.next :: List.range' (g.next + 1) (ops.countP Op.adds) = _
      rw [List.countP_cons_of_pos rfl, List.range'_succ]
    | cancel ticket | isPending ticket | nextDeadline | popDue now | drainDue now | size | isEmpty =>
      show List.range' g.next (ops.countP Op.adds) = _
      rw [List.countP_cons_of_neg Bool.false_ne_true]

end Agenda

end Adventurer
