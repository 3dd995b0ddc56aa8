import Adventurer.Engine
import Adventurer.Proofs.Collection.Heap
import Adventurer.Proofs.Schedule.Agenda
import Mathlib.Tactic.Common

/-!
# Schedules and agendas

A schedule answers like an agenda (`Schedule.answers_like_agenda`).  What links the two is `Follows`: the
pending actions are those of the agenda, each of them has its turn in the queue, and a turn in the queue
whose ticket is still pending is the turn of that entry, so that only dead turns are ever skipped.
-/

namespace Adventurer

variable {α : Type}

/-! ## Turns are compared as they come up -/

namespace Turn

theorem compare_eq (t u : Turn) : compare t u =
    (compare t.deadline.millis u.deadline.millis).then
      (compare t.ticket.number u.ticket.number) := by
  obtain ⟨⟨d⟩, ⟨k⟩⟩ := t
  obtain ⟨⟨e⟩, ⟨l⟩⟩ := u
  simp [compare, instOrdTurn.ord, instOrdInstant.ord, instOrdTicket.ord]

theorem isLE_compare {t u : Turn} : (compare t u).isLE ↔ t.NotAfter u := by
  rw [compare_eq, notAfter_iff, Ordering.isLE_then_iff_or, Nat.compare_eq_lt, Nat.isLE_compare,
    Nat.compare_eq_eq]

instance : Std.TransOrd Turn where
  eq_swap {t u} := by
    rw [compare_eq, compare_eq, Ordering.swap_then, ← Std.OrientedCmp.eq_swap,
      ← Std.OrientedCmp.eq_swap]
  isLE_trans {t u v} htu huv := by
    rw [isLE_compare] at *
    exact htu.trans huv

end Turn

theorem Ticket.compare_eq_lt {t u : Ticket} : compare t u = .lt ↔ t.number < u.number := by
  obtain ⟨k⟩ := t
  obtain ⟨l⟩ := u
  simp [compare, instOrdTicket.ord]

/-! ## Maps and queues -/

theorem SortedMap.insertEntry_of_larger {κ β : Type} [DecidableEq κ] [Ord κ] {key : κ} {value : β}
    {l : List (κ × β)} (hl : ∀ e ∈ l, e.1 ≠ key ∧ compare key e.1 ≠ .lt) :
    SortedMap.insertEntry key value l = l ++ [(key, value)] := by
  induction l with
  | nil => rfl
  | cons e l ih =>
    obtain ⟨hne, hle⟩ := hl e List.mem_cons_self
    rw [SortedMap.insertEntry, if_neg hne, if_neg hle, ih fun f hf => hl f (List.mem_cons_of_mem _ hf)]
    rfl

namespace Heap

variable {κ : Type} {h : Heap κ} {top : κ}

theorem mem_toList_of_top? (ht : h.top? = some top) : top ∈ h.toList := by
  cases h with
  | empty => simp [top?] at ht
  | node r first left right =>
    obtain rfl := Option.some.inj ht
    exact List.mem_cons_self

theorem toList_of_top?_eq_none (ht : h.top? = none) : h.toList = [] := by
  cases h with
  | empty => rfl
  | node r first left right => simp [top?] at ht

end Heap

namespace Schedule

/-- A queue without its dead top turns is ordered, has lost no live turn, and has a live turn on top. -/
structure Skimmed (pending : SortedMap Ticket α) (queue skimmed : Heap Turn) : Prop where
  ordered : skimmed.Ordered
  subset : ∀ t ∈ skimmed.toList, t ∈ queue.toList
  keeps : ∀ t ∈ queue.toList, pending.contains t.ticket → t ∈ skimmed.toList
  top : ∀ t, skimmed.top? = some t → pending.contains t.ticket

theorem skimmed_skim (pending : SortedMap Ticket α) (queue : Heap Turn) (ho : queue.Ordered) :
    Skimmed pending queue (skim pending queue) := by
  fun_induction skim pending queue with
  | case1 queue htop =>
    exact ⟨ho, fun _ h => h, fun _ h _ => h, fun t ht => by rw [htop] at ht; simp at ht⟩
  | case2 queue turn htop hlive =>
    refine ⟨ho, fun _ h => h, fun _ h _ => h, fun t ht => ?_⟩
    rw [htop] at ht
    exact Option.some.inj ht ▸ hlive
  | case3 queue turn htop hdead ih =>
    obtain ⟨hord, hsub, hkeeps, hlive⟩ := ih ho.pop
    refine ⟨hord, fun t ht => ?_, fun t ht hl => ?_, hlive⟩
    · exact (Heap.mem_toList_pop htop).mpr (.inr (hsub t ht))
    · rcases (Heap.mem_toList_pop htop).mp ht with rfl | ht
      · exact absurd hl hdead
      · exact hkeeps t ht hl

/-! ## A schedule that follows an agenda -/

/-- The pending actions are those of the agenda, and the turns in the queue lead to them. -/
structure Follows (s : Schedule α) (g : Agenda α) : Prop where
  numbered : g.Numbered
  pending : s.pending.entries = Agenda.listed g.entries
  next : s.next = ⟨g.next⟩
  ordered : s.queue.Ordered
  queued : ∀ e ∈ g.entries, e.1 ∈ s.queue.toList
  known : ∀ t ∈ s.queue.toList, ∀ e ∈ g.entries, e.1.ticket = t.ticket → e.1 = t
  older : ∀ t ∈ s.queue.toList, t.ticket.number < g.next

variable {s t : Schedule α} {g : Agenda α} {e : Turn × α} {now : Instant} {ticket : Ticket}

theorem follows_empty : Follows (empty : Schedule α) Agenda.empty where
  numbered := Agenda.numbered_empty
  pending := rfl
  next := rfl
  ordered := trivial
  queued e he := by simp [Agenda.empty] at he
  known t ht := by simp [empty, Heap.toList] at ht
  older t ht := by simp [empty, Heap.toList] at ht

theorem Follows.find? (h : Follows s g) (ticket : Ticket) :
    s.pending.find? ticket = g.find? ticket := by
  unfold SortedMap.find? Agenda.find?
  rw [h.pending, Agenda.listed, List.find?_map, Option.map_map]
  rfl

theorem Follows.contains_iff (h : Follows s g) :
    s.pending.contains ticket ↔ ∃ e ∈ g.entries, e.1.ticket = ticket := by
  unfold SortedMap.contains
  rw [h.find?, Option.isSome_iff_exists]
  constructor
  · rintro ⟨action, hfind⟩
    obtain ⟨e, he, ht, -⟩ := h.numbered.find?_eq_some.mp hfind
    exact ⟨e, he, ht⟩
  · rintro ⟨e, he, ht⟩
    exact ⟨e.2, h.numbered.find?_eq_some.mpr ⟨e, he, ht, rfl⟩⟩

theorem Follows.add (h : Follows s g) (hroom : g.next < max64) (deadline : Instant) (action : α) :
    Follows (s.add deadline action).1 (g.add deadline action).1 where
  numbered := h.numbered.add deadline action
  pending := by
    show SortedMap.insertEntry s.next action s.pending.entries = _
    rw [SortedMap.insertEntry_of_larger, h.pending, h.next]
    · show Agenda.listed g.entries ++ _ = List.map _ (g.entries ++ _)
      rw [List.map_append]
      rfl
    · intro e he
      rw [h.pending] at he
      obtain ⟨f, hf, rfl⟩ := List.mem_map.mp he
      have hlt := h.numbered.older f hf
      rw [h.next]
      refine ⟨fun heq => ?_, fun hcmp => ?_⟩
      · rw [show f.1.ticket = ⟨g.next⟩ from heq] at hlt
        exact absurd hlt (Nat.lt_irrefl _)
      · have hless : g.next < f.1.ticket.number := Ticket.compare_eq_lt.mp hcmp
        omega
  next := by
    show Ticket.mk ((s.next.number + 1) % (max64 + 1)) = ⟨g.next + 1⟩
    have hnext : s.next.number = g.next := congrArg Ticket.number h.next
    rw [hnext, Nat.mod_eq_of_lt (by omega)]
  ordered := h.ordered.push _
  queued e he := by
    rw [show (s.add deadline action).1.queue = s.queue.push ⟨deadline, s.next⟩ from rfl,
      Heap.mem_toList_push]
    rcases List.mem_append.mp he with he | he
    · exact .inr (h.queued e he)
    · rw [List.mem_singleton.mp he, h.next]
      exact .inl rfl
  known t ht e he heq := by
    rcases Heap.mem_toList_push.mp ht with rfl | ht
    · rcases List.mem_append.mp he with he | he
      · have hlt := h.numbered.older e he
        rw [heq, h.next] at hlt
        exact absurd hlt (Nat.lt_irrefl _)
      · rw [List.mem_singleton.mp he, h.next]
    · rcases List.mem_append.mp he with he | he
      · exact h.known t ht e he heq
      · have hlt := h.older t ht
        rw [← heq, List.mem_singleton.mp he] at hlt
        exact absurd hlt (Nat.lt_irrefl _)
  older t ht := by
    rcases Heap.mem_toList_push.mp ht with rfl | ht
    · rw [h.next]
      exact Nat.lt_succ_self _
    · exact (h.older t ht).trans (Nat.lt_succ_self _)

theorem Follows.cancel (h : Follows s g) (ticket : Ticket) :
    Follows (s.cancel ticket).1 (g.drop ticket) where
  numbered := h.numbered.drop ticket
  pending := by
    show s.pending.entries.filter (·.1 ≠ ticket) = _
    rw [h.pending, Agenda.listed, List.filter_map]
    rfl
  next := h.next
  ordered := h.ordered
  queued e he := h.queued e (List.mem_of_mem_filter he)
  known t ht e he := h.known t ht e (List.mem_of_mem_filter he)
  older := h.older

theorem Follows.settle (h : Follows s g) : Follows s.settle g := by
  have hskim := skimmed_skim s.pending s.queue h.ordered
  refine ⟨h.numbered, h.pending, h.next, hskim.ordered, fun e he => ?_, fun t ht => ?_, fun t ht => ?_⟩
  · exact hskim.keeps e.1 (h.queued e he) (h.contains_iff.mpr ⟨e, he, rfl⟩)
  · exact h.known t (hskim.subset t ht)
  · exact h.older t (hskim.subset t ht)

/-- Once settled, the turn on top is that of the entry that comes up first. -/
theorem Follows.top?_settle (h : Follows s g) : s.settle.queue.top? = g.first?.map (·.1) := by
  have hskim := skimmed_skim s.pending s.queue h.ordered
  have hset := h.settle
  cases htop : s.settle.queue.top? with
  | none =>
    have hnil : g.entries = [] := by
      refine List.eq_nil_iff_forall_not_mem.mpr fun e he => ?_
      have hm := hset.queued e he
      rw [Heap.toList_of_top?_eq_none htop] at hm
      simp at hm
    rw [Agenda.first?_eq_none_iff.mpr hnil]
    rfl
  | some turn =>
    obtain ⟨e, he, ht⟩ := h.contains_iff.mp (hskim.top turn htop)
    have hturn : e.1 = turn := hset.known turn (Heap.mem_toList_of_top? htop) e he ht
    have hfirst : g.first? = some e := h.numbered.first?_eq_some he fun f hf => by
      rw [hturn]
      exact Turn.isLE_compare.mp (hset.ordered.isLE_of_top? htop (hset.queued f hf))
    rw [hfirst, Option.map_some, hturn]

/-- Taking the turn of the first entry out together with its action. -/
theorem Follows.pop (h : Follows s g) {turn : Turn} (htop : s.queue.top? = some turn) :
    Follows { s with queue := s.queue.pop, pending := s.pending.erase turn.ticket }
      (g.drop turn.ticket) := by
  have hcancel := h.cancel turn.ticket
  have hsub : ∀ t ∈ s.queue.pop.toList, t ∈ s.queue.toList := fun t ht =>
    (Heap.mem_toList_pop htop).mpr (.inr ht)
  refine ⟨hcancel.numbered, hcancel.pending, h.next, h.ordered.pop, fun e he => ?_, fun t ht => ?_,
    fun t ht => ?_⟩
  · rcases (Heap.mem_toList_pop htop).mp (hcancel.queued e he) with hfirst | hm
    · have hne := (List.mem_filter.mp he).2
      simp [hfirst] at hne
    · exact hm
  · exact hcancel.known t (hsub t ht)
  · exact h.older t (hsub t ht)

theorem Follows.popDue (h : Follows s g) (now : Instant) :
    Follows (s.popDue now).1 (g.popDue now).1 ∧ (s.popDue now).2 = (g.popDue now).2 := by
  have hset := h.settle
  have htop := h.top?_settle
  unfold Schedule.popDue Agenda.popDue
  cases hfirst : g.first? with
  | none =>
    rw [hfirst, Option.map_none] at htop
    simp only [htop]
    exact ⟨hset, trivial⟩
  | some e =>
    rw [hfirst, Option.map_some] at htop
    simp only [htop]
    by_cases hdue : e.1.deadline ≤ now
    · have hlt : ¬ now < e.1.deadline := by
        rw [Instant.lt_def]
        rw [Instant.le_def] at hdue
        omega
      have hfind : s.settle.pending.find? e.1.ticket = some e.2 :=
        (hset.find? _).trans (h.numbered.find?_eq_some.mpr ⟨e, Agenda.mem_of_first? hfirst, rfl, rfl⟩)
      rw [if_neg hlt, if_pos hdue, hfind]
      exact ⟨hset.pop htop, rfl⟩
    · have hlt : now < e.1.deadline := by
        rw [Instant.lt_def]
        rw [Instant.le_def] at hdue
        omega
      rw [if_pos hlt, if_neg hdue]
      exact ⟨hset, rfl⟩

theorem Follows.drainDue (h : Follows s g) (now : Instant) :
    Follows (s.drainDue now).1 (g.later now) ∧
      (s.drainDue now).2 = Agenda.listed (g.due now) := by
  fun_induction Schedule.drainDue s now generalizing g with
  | case1 s t hpop =>
    obtain ⟨hfol, hans⟩ := h.popDue now
    rw [hpop] at hfol hans
    obtain ⟨hstay, hlater⟩ := Agenda.not_due_of_popDue hans.symm
    rw [hstay] at hfol
    rw [Agenda.later_eq_self hlater, Agenda.due_eq_nil hlater]
    exact ⟨hfol, rfl⟩
  | case2 s t entry hpop rest entries hrest ih =>
    obtain ⟨hfol, hans⟩ := h.popDue now
    rw [hpop] at hfol hans
    obtain ⟨e, hfirst, hdue, rfl, hdrop⟩ := Agenda.first_of_popDue hans.symm
    rw [hdrop] at hfol
    obtain ⟨hend, hentries⟩ := ih hfol
    rw [hrest, Agenda.later_drop hdue h.numbered (Agenda.mem_of_first? hfirst)] at hend
    rw [hrest] at hentries
    refine ⟨hend, ?_⟩
    show (e.1.ticket, e.2) :: entries = _
    rw [h.numbered.due_cons hfirst hdue, show entries = _ from hentries]
    rfl

/-! ## Runs -/

def perform (s : Schedule α) : Op α → Schedule α × Answer α
  | .add deadline action => ((s.add deadline action).1, .ticket (s.add deadline action).2)
  | .cancel ticket => ((s.cancel ticket).1, .action (s.cancel ticket).2)
  | .isPending ticket => (s, .flag (s.isPending ticket))
  | .nextDeadline => (s.nextDeadline.1, .deadline s.nextDeadline.2)
  | .popDue now => ((s.popDue now).1, .entry (s.popDue now).2)
  | .drainDue now => ((s.drainDue now).1, .entries (s.drainDue now).2)
  | .size => (s, .count s.size)
  | .isEmpty => (s, .flag s.isEmpty)

/-- One step of a schedule is one step of its agenda. -/
theorem Follows.perform (h : Follows s g) (op : Op α) (hroom : op.adds → g.next < max64) :
    Follows (s.perform op).1 (g.perform op).1 ∧ (s.perform op).2 = (g.perform op).2 := by
  cases op with
  | add deadline action => exact ⟨h.add (hroom rfl) deadline action, congrArg Answer.ticket h.next⟩
  | cancel ticket => exact ⟨h.cancel ticket, congrArg Answer.action (h.find? ticket)⟩
  | isPending ticket =>
    refine ⟨h, congrArg Answer.flag ?_⟩
    show (s.pending.find? ticket).isSome = (g.find? ticket).isSome
    rw [h.find?]
  | nextDeadline =>
    refine ⟨h.settle, congrArg Answer.deadline ?_⟩
    show s.settle.queue.top?.map (·.deadline) = _
    rw [h.top?_settle, Option.map_map]
    rfl
  | popDue now =>
    obtain ⟨hfol, hans⟩ := h.popDue now
    exact ⟨hfol, congrArg Answer.entry hans⟩
  | drainDue now =>
    obtain ⟨hfol, hans⟩ := h.drainDue now
    exact ⟨hfol, congrArg Answer.entries hans⟩
  | size =>
    refine ⟨h, congrArg Answer.count ?_⟩
    show s.pending.entries.length = _
    rw [h.pending, Agenda.listed, List.length_map]
  | isEmpty =>
    refine ⟨h, congrArg Answer.flag ?_⟩
    show s.pending.entries.isEmpty = _
    rw [h.pending, Agenda.listed, List.isEmpty_map]

/-- A run that counts no more tickets than there are answers like a run of the agenda. -/
theorem Follows.run (h : Follows s g) (ops : List (Op α))
    (hfew : g.next + ops.countP Op.adds ≤ max64) :
    Follows (after Schedule.perform s ops) (after Agenda.perform g ops) ∧
      transcript Schedule.perform s ops = transcript Agenda.perform g ops := by
  induction ops generalizing s g with
  | nil => exact ⟨h, rfl⟩
  | cons op ops ih =>
    have hroom : op.adds → g.next < max64 := fun hadd => by
      rw [List.countP_cons_of_pos hadd] at hfew
      omega
    obtain ⟨hstep, hans⟩ := h.perform op hroom
    rw [List.countP_cons, Nat.add_comm (ops.countP Op.adds), ← Nat.add_assoc, ← Agenda.next_perform]
      at hfew
    obtain ⟨hend, hanswers⟩ := ih hstep hfew
    refine ⟨hend, ?_⟩
    rw [transcript, transcript, hans, hanswers]

theorem after_concat {σ : Type} (step : σ → Op α → σ × Answer α) (s : σ) (ops : List (Op α))
    (op : Op α) : after step s (ops ++ [op]) = (step (after step s ops) op).1 := List.foldl_concat ..

/-- **A schedule is a plain list of pending actions.**  A run that schedules fewer actions than there
are tickets gets the answers of an agenda, one after the other.  What it has delivered, what it has
cancelled and what it has left pending is what it has scheduled, action for action, under tickets that
are all different.  And an engine that runs what is due carries out the due entries of the agenda, by
deadline and then by ticket, and leaves the schedule as draining it would. -/
theorem answers_like_agenda {σ τ : Type} (ops : List (Op α)) (hops : ops.countP Op.adds ≤ max64)
    (work : List (Op ScheduledAction)) (hwork : work.countP Op.adds ≤ max64) (e : Engine σ τ)
    (s : Situation σ τ) :
    transcript perform empty ops = transcript Agenda.perform Agenda.empty ops ∧
    ((transcript perform empty ops).flatMap deliveredBy ++
        (transcript perform empty ops).flatMap cancelledBy ++
        (after perform empty ops).pending.entries).Perm
      ((transcript perform empty ops).flatMap scheduledBy) ∧
    (((transcript perform empty ops).flatMap scheduledBy).map (·.1)).Nodup ∧
    e.runDue s (after perform empty work) = (do
      let due := (after Agenda.perform Agenda.empty work).due e.rules.now
      let t ← e.carryOutAll s (due.map (·.2))
      pure (t, after perform empty (work ++ [.drainDue e.rules.now]), due.length)) := by
  obtain ⟨hend, hanswers⟩ := follows_empty.run ops ((Nat.zero_add _).trans_le hops)
  obtain ⟨hdue, -⟩ := follows_empty.run work ((Nat.zero_add _).trans_le hwork)
  refine ⟨hanswers, ?_, ?_, ?_⟩
  · rw [hanswers, hend.pending]
    exact Agenda.numbered_empty.perm_run ops
  · have htickets := Agenda.scheduled_tickets Agenda.empty ops
    rw [hanswers]
    refine List.Nodup.of_map Ticket.number ?_
    rw [List.map_map]
    exact htickets ▸ List.nodup_range' ..
  · obtain ⟨-, hdrained⟩ := hdue.drainDue e.rules.now
    rw [after_concat]
    unfold Engine.runDue
    show (e.carryOutAll s (((after perform empty work).drainDue e.rules.now).2.map (·.2)) >>= _) = _
    rw [hdrained, Agenda.listed, List.map_map, List.length_map]
    rfl

/-- Three actions are put off, the first one to come up is cancelled, and the next one comes up. -/
def errands : List (Op ScheduledAction) :=
  [.add ⟨300⟩ .forceRefresh, .add ⟨100⟩ .forceRefresh, .add ⟨100⟩ (.unequip .head 1), .cancel ⟨1⟩,
    .isPending ⟨1⟩, .nextDeadline, .popDue ⟨99⟩, .popDue ⟨100⟩, .cancel ⟨2⟩, .size]

/-- A character that wears nothing. -/
def idler : Situation Unit Unit :=
  ⟨{ character := { id := ⟨1⟩, name := "Tester" }, arena := .empty }, (), ()⟩

theorem answers_like_agenda_errands :
    errands.countP Op.adds ≤ max64 ∧
    (transcript perform empty errands).map (·.2) =
      [.ticket ⟨0⟩, .ticket ⟨1⟩, .ticket ⟨2⟩, .action (some .forceRefresh), .flag false,
        .deadline (some ⟨100⟩), .entry none, .entry (some (⟨2⟩, .unequip .head 1)), .action none,
        .count 1] ∧
    (Engine.plain { now := ⟨200⟩ }).runDue idler (after perform empty (errands.take 3)) = (do
      let t ← (Engine.plain { now := ⟨200⟩ }).carryOutAll idler [.forceRefresh, .unequip .head 1]
      pure (t, after perform empty (errands.take 3 ++ [.drainDue ⟨200⟩]), 2)) := by
  have hfew : errands.countP Op.adds ≤ max64 := by decide
  have hwork : (errands.take 3).countP Op.adds ≤ max64 := by decide
  obtain ⟨hanswers, -, -, hdue⟩ :=
    answers_like_agenda errands hfew (errands.take 3) hwork (Engine.plain { now := ⟨200⟩ }) idler
  refine ⟨hfew, ?_, ?_⟩
  · rw [hanswers]
    rfl
  · have hlist : (after Agenda.perform Agenda.empty (errands.take 3)).due ⟨200⟩ =
        [(⟨⟨100⟩, ⟨1⟩⟩, .forceRefresh), (⟨⟨100⟩, ⟨2⟩⟩, .unequip .head 1)] :=
      List.mergeSort_of_pairwise (by decide)
    rw [hdue, show (Engine.plain { now := ⟨200⟩ }).rules.now = ⟨200⟩ from rfl, hlist]
    rfl

end Schedule

end Adventurer
