import Adventurer.Proofs.Schedule.Refinement

/-!
# Renumbering

An agenda does not depend on the numbers of its tickets, only on their order.  With all numbers raised by the
same it schedules, drops and delivers the same actions in the same order, under the raised numbers.
-/

namespace Adventurer

variable {α : Type}

/-- The ticket whose number is larger by `k`. -/
def Ticket.raise (k : Nat) (ticket : Ticket) : Ticket := ⟨ticket.number + k⟩

namespace Ticket

variable {k : Nat} {t u : Ticket}

theorem raise_injective (k : Nat) : Function.Injective (raise k) := by
  rintro ⟨m⟩ ⟨n⟩ h
  have hnumber : m + k = n + k := congrArg Ticket.number h
  rw [Nat.add_right_cancel hnumber]

@[simp] theorem raise_inj : t.raise k = u.raise k ↔ t = u := (raise_injective k).eq_iff

end Ticket

/-- The same turn under a raised ticket. -/
def Turn.raise (k : Nat) (turn : Turn) : Turn := { turn with ticket := turn.ticket.raise k }

theorem Turn.notAfter_raise {k : Nat} {t u : Turn} : (t.raise k).NotAfter (u.raise k) ↔ t.NotAfter u := by
  rw [notAfter_iff, notAfter_iff]
  exact or_congr_right (and_congr_right fun _ => Nat.add_le_add_iff_right)

namespace Agenda

/-- An entry under a raised ticket. -/
def raiseEntry (k : Nat) (e : Turn × α) : Turn × α := (e.1.raise k, e.2)

/-- The same agenda with all tickets raised. -/
def raise (k : Nat) (g : Agenda α) : Agenda α where
  entries := g.entries.map (raiseEntry k)
  next := g.next + k

variable {k : Nat} {g : Agenda α}

theorem raise_zero (g : Agenda α) : g.raise 0 = g := by
  have hentry : (raiseEntry 0 : Turn × α → Turn × α) = id := rfl
  unfold raise
  rw [hentry, List.map_id, Nat.add_zero]

theorem raise_add (deadline : Instant) (action : α) :
    (g.raise k).add deadline action =
      ((g.add deadline action).1.raise k, (g.add deadline action).2.raise k) := by
  unfold add raise
  simp only [List.map_append, List.map_singleton, Nat.add_right_comm]
  rfl

theorem raise_drop (ticket : Ticket) : (g.raise k).drop (ticket.raise k) = (g.drop ticket).raise k := by
  unfold drop raise
  rw [List.filter_map]
  congr 2
  exact List.filter_congr fun e _ => by simp [raiseEntry, Turn.raise]

theorem raise_find? (ticket : Ticket) : (g.raise k).find? (ticket.raise k) = g.find? ticket := by
  have hsame : (fun e : Turn × α => decide (e.1.ticket = ticket.raise k)) ∘ raiseEntry k =
      fun e => decide (e.1.ticket = ticket) := by
    funext e
    simp [raiseEntry, Turn.raise]
  unfold find? raise
  rw [List.find?_map, hsame, Option.map_map]
  rfl

theorem raise_later (now : Instant) : (g.raise k).later now = (g.later now).raise k := by
  unfold later raise
  rw [List.filter_map]
  rfl

theorem raise_due (now : Instant) : (g.raise k).due now = (g.due now).map (raiseEntry k) := by
  unfold due raise
  rw [List.filter_map, List.map_mergeSort fun e _ f _ => ?_]
  · rfl
  · exact decide_eq_decide.mpr Turn.notAfter_raise.symm

/-- The actions that come up are the same. -/
theorem actions_raise_due (now : Instant) :
    (listed ((g.raise k).due now)).map (·.2) = (listed (g.due now)).map (·.2) := by
  rw [raise_due]
  simp only [listed, List.map_map]
  rfl

end Agenda

end Adventurer
