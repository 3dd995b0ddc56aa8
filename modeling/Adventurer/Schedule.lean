import Adventurer.Clock
import Adventurer.Collection.Heap
import Adventurer.Collection.SortedMap

/-!
# Schedules

Actions put off to a deadline.  They come out by deadline, and those of one deadline in the order in
which they were scheduled.  Cancelling an action drops it at once; its place in the queue is skipped
when it comes up.
-/

namespace Adventurer

/-- The number of a scheduled action, by which it can be cancelled. -/
structure Ticket where
  number : Nat
  deriving DecidableEq, Repr, Ord, Inhabited

/-- The place of an action in the queue. -/
structure Turn where
  deadline : Instant
  ticket : Ticket
  deriving DecidableEq, Repr, Ord

/-- The queue of turns and the actions that are still pending. -/
structure Schedule (α : Type) where
  queue : Heap Turn := .empty
  pending : SortedMap Ticket α := .empty
  next : Ticket := ⟨0⟩

namespace Schedule

variable {α : Type}

def empty : Schedule α := {}

instance : Inhabited (Schedule α) := ⟨empty⟩

/-- Puts an action off to a deadline.  Tickets are counted in sixty-four bits. -/
def add (s : Schedule α) (deadline : Instant) (action : α) : Schedule α × Ticket :=
  ({ queue := s.queue.push ⟨deadline, s.next⟩
     pending := s.pending.insert s.next action
     next := ⟨(s.next.number + 1) % (max64 + 1)⟩ }, s.next)

/-- Drops an action; tells which one if it was still pending. -/
def cancel (s : Schedule α) (ticket : Ticket) : Schedule α × Option α :=
  ({ s with pending := s.pending.erase ticket }, s.pending.find? ticket)

def isPending (s : Schedule α) (ticket : Ticket) : Bool := s.pending.contains ticket

/-- Takes the turns of cancelled actions off the top of a queue. -/
def skim (pending : SortedMap Ticket α) (queue : Heap Turn) : Heap Turn :=
  match _ : queue.top? with
  | none => queue
  | some turn => if pending.contains turn.ticket then queue else skim pending queue.pop
termination_by queue.size
decreasing_by exact Heap.size_pop_lt ‹_›

/-- The schedule without cancelled actions on top. -/
def settle (s : Schedule α) : Schedule α := { s with queue := skim s.pending s.queue }

/-- The deadline of the action that is due next. -/
def nextDeadline (s : Schedule α) : Schedule α × Option Instant :=
  let s := s.settle
  (s, s.queue.top?.map (·.deadline))

/-- Takes the first action out if its deadline has come. -/
def popDue (s : Schedule α) (now : Instant) : Schedule α × Option (Ticket × α) :=
  let s := s.settle
  match s.queue.top? with
  | none => (s, none)
  | some turn =>
    if now < turn.deadline then (s, none)
    else
      ({ s with queue := s.queue.pop, pending := s.pending.erase turn.ticket },
        (s.pending.find? turn.ticket).map fun action => (turn.ticket, action))

/-- Number of pending actions. -/
def size (s : Schedule α) : Nat := s.pending.size

def isEmpty (s : Schedule α) : Bool := s.pending.isEmpty

theorem size_skim_le (pending : SortedMap Ticket α) (queue : Heap Turn) :
    (skim pending queue).size ≤ queue.size := by
  fun_induction skim pending queue with
  | case1 => exact Nat.le_refl _
  | case2 => exact Nat.le_refl _
  | case3 queue turn h _ ih => exact Nat.le_trans ih (Nat.le_of_lt (Heap.size_pop_lt h))

/-- Every action taken out shortens the queue. -/
theorem queue_size_popDue_lt {s t : Schedule α} {now : Instant} {entry : Ticket × α}
    (h : s.popDue now = (t, some entry)) : t.queue.size < s.queue.size := by
  simp only [popDue] at h
  split at h
  · simp at h
  · next turn top =>
    split at h
    · simp at h
    · simp only [Prod.mk.injEq] at h
      rw [← h.1]
      exact Nat.lt_of_lt_of_le (Heap.size_pop_lt top) (size_skim_le _ _)

/-- Takes every action out whose deadline has come, first ones first. -/
def drainDue (s : Schedule α) (now : Instant) : Schedule α × List (Ticket × α) :=
  match _ : s.popDue now with
  | (t, none) => (t, [])
  | (t, some entry) =>
    let (rest, entries) := t.drainDue now
    (rest, entry :: entries)
termination_by s.queue.size
decreasing_by exact queue_size_popDue_lt ‹_›

end Schedule

end Adventurer
