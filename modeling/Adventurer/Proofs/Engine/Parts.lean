import Adventurer.Proofs.Engine.Operations

/-!
# Courses in single steps

Scheduled work that is due does several things at once.  `partsOf` breaks a course up into operations that
do one thing each, of the same engines and in the same order, so that the states between two scheduled
actions can be spoken of like all others.
-/

namespace Adventurer

variable {σ τ : Type}

namespace Engine

/-- The operation that does the same as a scheduled action. -/
def Operation.ofAction : ScheduledAction → Operation
  | .equip request => .call (.equip request)
  | .unequip slot count => .call (.unequip slot count)
  | .forceRefresh => .combatTick true

/-- An operation in single steps. -/
def Operation.parts (now : Instant) : Operation → List Operation
  | .call (.runDue schedule) => (schedule.drainDue now).2.map fun due => .ofAction due.2
  | o => [o]

/-- The operation does one thing. -/
def Operation.Single : Operation → Prop
  | .call (.runDue _) => False
  | _ => True

/-- A course in single steps. -/
def partsOf (course : Course σ τ) : Course σ τ :=
  course.flatMap fun o => (o.2.parts o.1.rules.now).map (o.1, ·)

theorem advance_ofAction (e : Engine σ τ) (s : Situation σ τ) (action : ScheduledAction) :
    advance s (e, .ofAction action) = (e.carryOut s action).value := by
  cases action <;> rfl

theorem arrived_ofActions (e : Engine σ τ) (actions : List ScheduledAction) (s : Situation σ τ) :
    arrived s (actions.map fun action => (e, .ofAction action)) = (e.carryOutAll s actions).value := by
  rw [value_carryOutAll]
  induction actions generalizing s with
  | nil => rfl
  | cons action actions ih =>
    have hone : arrived s ((action :: actions).map fun action => (e, Operation.ofAction action)) =
        arrived (e.carryOut s action).value (actions.map fun action => (e, .ofAction action)) := by
      rw [← advance_ofAction]
      rfl
    rw [hone, ih]
    rfl

/-- The single steps of an operation lead where it leads. -/
theorem arrived_parts (s : Situation σ τ) (o : Engine σ τ × Operation) :
    arrived s ((o.2.parts o.1.rules.now).map (o.1, ·)) = advance s o := by
  obtain ⟨e, o⟩ := o
  cases o with
  | call call =>
    cases call with
    | runDue schedule =>
      show arrived s (((schedule.drainDue e.rules.now).2.map fun due => Operation.ofAction due.2).map (e, ·)) = _
      rw [List.map_map]
      have hactions := arrived_ofActions e ((schedule.drainDue e.rules.now).2.map (·.2)) s
      rw [List.map_map] at hactions
      exact hactions
    | _ => rfl
  | _ => rfl

theorem arrived_partsOf (course : Course σ τ) (s : Situation σ τ) :
    arrived s (partsOf course) = arrived s course := by
  induction course generalizing s with
  | nil => rfl
  | cons o course ih =>
    have hsplit : partsOf (o :: course) = (o.2.parts o.1.rules.now).map (o.1, ·) ++ partsOf course :=
      List.flatMap_cons
    have hone : arrived s (o :: course) = arrived (advance s o) course := rfl
    rw [hsplit, hone, ← ih, ← arrived_parts]
    exact List.foldl_append

theorem mem_partsOf {course : Course σ τ} {part : Engine σ τ × Operation} (h : part ∈ partsOf course) :
    ∃ o ∈ course, o.1 = part.1 := by
  obtain ⟨o, ho, hpart⟩ := List.mem_flatMap.mp h
  obtain ⟨_, -, rfl⟩ := List.mem_map.mp hpart
  exact ⟨o, ho, rfl⟩

theorem Operation.single_of_mem_parts {now : Instant} {o part : Operation} (h : part ∈ o.parts now) :
    part.Single := by
  cases o with
  | call call =>
    cases call with
    | runDue schedule =>
      obtain ⟨due, -, rfl⟩ := List.mem_map.mp h
      cases due.2 <;> exact trivial
    | _ =>
      obtain rfl := List.mem_singleton.mp h
      exact trivial
  | _ =>
    obtain rfl := List.mem_singleton.mp h
    exact trivial

theorem single_of_mem_partsOf {course : Course σ τ} {part : Engine σ τ × Operation}
    (h : part ∈ partsOf course) : part.2.Single := by
  obtain ⟨o, -, hpart⟩ := List.mem_flatMap.mp h
  obtain ⟨step, hstep, rfl⟩ := List.mem_map.mp hpart
  exact Operation.single_of_mem_parts hstep

theorem forall_partsOf (Fit : Engine σ τ → Prop) {course : Course σ τ} (h : ∀ o ∈ course, Fit o.1) :
    ∀ part ∈ partsOf course, Fit part.1 := by
  intro part hpart
  obtain ⟨o, ho, hsame⟩ := mem_partsOf hpart
  rw [← hsame]
  exact h o ho

end Engine

end Adventurer
