import Adventurer.Engine
import Adventurer.Proofs.Runs

/-!
# Runs

A run is a list of calls, each with the rules and the hooks of its own tick.  `deedsOf` breaks it up
into the single deeds that change the state, since `runDue` does several at once.  A property that one
deed keeps exactly if it is not a bad one holds throughout a run exactly if no deed of the run is bad
(`throughout_iff`).
-/

namespace Adventurer

variable {σ τ : Type} {e : Engine σ τ} {s : Situation σ τ}

namespace Engine

/-- What changes the state in one go. -/
inductive Deed where
  | act (action : ScheduledAction)
  | absorb (hit : Hit)

/-- What is asked of an engine. -/
inductive Call where
  | equip (request : EquipRequest)
  | unequip (slot : Slot) (count : Nat)
  | absorb (hit : Hit)
  | runDue (schedule : Schedule ScheduledAction)

def perform (e : Engine σ τ) (s : Situation σ τ) : Deed → Told (Situation σ τ)
  | .act action => e.carryOut s action
  | .absorb hit => Prod.fst <$> e.absorb s hit

def answer (e : Engine σ τ) (s : Situation σ τ) : Call → Told (Situation σ τ)
  | .equip request => Prod.fst <$> e.equip s request
  | .unequip slot count => Prod.fst <$> e.unequip s slot count
  | .absorb hit => Prod.fst <$> e.absorb s hit
  | .runDue schedule => Prod.fst <$> e.runDue s schedule

/-- The deeds of a call. -/
def Call.deeds (now : Instant) : Call → List Deed
  | .equip request => [.act (.equip request)]
  | .unequip slot count => [.act (.unequip slot count)]
  | .absorb hit => [.absorb hit]
  | .runDue schedule => (schedule.drainDue now).2.map fun due => .act due.2

/-- The deeds of a run, each with the engine that does it. -/
def deedsOf (calls : List (Engine σ τ × Call)) : List (Engine σ τ × Deed) :=
  calls.flatMap fun c => (c.2.deeds c.1.rules.now).map (c.1, ·)

/-- The state after some deeds. -/
def after (s : Situation σ τ) (deeds : List (Engine σ τ × Deed)) : Situation σ τ :=
  deeds.foldl (fun s d => (d.1.perform s d.2).value) s

/-- The state after some calls. -/
def reached (s : Situation σ τ) (calls : List (Engine σ τ × Call)) : Situation σ τ :=
  calls.foldl (fun s c => (c.1.answer s c.2).value) s

/-! ## Calls and deeds -/

theorem value_carryOutAll (e : Engine σ τ) (actions : List ScheduledAction) (s : Situation σ τ) :
    (e.carryOutAll s actions).value = after s (actions.map fun action => (e, .act action)) := by
  induction actions generalizing s with
  | nil => rfl
  | cons action actions ih =>
    have hcons : e.carryOutAll s (action :: actions) =
        e.carryOut s action >>= fun t => e.carryOutAll t actions := List.foldlM_cons
    rw [hcons, Told.value_bind, ih]
    rfl

/-- A call does its deeds one after the other. -/
theorem value_answer (e : Engine σ τ) (s : Situation σ τ) (call : Call) :
    (e.answer s call).value = after s ((call.deeds e.rules.now).map (e, ·)) := by
  cases call with
  | equip => rfl
  | unequip => rfl
  | absorb => rfl
  | runDue schedule =>
    show (e.carryOutAll s ((schedule.drainDue e.rules.now).2.map (·.2))).value = _
    rw [value_carryOutAll, List.map_map, Call.deeds, List.map_map]
    rfl

theorem reached_eq_after (calls : List (Engine σ τ × Call)) (s : Situation σ τ) :
    reached s calls = after s (deedsOf calls) := by
  induction calls generalizing s with
  | nil => rfl
  | cons c calls ih =>
    have h : reached s (c :: calls) = reached (c.1.answer s c.2).value calls := rfl
    rw [h, ih, value_answer]
    exact List.foldl_append.symm

theorem prefix_deedsOf {answered calls : List (Engine σ τ × Call)} (h : answered <+: calls) :
    deedsOf answered <+: deedsOf calls := by
  obtain ⟨rest, rfl⟩ := h
  exact ⟨deedsOf rest, List.flatMap_append.symm⟩

/-- Every state after some of the calls is one after some of the deeds. -/
theorem reached_of_prefix {answered calls : List (Engine σ τ × Call)} (s : Situation σ τ)
    (h : answered <+: calls) :
    deedsOf answered <+: deedsOf calls ∧ reached s answered = after s (deedsOf answered) :=
  ⟨prefix_deedsOf h, reached_eq_after answered s⟩

theorem forall_deedsOf (Fit : Engine σ τ → Prop) {calls : List (Engine σ τ × Call)}
    (h : ∀ c ∈ calls, Fit c.1) : ∀ d ∈ deedsOf calls, Fit d.1 := by
  intro d hd
  obtain ⟨c, hc, hd⟩ := List.mem_flatMap.mp hd
  obtain ⟨deed, -, rfl⟩ := List.mem_map.mp hd
  exact h c hc

/-! ## What holds throughout a run -/

/-- What `Run.throughout_iff` says of the deeds of a run. -/
theorem throughout_iff (Fit : Engine σ τ → Prop) (Room : Nat → Situation σ τ → Prop)
    (Holds : Situation σ τ → Prop) {Bad : Engine σ τ → Situation σ τ → Deed → Prop}
    (hroom : ∀ n e s d, Fit e → Room (n + 1) s → Room n (e.perform s d).value)
    (hstep : ∀ n e s d, Fit e → Room (n + 1) s → Holds s →
      (Holds (e.perform s d).value ↔ ¬ Bad e s d))
    (deeds : List (Engine σ τ × Deed)) (s : Situation σ τ) (hfit : ∀ d ∈ deeds, Fit d.1)
    (hr : Room deeds.length s) (hs : Holds s) :
    (∀ before, before <+: deeds → Holds (after s before)) ↔
      ∀ before e d, before ++ [(e, d)] <+: deeds → ¬ Bad e (after s before) d := by
  have hiff := @Run.throughout_iff (Situation σ τ) (Engine σ τ × Deed)
    (fun s d => (d.1.perform s d.2).value) (fun d => Fit d.1) Room Holds
    (fun s d => Bad d.1 s d.2) (fun n s d => hroom n d.1 s d.2) (fun n s d => hstep n d.1 s d.2)
    deeds s hfit hr hs
  simp only [Prod.forall] at hiff
  exact hiff

end Engine

end Adventurer
