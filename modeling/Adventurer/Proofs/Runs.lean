import Mathlib.Data.List.Induction
import Mathlib.Tactic.Common

/-!
# What holds throughout a run

A run is a list of acts, each of which takes a state to the next.  A property that one act keeps exactly
if it is not a bad one holds throughout a run exactly if no act of the run is bad (`throughout_iff`).
-/

namespace Adventurer

namespace Run

variable {S A : Type} {step : S → A → S}

/-- If one act keeps a property exactly if it is not a bad one, then the property holds throughout a run
exactly if no act of the run is bad.  `Room n` is what `n` more acts need and each of them leaves to the
next. -/
theorem throughout_iff (Fit : A → Prop) (Room : Nat → S → Prop) (Holds : S → Prop)
    {Bad : S → A → Prop} (hroom : ∀ n s a, Fit a → Room (n + 1) s → Room n (step s a))
    (hstep : ∀ n s a, Fit a → Room (n + 1) s → Holds s → (Holds (step s a) ↔ ¬ Bad s a))
    (acts : List A) (s : S) (hfit : ∀ a ∈ acts, Fit a) (hr : Room acts.length s) (hs : Holds s) :
    (∀ before, before <+: acts → Holds (before.foldl step s)) ↔
      ∀ before a, before ++ [a] <+: acts → ¬ Bad (before.foldl step s) a := by
  induction acts generalizing s with
  | nil =>
    refine iff_of_true (fun before hp => ?_) (fun before a hp => ?_)
    · rw [List.prefix_nil.mp hp]
      exact hs
    · exact absurd (List.prefix_nil.mp hp) (by simp)
  | cons first acts ih =>
    have hfirst : Fit first := hfit first List.mem_cons_self
    have hone := hstep acts.length s first hfirst hr hs
    have hrest := ih (step s first) (fun a ha => hfit a (List.mem_cons_of_mem _ ha))
      (hroom acts.length s first hfirst hr)
    constructor
    · intro hall before a hp
      have hnext : Holds (step s first) :=
        hall [first] (List.cons_prefix_cons.mpr ⟨rfl, List.nil_prefix⟩)
      cases before with
      | nil =>
        obtain ⟨rfl, -⟩ := List.cons_prefix_cons.mp hp
        exact hone.mp hnext
      | cons head before =>
        obtain ⟨rfl, htail⟩ := List.cons_prefix_cons.mp hp
        refine (hrest hnext).mp (fun early he => ?_) before a htail
        exact hall (head :: early) (List.cons_prefix_cons.mpr ⟨rfl, he⟩)
    · intro hnone before hp
      have hnext := hone.mpr (hnone [] first (List.cons_prefix_cons.mpr ⟨rfl, List.nil_prefix⟩))
      cases before with
      | nil => exact hs
      | cons head before =>
        obtain ⟨rfl, htail⟩ := List.cons_prefix_cons.mp hp
        refine (hrest hnext).mpr (fun early a he => ?_) before htail
        exact hnone (head :: early) a (List.cons_prefix_cons.mpr ⟨rfl, he⟩)

/-- What every act keeps holds throughout a run. -/
theorem throughout {Fit : A → Prop} {Holds : S → Prop}
    (hstep : ∀ s a, Fit a → Holds s → Holds (step s a)) {acts : List A}
    (hfit : ∀ a ∈ acts, Fit a) {s : S} (hs : Holds s) {before : List A} (hp : before <+: acts) :
    Holds (before.foldl step s) :=
  (@throughout_iff S A step Fit (fun _ _ => True) Holds (fun _ _ => False) (fun _ _ _ _ _ => trivial)
    (fun _ s a ha _ h => iff_of_true (hstep s a ha h) not_false) acts s hfit trivial hs).mpr
    (fun _ _ _ => not_false) before hp

/-- What every act keeps that is not a bad one holds after acts none of which is bad.  `Room n` is what `n`
more acts need and each of them leaves to the next. -/
theorem room_of_not_bad (Room : Nat → S → Prop) (Bad : S → A → Prop)
    (hstep : ∀ n s a, ¬ Bad s a → Room (n + 1) s → Room n (step s a)) (acts : List A) {n : Nat} {s : S}
    (hr : Room (n + acts.length) s)
    (hbad : ∀ before a, before ++ [a] <+: acts → ¬ Bad (before.foldl step s) a) :
    Room n (acts.foldl step s) := by
  induction acts using List.reverseRecOn generalizing n with
  | nil => exact hr
  | append_singleton acts a ih =>
    rw [List.length_append, List.length_singleton, Nat.add_comm acts.length 1, ← Nat.add_assoc] at hr
    rw [List.foldl_append]
    refine hstep n _ a (hbad acts a List.prefix_rfl) (ih hr fun before b hp => ?_)
    exact hbad before b (hp.trans (List.prefix_append acts [a]))

end Run

end Adventurer
