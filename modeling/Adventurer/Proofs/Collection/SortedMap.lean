import Adventurer.Collection.SortedMap
import Mathlib.Order.Basic
import Mathlib.Data.List.Nodup

/-!
# Maps in key order

A map whose entries are listed in key order lists each key once, so that a lookup finds exactly what is
listed (`Sorted.find?_eq_some`).  Insertions and filters keep the order.
-/

namespace Adventurer.SortedMap

variable {κ α : Type} [Ord κ] {m : SortedMap κ α} {key : κ} {value : α}

/-- The entries ascend strictly. -/
def Sorted (m : SortedMap κ α) : Prop := m.entries.Pairwise fun e f => compare e.1 f.1 = .lt

theorem sorted_empty : (empty : SortedMap κ α).Sorted := List.Pairwise.nil

theorem Sorted.filter (h : m.Sorted) (test : κ → α → Bool) : (m.filter test).Sorted :=
  List.Pairwise.filter _ h

theorem Sorted.nodup_keys [Std.ReflOrd κ] (h : m.Sorted) : m.keys.Nodup := by
  refine List.Pairwise.map _ (fun e f hlt heq => ?_) h
  have hself : compare f.1 f.1 = .eq := Std.ReflOrd.compare_self
  rw [heq, hself] at hlt
  cases hlt

section Lookup

variable [DecidableEq κ]

theorem mem_insertEntry {e : κ × α} {l : List (κ × α)} (h : e ∈ insertEntry key value l) :
    e = (key, value) ∨ e ∈ l := by
  induction l with
  | nil => exact .inl (List.mem_singleton.mp h)
  | cons f rest ih =>
    unfold insertEntry at h
    split_ifs at h
    · rcases List.mem_cons.mp h with h | h
      · exact .inl h
      · exact .inr (List.mem_cons_of_mem _ h)
    · rcases List.mem_cons.mp h with h | h
      · exact .inl h
      · exact .inr h
    · rcases List.mem_cons.mp h with h | h
      · exact .inr (List.mem_cons.mpr (.inl h))
      · exact (ih h).imp_right (List.mem_cons_of_mem _)

theorem Sorted.insert [Std.TransOrd κ] [Std.LawfulEqOrd κ] (h : m.Sorted) (key : κ) (value : α) :
    (m.insert key value).Sorted := by
  obtain ⟨entries⟩ := m
  unfold Sorted SortedMap.insert at *
  simp only at h ⊢
  induction entries with
  | nil => exact List.pairwise_singleton _ _
  | cons f rest ih =>
    obtain ⟨hf, hrest⟩ := List.pairwise_cons.mp h
    unfold insertEntry
    split_ifs with same less
    · subst same
      exact List.pairwise_cons.mpr ⟨hf, hrest⟩
    · refine List.pairwise_cons.mpr ⟨fun e he => ?_, h⟩
      rcases List.mem_cons.mp he with rfl | he
      · exact less
      · exact Std.TransCmp.lt_trans less (hf e he)
    · refine List.pairwise_cons.mpr ⟨fun e he => ?_, ih hrest⟩
      rcases mem_insertEntry he with rfl | he
      · -- neither equal nor smaller, the new key is larger
        cases hcmp : compare f.1 key with
        | lt => rfl
        | eq => exact absurd (Std.LawfulEqCmp.eq_of_compare hcmp) same
        | gt => exact absurd (Std.OrientedCmp.lt_of_gt hcmp) less
      · exact hf e he

/-- A lookup finds exactly what is listed. -/
theorem Sorted.find?_eq_some [Std.ReflOrd κ] (h : m.Sorted) :
    m.find? key = some value ↔ (key, value) ∈ m.entries := by
  obtain ⟨entries⟩ := m
  unfold Sorted find? at *
  simp only at h ⊢
  induction entries with
  | nil => simp
  | cons f rest ih =>
    obtain ⟨hf, hrest⟩ := List.pairwise_cons.mp h
    by_cases same : f.1 = key
    · have hnot : (key, value) ∉ rest := by
        intro hmem
        have hlt := hf _ hmem
        have hself : compare key key = .eq := Std.ReflOrd.compare_self
        rw [same, hself] at hlt
        cases hlt
      simp only [List.find?_cons, same, decide_true, Option.map_some, Option.some.injEq,
        List.mem_cons, hnot, or_false]
      constructor
      · rintro rfl
        rw [← same]
      · intro hpair
        rw [← hpair]
    · have hne : (key, value) ≠ f := fun heq => same (by rw [← heq])
      simp only [List.find?_cons, same, decide_false, List.mem_cons, hne, false_or]
      exact ih hrest

theorem Sorted.find?_filter [Std.ReflOrd κ] (h : m.Sorted) (test : κ → α → Bool) (key : κ) :
    (m.filter test).find? key = (m.find? key).filter (test key) := by
  apply Option.ext
  intro value
  rw [(h.filter test).find?_eq_some, Option.filter_eq_some_iff, h.find?_eq_some]
  exact List.mem_filter

end Lookup

end Adventurer.SortedMap
