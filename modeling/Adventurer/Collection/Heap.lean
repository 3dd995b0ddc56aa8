/-!
# Leftist heaps

A heap keeps its least key at the top of a tree whose short side is on the right.  Two heaps are
merged along their right sides, and every other operation is one merge.  What a heap holds is told
by its list of keys, which each operation changes as its name says.
-/

namespace Adventurer

/-- A tree of keys; the rank is the length of the right side. -/
inductive Heap (κ : Type) where
  | empty
  | node (rank : Nat) (top : κ) (left right : Heap κ)
  deriving Repr

namespace Heap

variable {κ : Type}

instance : Inhabited (Heap κ) := ⟨empty⟩

def rank : Heap κ → Nat
  | empty => 0
  | node rank _ _ _ => rank

/-- Number of keys. -/
def size : Heap κ → Nat
  | empty => 0
  | node _ _ left right => left.size + right.size + 1

/-- The keys in no particular order. -/
def toList : Heap κ → List κ
  | empty => []
  | node _ top left right => top :: (left.toList ++ right.toList)

/-- The top key. -/
def top? : Heap κ → Option κ
  | empty => none
  | node _ top _ _ => some top

/-- A tree of a key above two heaps, the one of lower rank on the right. -/
def join (top : κ) (a b : Heap κ) : Heap κ :=
  if b.rank ≤ a.rank then node (b.rank + 1) top a b else node (a.rank + 1) top b a

section Order

variable [Ord κ]

/-- The heap of the keys of two heaps. -/
def merge : Heap κ → Heap κ → Heap κ
  | empty, b => b
  | a, empty => a
  | node r x left right, node s y left' right' =>
    if compare y x = .lt then join y left' (merge (node r x left right) right')
    else join x left (merge right (node s y left' right'))
termination_by a b => a.size + b.size
decreasing_by all_goals simp only [size]; omega

/-- Adds a key. -/
def push (h : Heap κ) (key : κ) : Heap κ := merge h (node 1 key empty empty)

/-- Takes the top key away. -/
def pop : Heap κ → Heap κ
  | empty => empty
  | node _ _ left right => merge left right

end Order

theorem length_toList (h : Heap κ) : h.toList.length = h.size := by
  induction h with
  | empty => rfl
  | node r top left right ihl ihr => simp [toList, size, ihl, ihr]

theorem toList_join (top : κ) (a b : Heap κ) :
    (join top a b).toList.Perm (top :: (a.toList ++ b.toList)) := by
  unfold join
  split
  · exact .refl _
  · exact .cons _ List.perm_append_comm

/-- A merge loses no key and adds none. -/
theorem toList_merge [Ord κ] (a b : Heap κ) :
    (merge a b).toList.Perm (a.toList ++ b.toList) := by
  fun_induction merge a b with
  | case1 b => exact .refl _
  | case2 a => simp [toList]
  | case3 r x left right s y left' right' h ih =>
    refine (toList_join _ _ _).trans ?_
    refine (List.Perm.cons _ (List.Perm.append_left _ ih)).trans ?_
    rw [toList.eq_2 s y, ← List.append_assoc]
    refine .trans (.cons _ (.append_right _ List.perm_append_comm)) ?_
    rw [List.append_assoc]
    exact List.perm_middle.symm
  | case4 r x left right s y left' right' h ih =>
    refine (toList_join _ _ _).trans ?_
    simp only [toList, List.cons_append, List.append_assoc]
    exact .cons _ (List.Perm.append_left _ (by simpa only [toList] using ih))

theorem size_merge [Ord κ] (a b : Heap κ) : (merge a b).size = a.size + b.size := by
  simpa [length_toList] using (toList_merge a b).length_eq

theorem toList_push [Ord κ] (h : Heap κ) (key : κ) :
    (h.push key).toList.Perm (key :: h.toList) := by
  refine (toList_merge _ _).trans ?_
  simp [toList]

/-- Taking the top key away leaves the others. -/
theorem toList_pop [Ord κ] {h : Heap κ} {key : κ} (top : h.top? = some key) :
    h.toList.Perm (key :: h.pop.toList) := by
  cases h with
  | empty => simp [top?] at top
  | node r x left right =>
    simp only [top?, Option.some.injEq] at top
    subst top
    exact .cons _ (toList_merge _ _).symm

theorem size_pop_lt [Ord κ] {h : Heap κ} {key : κ} (top : h.top? = some key) :
    h.pop.size < h.size := by
  have := (toList_pop top).length_eq
  simp only [List.length_cons, length_toList] at this
  omega

end Heap

end Adventurer
