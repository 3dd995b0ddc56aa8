/-!
# Maps kept in key order

A finite map as a list of entries in ascending key order.  The laws say what a lookup finds after an
insertion or an erasure; none of them needs the entries to be in order, which only the listing
shows.
-/

namespace Adventurer

/-- A finite map whose entries are listed by ascending key. -/
structure SortedMap (κ α : Type) where
  entries : List (κ × α)
  deriving DecidableEq, Repr

namespace SortedMap

variable {κ α : Type}

/-- The map without entries. -/
def empty : SortedMap κ α := ⟨[]⟩

instance : Inhabited (SortedMap κ α) := ⟨empty⟩
instance : EmptyCollection (SortedMap κ α) := ⟨empty⟩

/-- The values by ascending key. -/
def values (m : SortedMap κ α) : List α := m.entries.map (·.2)

/-- The keys in ascending order. -/
def keys (m : SortedMap κ α) : List κ := m.entries.map (·.1)

def size (m : SortedMap κ α) : Nat := m.entries.length

def isEmpty (m : SortedMap κ α) : Bool := m.entries.isEmpty

/-- Keeps the entries that pass the test. -/
def filter (m : SortedMap κ α) (test : κ → α → Bool) : SortedMap κ α :=
  ⟨m.entries.filter fun e => test e.1 e.2⟩

section Keys

variable [DecidableEq κ]

/-- The value stored under a key. -/
def find? (m : SortedMap κ α) (key : κ) : Option α :=
  (m.entries.find? fun e => e.1 = key).map (·.2)

def contains (m : SortedMap κ α) (key : κ) : Bool := (m.find? key).isSome

/-- Puts an entry before the first larger key, or over the entry of its own key. -/
def insertEntry [Ord κ] (key : κ) (value : α) : List (κ × α) → List (κ × α)
  | [] => [(key, value)]
  | e :: rest =>
    if e.1 = key then (key, value) :: rest
    else if compare key e.1 = .lt then (key, value) :: e :: rest
    else e :: insertEntry key value rest

/-- Stores a value under a key, over any value stored there before. -/
def insert [Ord κ] (m : SortedMap κ α) (key : κ) (value : α) : SortedMap κ α :=
  ⟨insertEntry key value m.entries⟩

/-- Drops whatever is stored under a key. -/
def erase (m : SortedMap κ α) (key : κ) : SortedMap κ α := ⟨m.entries.filter (·.1 ≠ key)⟩

/-- Stores a list of entries one after the other, so the last value of a key stays. -/
def ofList [Ord κ] (entries : List (κ × α)) : SortedMap κ α :=
  entries.foldl (fun m e => m.insert e.1 e.2) empty

@[simp] theorem find?_empty (key : κ) : (empty : SortedMap κ α).find? key = none := rfl

theorem find?_insert [Ord κ] (m : SortedMap κ α) (key other : κ) (value : α) :
    (m.insert key value).find? other = if key = other then some value else m.find? other := by
  obtain ⟨entries⟩ := m
  simp only [insert, find?]
  induction entries with
  | nil => by_cases h : key = other <;> simp [insertEntry, h]
  | cons e rest ih =>
    simp only [insertEntry]
    by_cases hk : e.1 = key
    · subst hk
      by_cases h : e.1 = other <;> simp [h]
    · by_cases hlt : compare key e.1 = .lt
      · rw [if_neg hk, if_pos hlt]
        by_cases h : key = other <;> simp [h]
      · rw [if_neg hk, if_neg hlt]
        by_cases ho : e.1 = other
        · subst ho; simp [Ne.symm hk]
        · simpa [List.find?_cons, ho] using ih

theorem find?_erase (m : SortedMap κ α) (key other : κ) :
    (m.erase key).find? other = if key = other then none else m.find? other := by
  obtain ⟨entries⟩ := m
  simp only [erase, find?]
  induction entries with
  | nil => simp
  | cons e rest ih =>
    by_cases hk : e.1 = key
    · subst hk
      by_cases h : e.1 = other
      · subst h; simp
      · simpa [List.filter_cons, h] using ih
    · by_cases ho : e.1 = other
      · subst ho; simp [hk, Ne.symm hk]
      · simpa [List.filter_cons, hk, ho] using ih

end Keys

end SortedMap

end Adventurer
