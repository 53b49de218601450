/-!
# Tables

A finite map that remembers the order in which keys were first entered. The view of a table is
`get?`; every operation is described by what it does to that view.
-/

namespace ScriptSemantics

/-- A finite map, oldest key first. -/
structure Table (κ α : Type) where
  entries : List (κ × α) := []
deriving Inhabited, DecidableEq, Repr

namespace Table

variable {κ α : Type} [DecidableEq κ]

def empty : Table κ α := {}

/-- The value of a key. -/
def get? (table : Table κ α) (key : κ) : Option α :=
  table.entries.lookup key

def contains (table : Table κ α) (key : κ) : Bool :=
  (table.get? key).isSome

/-- Number of keys. -/
def size (table : Table κ α) : Nat := table.entries.length

def keys (table : Table κ α) : List κ := table.entries.map Prod.fst

/-- Change the value of a key that is present, in its place. -/
def modify (table : Table κ α) (key : κ) (change : α → α) : Table κ α where
  entries := table.entries.map fun entry =>
    if entry.1 = key then (entry.1, change entry.2) else entry

/-- Set the value of a key: in its place if it is present, else at the end. -/
def insert (table : Table κ α) (key : κ) (value : α) : Table κ α :=
  if table.contains key then table.modify key fun _ => value
  else { entries := table.entries ++ [(key, value)] }

/-- Remove a key. -/
def erase (table : Table κ α) (key : κ) : Table κ α where
  entries := table.entries.filter fun entry => entry.1 ≠ key

/-- Add a value to the end of the list stored under a key. -/
def push {β : Type} (table : Table κ (List β)) (key : κ) (value : β) : Table κ (List β) :=
  table.insert key ((table.get? key).getD [] ++ [value])

/-! ## The view

What each operation does to `get?`. -/

@[simp] theorem get?_empty (key : κ) : (empty : Table κ α).get? key = none := rfl

/-- A value that is found stands among the entries. -/
theorem mem_entries_of_get? {table : Table κ α} {key : κ} {value : α}
    (found : table.get? key = some value) : (key, value) ∈ table.entries := by
  obtain ⟨before, after, split, -⟩ := List.lookup_eq_some_iff.mp found
  rw [split]
  exact List.mem_append_right _ List.mem_cons_self

/-- A changed key shows its changed value; all others keep theirs. -/
theorem get?_modify (table : Table κ α) (key : κ) (change : α → α) (other : κ) :
    (table.modify key change).get? other
      = if other = key then (table.get? other).map change else table.get? other := by
  obtain ⟨entries⟩ := table
  simp only [modify, get?]
  induction entries with
  | nil => simp
  | cons entry rest ih =>
    obtain ⟨k, v⟩ := entry
    by_cases hk : k = key <;> by_cases ho : other = k <;> grind

/-- An erased key has no value; all others keep theirs. -/
theorem get?_erase (table : Table κ α) (key other : κ) :
    (table.erase key).get? other = if other = key then none else table.get? other := by
  obtain ⟨entries⟩ := table
  simp only [erase, get?]
  induction entries with
  | nil => simp
  | cons entry rest ih =>
    obtain ⟨k, v⟩ := entry
    by_cases hk : k = key <;> by_cases ho : other = k <;> grind

/-- An entered key shows its new value; all others keep theirs. -/
theorem get?_insert (table : Table κ α) (key : κ) (value : α) (other : κ) :
    (table.insert key value).get? other
      = if other = key then some value else table.get? other := by
  by_cases present : (table.get? key).isSome
  · -- The key is present and changes in its place.
    obtain ⟨old, hold⟩ := Option.isSome_iff_exists.1 present
    have inPlace : table.insert key value = table.modify key fun _ => value := by
      simp [insert, contains, hold]
    rw [inPlace, get?_modify]
    by_cases h : other = key
    · subst h
      simp [hold]
    · simp [h]
  · -- The key is new and is found behind all others.
    have absent : table.get? key = none := by simpa using present
    have atEnd : table.insert key value = { entries := table.entries ++ [(key, value)] } := by
      simp [insert, contains, absent]
    rw [atEnd]
    simp only [get?, List.lookup_append] at absent ⊢
    by_cases h : other = key
    · subst h
      simp [absent]
    · have miss : (other == key) = false := by simpa using h
      simp [h, List.lookup_cons, miss]

/-- A pushed value stands at the end of the list of its key. -/
theorem get?_push {β : Type} (table : Table κ (List β)) (key : κ) (value : β) (other : κ) :
    (table.push key value).get? other
      = if other = key then some ((table.get? key).getD [] ++ [value]) else table.get? other :=
  get?_insert table key _ other

end Table

end ScriptSemantics
