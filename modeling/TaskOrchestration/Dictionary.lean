/-!
# Dictionaries

A finite map as a list of pairs with at most one pair for each key. `get?_insert` and `get?_erase`
say what each change does to the values.
-/

namespace TaskOrchestration

/-- A finite map from `κ` to `α`. -/
structure Dictionary (κ α : Type) where
  /-- The pairs of key and value. -/
  entries : List (κ × α) := []

namespace Dictionary

variable {κ α : Type} [DecidableEq κ]

/-- The map without any key. -/
def empty : Dictionary κ α := {}

/-- The value of a key. -/
def get? (d : Dictionary κ α) (key : κ) : Option α :=
  (d.entries.find? fun p => decide (p.1 = key)).map Prod.snd

/-- The map without a key. -/
def erase (d : Dictionary κ α) (key : κ) : Dictionary κ α :=
  ⟨d.entries.filter fun p => decide (p.1 ≠ key)⟩

/-- The map with a new value for a key. -/
def insert (d : Dictionary κ α) (key : κ) (value : α) : Dictionary κ α :=
  ⟨(key, value) :: (d.erase key).entries⟩

@[simp] theorem get?_empty (key : κ) : (empty : Dictionary κ α).get? key = none := rfl

/-- Taking a key away leaves the values of all others. -/
theorem get?_erase (d : Dictionary κ α) (key other : κ) :
    (d.erase key).get? other = if other = key then none else d.get? other := by
  obtain ⟨entries⟩ := d
  simp only [get?, erase]
  induction entries with
  | nil => simp
  | cons p rest ih =>
    by_cases hp : p.1 = key <;> by_cases ho : p.1 = other <;> simp_all

/-- A new value for a key leaves the values of all others. -/
theorem get?_insert (d : Dictionary κ α) (key other : κ) (value : α) :
    (d.insert key value).get? other = if other = key then some value else d.get? other := by
  have herase := d.get?_erase key other
  simp only [get?, insert, List.find?_cons] at herase ⊢
  by_cases h : key = other
  · simp [h]
  · have h' : other ≠ key := fun e => h e.symm
    simp [h, h'] at herase ⊢
    exact herase

/-- A value is taken away with its key. -/
theorem erase_insert (d : Dictionary κ α) (key : κ) (value : α) :
    (d.insert key value).erase key = d.erase key := by
  simp [insert, erase]

/-- Taking a key away leaves new values of all others. -/
theorem erase_insert_of_ne (d : Dictionary κ α) {key other : κ} (another : other ≠ key)
    (value : α) : (d.insert other value).erase key = (d.erase key).insert other value := by
  simp [insert, erase, another, Bool.and_comm]

end Dictionary

end TaskOrchestration
