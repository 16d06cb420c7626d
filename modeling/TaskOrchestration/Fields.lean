/-!
# Named fields

The fields of an object or a table: pairs of name and value in the order of the names, each name
once.
-/

namespace TaskOrchestration.Fields

variable {α : Type}

/-- Puts a field in its place by name; a field of the same name is replaced. -/
def insert (name : String) (value : α) : List (String × α) → List (String × α)
  | [] => [(name, value)]
  | (k, v) :: rest =>
    if name == k then (name, value) :: rest
    else if name < k then (name, value) :: (k, v) :: rest
    else (k, v) :: insert name value rest

/-- Fields in any order, put in order; of several with one name the last counts. -/
def ofList (fields : List (String × α)) : List (String × α) :=
  fields.foldl (fun acc (name, value) => insert name value acc) []

/-- A field that was put in is found under its name, and all others are as before. -/
theorem lookup_insert (name other : String) (value : α) (fields : List (String × α)) :
    (insert name value fields).lookup other
      = if other = name then some value else fields.lookup other := by
  induction fields with
  | nil =>
    by_cases h : other = name
    · simp [insert, h]
    · have : (other == name) = false := by simp [h]
      simp [insert, List.lookup_cons, this, h]
  | cons p rest ih =>
    obtain ⟨k, v⟩ := p
    by_cases hk : name = k
    · subst hk
      by_cases h : other = name
      · simp [insert, h]
      · have : (other == name) = false := by simp [h]
        simp [insert, List.lookup_cons, this, h]
    · simp only [insert, beq_iff_eq, hk, if_false]
      split
      · by_cases h : other = name
        · simp [h]
        · have : (other == name) = false := by simp [h]
          simp [List.lookup_cons, this, h]
      · by_cases ho : other = k
        · subst ho
          have : ¬ other = name := fun e => hk e.symm
          simp [this]
        · have : (other == k) = false := by simp [ho]
          simp [List.lookup_cons, this, ih]

/-- A name that no field has is not found. -/
theorem lookup_of_notMem {name : String} {fields : List (String × α)}
    (h : name ∉ fields.map Prod.fst) : fields.lookup name = none := by
  refine List.lookup_eq_none_iff.mpr fun f member => ?_
  simpa using fun same : name = f.1 => h (same ▸ List.mem_map_of_mem member)

theorem mem_of_lookup {name : String} {value : α} {fields : List (String × α)}
    (h : fields.lookup name = some value) : (name, value) ∈ fields := by
  obtain ⟨before, after, rfl, -⟩ := List.lookup_eq_some_iff.mp h
  simp

/-- The names stand in ascending order, and so each of them once. -/
def Sorted (fields : List (String × α)) : Prop := fields.Pairwise fun f g => f.1 < g.1

variable {name : String} {value : α} {fields : List (String × α)}

theorem Sorted.nodup (h : Sorted fields) : (fields.map Prod.fst).Nodup := by
  refine List.pairwise_map.mpr (List.Pairwise.imp (fun {f g} less same => ?_) h)
  rw [same] at less
  exact String.lt_irrefl _ less

theorem mem_insert {f : String × α} (h : f ∈ insert name value fields) :
    f = (name, value) ∨ f ∈ fields := by
  induction fields with
  | nil => simpa [insert] using h
  | cons p rest ih =>
    obtain ⟨k, v⟩ := p
    unfold insert at h
    split at h
    · rcases List.mem_cons.mp h with here | later
      · exact .inl here
      · exact .inr (List.mem_cons_of_mem _ later)
    · split at h
      · exact List.mem_cons.mp h
      · rcases List.mem_cons.mp h with rfl | later
        · exact .inr List.mem_cons_self
        · exact (ih later).imp_right (List.mem_cons_of_mem _)

/-- A field that is put in does not disturb the order. -/
theorem Sorted.insert (h : Sorted fields) (name : String) (value : α) :
    Sorted (Fields.insert name value fields) := by
  induction fields with
  | nil => simp [Fields.insert, Sorted]
  | cons p rest ih =>
    obtain ⟨k, v⟩ := p
    obtain ⟨first, later⟩ := List.pairwise_cons.mp h
    unfold Fields.insert
    split
    · next same =>
      obtain rfl : name = k := by simpa using same
      exact List.pairwise_cons.mpr ⟨first, later⟩
    · next different =>
      split
      · next less =>
        refine List.pairwise_cons.mpr ⟨fun f member => ?_, h⟩
        rcases List.mem_cons.mp member with rfl | member
        · exact less
        · exact String.lt_trans less (first f member)
      · next notLess =>
        have greater : k < name := by
          refine Decidable.byContradiction fun notGreater => different ?_
          simpa using String.le_antisymm (String.not_lt.mp notGreater) (String.not_lt.mp notLess)
        refine List.pairwise_cons.mpr ⟨fun f member => ?_, ih later⟩
        rcases mem_insert member with rfl | member
        · exact greater
        · exact first f member

theorem sorted_ofList (fields : List (String × α)) : Sorted (ofList fields) := by
  have keeps (acc : List (String × α)) (h : Sorted acc) :
      Sorted (fields.foldl (fun acc (name, value) => insert name value acc) acc) := by
    induction fields generalizing acc with
    | nil => exact h
    | cons f rest ih => exact ih _ (h.insert f.1 f.2)
  exact keeps [] List.Pairwise.nil

/-- No field comes out of nowhere. -/
theorem mem_ofList {f : String × α} : f ∈ ofList fields → f ∈ fields := by
  have keeps (acc : List (String × α)) :
      f ∈ fields.foldl (fun acc (name, value) => insert name value acc) acc →
        f ∈ fields ∨ f ∈ acc := by
    induction fields generalizing acc with
    | nil => exact .inr
    | cons g rest ih =>
      intro h
      rcases ih _ h with later | earlier
      · exact .inl (List.mem_cons_of_mem _ later)
      · rcases mem_insert earlier with rfl | before
        · exact .inl List.mem_cons_self
        · exact .inr before
  exact fun h => (keeps [] h).resolve_right List.not_mem_nil

/-- Of several fields with one name the last counts. -/
theorem lookup_ofList (fields : List (String × α)) (name : String) :
    (ofList fields).lookup name = fields.reverse.lookup name := by
  have keeps (acc : List (String × α)) :
      (fields.foldl (fun acc (name, value) => insert name value acc) acc).lookup name
        = (fields.reverse.lookup name).or (acc.lookup name) := by
    induction fields generalizing acc with
    | nil => rfl
    | cons f rest ih =>
      obtain ⟨k, v⟩ := f
      rw [List.foldl_cons, ih, lookup_insert, List.reverse_cons, List.lookup_append,
        Option.or_assoc]
      by_cases here : name = k
      · simp [here]
      · have : (name == k) = false := by simp [here]
        simp [List.lookup_cons, this, here]
  have := keeps []
  rwa [List.lookup_nil, Option.or_none] at this

end TaskOrchestration.Fields
