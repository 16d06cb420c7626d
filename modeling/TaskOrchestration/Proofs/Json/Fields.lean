import TaskOrchestration.Json.Decode

/-!
# What the fields of an object say

A reader takes in the fields of an object one after the other, and each of its places takes at most
one value, whichever of its names that stands under. `Fills` says what the values under the names of
a place make of it; `Gives` and `MayGive` say what that comes to for a field that has to be there
and for one that may be left out.
-/

namespace TaskOrchestration

namespace Json

/-- The values of the fields under any of these names, in the order of the fields. -/
def valuesUnder (names : List String) (fields : List (String × Json)) : List Json :=
  (fields.filter fun field => field.1 ∈ names).map Prod.snd

theorem valuesUnder_append (names : List String) (fields later : List (String × Json)) :
    valuesUnder names (fields ++ later) = valuesUnder names fields ++ valuesUnder names later := by
  unfold valuesUnder
  rw [List.filter_append, List.map_append]

theorem valuesUnder_of_notMem {names : List String} {name : String} (other : name ∉ names)
    (v : Json) : valuesUnder names [(name, v)] = [] := by
  unfold valuesUnder
  rw [List.filter_cons_of_neg (by simpa using other)]
  rfl

variable {α : Type}

/-- There is just one field under any of these names, and its value is read as `a`. -/
def Gives (read : Json → Except DecodeError α) (names : List String)
    (fields : List (String × Json)) (a : α) : Prop :=
  ∃ v, valuesUnder names fields = [v] ∧ read v = .ok a

/-- There is no field under any of these names, or just one, which is `null` if it says nothing. -/
def MayGive (read : Json → Except DecodeError α) (names : List String)
    (fields : List (String × Json)) (a? : Option α) : Prop :=
  (valuesUnder names fields = [] ∧ a? = none) ∨ Gives (toOption? read) names fields a?

end Json

/-! ## Places -/

/-- A place is left as it is where there is no value for it, and takes a value if it has none. -/
inductive Fills {α : Type} (read : Json → Except DecodeError α) (place : Option α) :
    List Json → Option α → Prop
  | kept : Fills read place [] place
  | filled {v : Json} {a : α} (vacant : place = none) (reads : read v = .ok a) :
      Fills read place [v] (some a)

variable {α : Type} {read : Json → Except DecodeError α} {place place' : Option α}

theorem fills_nil_iff : Fills read place [] place' ↔ place = place' := by
  constructor
  · rintro ⟨⟩
    rfl
  · rintro rfl
    exact .kept

theorem fills_singleton_iff {v : Json} :
    Fills read place [v] place' ↔ place = none ∧ ∃ a, read v = .ok a ∧ place' = some a := by
  constructor
  · rintro (_ | ⟨vacant, reads⟩)
    exact ⟨vacant, _, reads, rfl⟩
  · rintro ⟨vacant, a, reads, rfl⟩
    exact .filled vacant reads

/-- What fills a place is determined by the values. -/
theorem Fills.unique {values : List Json} {place'' : Option α} (h : Fills read place values place')
    (h' : Fills read place values place'') : place' = place'' := by
  cases h with
  | kept => exact fills_nil_iff.mp h'
  | filled _ reads =>
    obtain ⟨-, a, reads', rfl⟩ := fills_singleton_iff.mp h'
    rw [Except.ok.inj (reads.symm.trans reads')]

/-- A value goes to the place of its field. -/
theorem fillOnce_eq_ok_iff {title : String} {v : Json} :
    fillOnce title place read v = .ok place' ↔ Fills read place [v] place' := by
  rw [fills_singleton_iff]
  cases place with
  | some a => exact ⟨nofun, nofun⟩
  | none =>
    unfold fillOnce
    cases read v with
    | error e => exact ⟨nofun, nofun⟩
    | ok a =>
      constructor
      · intro filled
        exact ⟨rfl, a, rfl, (Except.ok.inj filled).symm⟩
      · rintro ⟨-, a', same, rfl⟩
        rw [Except.ok.inj same]
        rfl

/-- What a reader does with one of its fields: the value goes to the place, and all else stays. -/
theorem map_fillOnce_eq_ok_iff {σ : Type} {title : String} {v : Json} {set : Option α → σ}
    {s : σ} :
    (do let place ← fillOnce title place read v; return set place) = Except.ok s ↔
      ∃ place', Fills read place [v] place' ∧ set place' = s := by
  have filled (place' : Option α) :
      Fills read place [v] place' ↔ fillOnce title place read v = .ok place' :=
    fillOnce_eq_ok_iff.symm
  simp only [filled]
  cases fillOnce title place read v <;> simp [bind, Except.bind, pure, Except.pure]

/-- Values that stand one behind the other go to the place one after the other. -/
theorem fills_append_iff {vs ws : List Json} :
    Fills read place (vs ++ ws) place' ↔
      ∃ between, Fills read place vs between ∧ Fills read between ws place' := by
  constructor
  · intro h
    match vs, ws, h with
    | [], ws, h => exact ⟨place, .kept, h⟩
    | [v], [], h => exact ⟨place', h, .kept⟩
  · rintro ⟨between, first, second⟩
    cases first with
    | kept => exact second
    | filled vacant reads =>
      cases second with
      | kept => exact .filled vacant reads
      | filled occupied => cases occupied

/-- Fields that stand one behind the other fill the place one after the other. -/
theorem fills_fields_append_iff {names : List String} {fields later : List (String × Json)} :
    Fills read place (Json.valuesUnder names (fields ++ later)) place' ↔
      ∃ between, Fills read place (Json.valuesUnder names fields) between ∧
        Fills read between (Json.valuesUnder names later) place' := by
  rw [Json.valuesUnder_append, fills_append_iff]

/-- A place that has to be filled is filled by the one value there is for it. -/
theorem fills_some_iff {names : List String} {fields : List (String × Json)} {a : α} :
    Fills read none (Json.valuesUnder names fields) (some a) ↔ Json.Gives read names fields a := by
  unfold Json.Gives
  generalize Json.valuesUnder names fields = values
  constructor
  · rintro (_ | ⟨-, reads⟩)
    exact ⟨_, rfl, reads⟩
  · rintro ⟨v, rfl, reads⟩
    exact .filled rfl reads

/-- A place that may stay empty remembers also that its field was read as absent. -/
theorem exists_fills_iff {names : List String} {fields : List (String × Json)} {a? : Option α} :
    (∃ place, Fills (Json.toOption? read) none (Json.valuesUnder names fields) place ∧
      place.join = a?) ↔ Json.MayGive read names fields a? := by
  unfold Json.MayGive Json.Gives
  generalize Json.valuesUnder names fields = values
  constructor
  · rintro ⟨place, (_ | ⟨-, reads⟩), rfl⟩
    · exact .inl ⟨rfl, rfl⟩
    · exact .inr ⟨_, rfl, reads⟩
  · rintro (⟨rfl, rfl⟩ | ⟨v, rfl, reads⟩)
    · exact ⟨none, .kept, rfl⟩
    · exact ⟨some a?, .filled rfl reads, rfl⟩

/-! ## Readers -/

namespace RecordReader

variable {σ α : Type} (r : RecordReader σ α)

theorem visitAll_nil_eq_ok_iff {s s' : σ} : r.visitAll s [] = .ok s' ↔ s' = s := by
  unfold visitAll
  exact ⟨fun same => (Except.ok.inj same).symm, fun same => congrArg Except.ok same.symm⟩

/-- Fields are taken in one after the other. -/
theorem visitAll_cons_eq_ok_iff {s s' : σ} {name : String} {v : Json}
    {rest : List (String × Json)} :
    r.visitAll s ((name, v) :: rest) = .ok s' ↔
      ∃ between, r.visit s name v = .ok between ∧ r.visitAll between rest = .ok s' := by
  simp only [visitAll]
  cases r.visit s name v <;> simp

/-- An object is read if its fields can be taken in and make up the structure. -/
theorem read_object_eq_ok_iff {fields : List (String × Json)} {a : α} :
    r.read (.object fields) = .ok a ↔
      ∃ s, r.visitAll r.empty fields = .ok s ∧ r.finish s = .ok a := by
  simp only [read]
  cases r.visitAll r.empty fields <;> simp

/-- A list is read if its items can be taken in as the fields in the order of their declaration, and
make up the structure, and there are no more of them than fields. -/
theorem read_list_eq_ok_iff {items : List Json} {a : α} :
    r.read (.list items) = .ok a ↔
      items.length ≤ r.fields.length ∧
        ∃ s, r.visitAll r.empty (r.fields.zip items) = .ok s ∧ r.finish s = .ok a := by
  simp only [read]
  cases r.visitAll r.empty (r.fields.zip items) with
  | error e => simp
  | ok s =>
    simp only [Except.ok.injEq, exists_eq_left']
    cases r.finish s with
    | error e =>
      cases e <;> simp
    | ok b =>
      by_cases fits : items.length ≤ r.fields.length
      · simp [fits, Nat.not_lt_of_le fits]
      · simp [fits, Nat.lt_of_not_le fits]

end RecordReader

end TaskOrchestration
