import Mathlib.Data.List.Forall2
import TaskOrchestration.Proofs.Task.Grammar
import TaskOrchestration.StartedWork

/-!
# The JSON values that are read as an answer

An answer is meant to be `null`, an object that describes a task, or a list of such objects
(`SpelledOut`). In a list, though, a task may as well be a list of its fields (`Abridged`), which an
answer of one task may not. `ofJson_iff` says that these are all the values that are accepted, with
their tasks in order, and that any other is refused as something that cannot be read.
-/

namespace TaskOrchestration

open List (Forall₂)

/-- A list is read item by item, and as a whole if every item is. -/
theorem mapM_eq_ok_iff {α β ε : Type} {read : α → Except ε β} {items : List α} {results : List β} :
    items.mapM read = .ok results ↔ Forall₂ (fun a b => read a = .ok b) items results := by
  induction items generalizing results with
  | nil => cases results <;> simp [pure, Except.pure]
  | cons a rest ih =>
    rw [List.mapM_cons, List.forall₂_cons_left_iff]
    simp only [← ih]
    cases read a with
    | error e => simp [bind, Except.bind]
    | ok b => cases rest.mapM read <;> simp [bind, Except.bind, pure, Except.pure, eq_comm]

section Decoded

variable {α β : Type} {x : Except DecodeError α} {f : α → β}

theorem decoded_map_eq_ok_iff {b : β} : decoded (f <$> x) = .ok b ↔ ∃ a, x = .ok a ∧ f a = b := by
  cases x <;> simp [decoded, Functor.map, Except.map]

/-- What is not decoded is refused as something that cannot be read. -/
theorem decoded_ok_or_error (x : Except DecodeError α) :
    (∃ a, decoded x = .ok a) ∨ ∃ message, decoded x = .error (.serialization message) := by
  cases x with
  | ok a => exact .inl ⟨a, rfl⟩
  | error e => exact .inr ⟨e.message, rfl⟩

end Decoded

namespace StartedWork

/-! ## The forms of an answer -/

/-- An answer with these tasks in which every task is an object. -/
inductive SpelledOut : Json → List TaskReport → Prop
  | nothing : SpelledOut .null []
  | single {v : Json} {d : TaskReport} (spelled : d.SpelledBy v) : SpelledOut v [d]
  | many {items : List Json} {tasks : List TaskReport}
      (spelled : Forall₂ (fun item d => TaskReport.SpelledBy d item) items tasks) :
      SpelledOut (.list items) tasks

/-- A list with these tasks in which at least one is a list of its own. -/
inductive Abridged : Json → List TaskReport → Prop
  | many {items : List Json} {tasks : List TaskReport} {parts : List Json}
      (accepted : Forall₂ (fun item d => TaskReport.SpelledBy d item ∨ TaskReport.ListedBy d item)
        items tasks)
      (listed : .list parts ∈ items) : Abridged (.list items) tasks

theorem spelledOut_list_iff {items : List Json} {tasks : List TaskReport} :
    SpelledOut (.list items) tasks ↔
      Forall₂ (fun item d => TaskReport.SpelledBy d item) items tasks := by
  refine ⟨fun h => ?_, .many⟩
  cases h with
  | single spelled =>
    obtain ⟨_, isObject, _⟩ := spelled
    cases isObject
  | many spelled => exact spelled

/-- The tasks in a list that is accepted are all objects, or one of them is a list. -/
theorem spelledOut_or_abridged_iff {items : List Json} {tasks : List TaskReport} :
    SpelledOut (.list items) tasks ∨ Abridged (.list items) tasks ↔
      Forall₂ (fun item d => TaskReport.SpelledBy d item ∨ TaskReport.ListedBy d item)
        items tasks := by
  rw [spelledOut_list_iff]
  constructor
  · rintro (spelled | ⟨accepted, -⟩)
    · exact spelled.imp fun _ _ => .inl
    · exact accepted
  · intro accepted
    by_cases listed : ∃ parts, .list parts ∈ items
    · obtain ⟨parts, listed⟩ := listed
      exact .inr (.many accepted listed)
    · have noLists : ∀ item ∈ items, ∀ parts, item ≠ .list parts := by
        rintro item member parts rfl
        exact listed ⟨parts, member⟩
      have paired := (List.forall₂_and_left _ _).mpr ⟨noLists, accepted⟩
      exact .inl (paired.imp fun _ _ ⟨noList, form⟩ =>
        form.resolve_right fun ⟨parts, isList, _⟩ => noList parts isList)

/-- No answer is of both forms. -/
theorem not_abridged_of_spelledOut {v : Json} {tasks tasks' : List TaskReport}
    (spelledOut : SpelledOut v tasks) : ¬ Abridged v tasks' := by
  intro abridged
  cases abridged with
  | many accepted listed =>
    have objects : Forall₂ (fun item d =>
        (∃ fields, item = Json.object fields) ∧ TaskReport.SpelledBy d item) _ tasks :=
      (spelledOut_list_iff.mp spelledOut).imp fun _ _ spelled =>
        ⟨spelled.imp fun _ form => form.1, spelled⟩
    obtain ⟨_, isObject⟩ := ((List.forall₂_and_left _ _).mp objects).1 _ listed
    cases isObject

/-- An answer that is neither `null` nor a list is one task. -/
theorem spelledOut_or_abridged_single {v : Json} (notNull : v ≠ .null)
    (noList : ∀ items, v ≠ .list items) (tasks : List TaskReport) :
    SpelledOut v tasks ∨ Abridged v tasks ↔ ∃ d, TaskReport.SpelledBy d v ∧ [d] = tasks := by
  constructor
  · rintro (spelledOut | abridged)
    · cases spelledOut with
      | nothing => exact absurd rfl notNull
      | single spelled => exact ⟨_, spelled, rfl⟩
      | many => exact absurd rfl (noList _)
    · cases abridged
      exact absurd rfl (noList _)
  · rintro ⟨d, spelled, rfl⟩
    exact .inl (.single spelled)

/-! ## Acceptance -/

/-- The values that are accepted, with their tasks in order. -/
theorem exists_ofJson_iff (v : Json) (tasks : List TaskReport) :
    (∃ w, ofJson v = .ok w ∧ w.tasks = tasks) ↔ SpelledOut v tasks ∨ Abridged v tasks := by
  cases v with
  | null =>
    constructor
    · rintro ⟨w, read, rfl⟩
      obtain rfl := Except.ok.inj read
      exact .inl .nothing
    · rintro (spelledOut | abridged)
      · cases spelledOut with
        | nothing => exact ⟨.empty, rfl, rfl⟩
        | single spelled =>
          obtain ⟨_, isObject, _⟩ := spelled
          cases isObject
      · cases abridged
  | list items =>
    have read (w : StartedWork) : ofJson (.list items) = .ok w ↔
        ∃ tasks, items.mapM TaskReport.ofJson = .ok tasks ∧ .many tasks = w := decoded_map_eq_ok_iff
    simp only [read, mapM_eq_ok_iff, TaskReport.ofJson_eq_ok_iff, spelledOut_or_abridged_iff]
    constructor
    · rintro ⟨w, ⟨tasks, accepted, rfl⟩, rfl⟩
      exact accepted
    · exact fun accepted => ⟨_, ⟨tasks, accepted, rfl⟩, rfl⟩
  | object fields =>
    have read (w : StartedWork) : ofJson (.object fields) = .ok w ↔
        ∃ d, TaskReport.ofJson (.object fields) = .ok d ∧ .single d = w := decoded_map_eq_ok_iff
    simp only [read, TaskReport.ofJson_object_iff]
    rw [spelledOut_or_abridged_single (v := .object fields) nofun nofun]
    constructor
    · rintro ⟨w, ⟨d, described, rfl⟩, rfl⟩
      exact ⟨d, ⟨fields, rfl, described⟩, rfl⟩
    · rintro ⟨d, ⟨_, same, described⟩, rfl⟩
      obtain rfl := Json.object.inj same
      exact ⟨_, ⟨d, described, rfl⟩, rfl⟩
  | boolean | integer | float | string =>
    refine Iff.trans ?_ (spelledOut_or_abridged_single ?_ ?_ tasks).symm
    · simp [ofJson, TaskReport.SpelledBy]
    · exact nofun
    · exact nofun

/-- A value that is not accepted is refused as something that cannot be read. -/
theorem ofJson_ok_or_error (v : Json) :
    (∃ w, ofJson v = .ok w) ∨ ∃ message, ofJson v = .error (.serialization message) := by
  cases v with
  | null => exact .inl ⟨.empty, rfl⟩
  | list items => exact decoded_ok_or_error _
  | object fields => exact decoded_ok_or_error _
  | boolean | integer | float | string => exact .inr ⟨_, rfl⟩

/-- Of all JSON values just these are accepted as an answer: `null`, without tasks; an object that
describes a task, as that task; a list of such objects, as their tasks in order; and a list in which
some of the tasks are lists of their fields by position. These last are a form of their own. Every
other value is refused as something that cannot be read. -/
theorem ofJson_iff (v : Json) :
    (∀ tasks, (∃ w, ofJson v = .ok w ∧ w.tasks = tasks) ↔
      SpelledOut v tasks ∨ Abridged v tasks) ∧
    (¬ ∃ tasks tasks', SpelledOut v tasks ∧ Abridged v tasks') ∧
    ((∃ message, ofJson v = .error (.serialization message)) ↔
      ∀ tasks, ¬ SpelledOut v tasks ∧ ¬ Abridged v tasks) := by
  refine ⟨exists_ofJson_iff v, fun ⟨_, _, spelledOut, abridged⟩ =>
    not_abridged_of_spelledOut spelledOut abridged, fun ⟨message, refused⟩ tasks => ?_, fun h => ?_⟩
  · rw [← not_or, ← exists_ofJson_iff, refused]
    exact fun ⟨_, read, _⟩ => nomatch read
  · refine (ofJson_ok_or_error v).resolve_left fun ⟨w, read⟩ => ?_
    rcases (exists_ofJson_iff v w.tasks).mp ⟨w, read, rfl⟩ with spelledOut | abridged
    · exact (h w.tasks).1 spelledOut
    · exact (h w.tasks).2 abridged

/-- A list of one list of one text is accepted, although no task in it is an object. -/
theorem abridged_accepted :
    let v : Json := .list [.list [.string "t1"]]
    ofJson v = .ok (.many [{ href := "t1" }]) ∧ ∀ tasks, ¬ SpelledOut v tasks := by
  intro v
  refine ⟨rfl, fun tasks spelledOut => ?_⟩
  cases spelledOut_list_iff.mp spelledOut with
  | cons first =>
    obtain ⟨_, isObject, _⟩ := first
    cases isObject

end StartedWork

end TaskOrchestration
