import TaskOrchestration.Proofs.Json.Fields
import TaskOrchestration.Task.Report

/-!
# The JSON values that are read as a report

`DescribedBy` gives the grammar of a report, field by field, without the order in which a reader
takes them in: the reference stands under one of its two names, every other field may be left out or
`null`, none is there twice, and other fields do not matter. `ofJson_eq_ok_iff` says that the reader
accepts the objects of this grammar, and the lists that give the same fields by their position.
-/

namespace TaskOrchestration.TaskReport

open Json (toString? toBool? toInstant? toOption? valuesUnder)

/-- The fields of an object describe the task. -/
structure DescribedBy (fields : List (String × Json)) (d : TaskReport) : Prop where
  href : Json.Gives toString? ["href", "pulp_href"] fields d.href
  name : Json.MayGive toString? ["name"] fields d.name
  description : Json.MayGive toString? ["description"] fields d.description
  state : Json.MayGive toString? ["state"] fields d.state
  started : Json.MayGive toBool? ["started"] fields d.started
  done : Json.MayGive toBool? ["done"] fields d.done
  error : Json.MayGive TaskError.ofJson ["error"] fields d.error
  taskGroupHref : Json.MayGive toString? ["task_group_href", "task_group"] fields d.taskGroupHref
  startedAt : Json.MayGive toInstant? ["started_at"] fields d.startedAt
  finishedAt : Json.MayGive toInstant? ["finished_at"] fields d.finishedAt

namespace Draft

/-- Each place of the draft takes what the fields have for it. -/
structure Filled (d : Draft) (fields : List (String × Json)) (d' : Draft) : Prop where
  href : Fills toString? d.href (valuesUnder ["href", "pulp_href"] fields) d'.href
  name : Fills (toOption? toString?) d.name (valuesUnder ["name"] fields) d'.name
  description : Fills (toOption? toString?) d.description (valuesUnder ["description"] fields)
    d'.description
  state : Fills (toOption? toString?) d.state (valuesUnder ["state"] fields) d'.state
  started : Fills (toOption? toBool?) d.started (valuesUnder ["started"] fields) d'.started
  done : Fills (toOption? toBool?) d.done (valuesUnder ["done"] fields) d'.done
  error : Fills (toOption? TaskError.ofJson) d.error (valuesUnder ["error"] fields) d'.error
  taskGroupHref : Fills (toOption? toString?) d.taskGroupHref
    (valuesUnder ["task_group_href", "task_group"] fields) d'.taskGroupHref
  startedAt : Fills (toOption? toInstant?) d.startedAt (valuesUnder ["started_at"] fields)
    d'.startedAt
  finishedAt : Fills (toOption? toInstant?) d.finishedAt (valuesUnder ["finished_at"] fields)
    d'.finishedAt

/-- The fields leave no choice. -/
theorem Filled.unique {d d' d'' : Draft} {fields : List (String × Json)} (h : d.Filled fields d')
    (h' : d.Filled fields d'') : d' = d'' := by
  have href := h.href.unique h'.href
  have name := h.name.unique h'.name
  have description := h.description.unique h'.description
  have state := h.state.unique h'.state
  have started := h.started.unique h'.started
  have done := h.done.unique h'.done
  have error := h.error.unique h'.error
  have taskGroupHref := h.taskGroupHref.unique h'.taskGroupHref
  have startedAt := h.startedAt.unique h'.startedAt
  have finishedAt := h.finishedAt.unique h'.finishedAt
  cases d'
  cases d''
  simp_all only

theorem Filled.nil (d : Draft) : d.Filled [] d :=
  ⟨.kept, .kept, .kept, .kept, .kept, .kept, .kept, .kept, .kept, .kept⟩

/-- A field fills its own place and no other. -/
theorem Filled.of_visit {d d' : Draft} {name : String} {v : Json}
    (visited : d.visit name v = .ok d') : d.Filled [(name, v)] d' := by
  unfold visit at visited
  dsimp only at visited
  -- A name that is no field comes last. Any other is one of those of the place that is filled.
  split at visited
  case h_13 =>
    obtain rfl := Except.ok.inj visited
    constructor <;> (rw [Json.valuesUnder_of_notMem (by simp_all)]; exact .kept)
  all_goals
    obtain ⟨place, filled, rfl⟩ := map_fillOnce_eq_ok_iff.mp visited
    constructor <;> first | exact filled | exact .kept

/-- A field can be taken in if it fills its place. -/
theorem Filled.exists_visit {d d' : Draft} {name : String} {v : Json}
    (h : d.Filled [(name, v)] d') : ∃ d'', d.visit name v = .ok d'' := by
  unfold visit
  dsimp only
  -- One case for each name, and the last for a name that is no field.
  split
  · exact ⟨_, map_fillOnce_eq_ok_iff.mpr ⟨_, h.href, rfl⟩⟩
  · exact ⟨_, map_fillOnce_eq_ok_iff.mpr ⟨_, h.href, rfl⟩⟩
  · exact ⟨_, map_fillOnce_eq_ok_iff.mpr ⟨_, h.name, rfl⟩⟩
  · exact ⟨_, map_fillOnce_eq_ok_iff.mpr ⟨_, h.description, rfl⟩⟩
  · exact ⟨_, map_fillOnce_eq_ok_iff.mpr ⟨_, h.state, rfl⟩⟩
  · exact ⟨_, map_fillOnce_eq_ok_iff.mpr ⟨_, h.started, rfl⟩⟩
  · exact ⟨_, map_fillOnce_eq_ok_iff.mpr ⟨_, h.done, rfl⟩⟩
  · exact ⟨_, map_fillOnce_eq_ok_iff.mpr ⟨_, h.error, rfl⟩⟩
  · exact ⟨_, map_fillOnce_eq_ok_iff.mpr ⟨_, h.taskGroupHref, rfl⟩⟩
  · exact ⟨_, map_fillOnce_eq_ok_iff.mpr ⟨_, h.taskGroupHref, rfl⟩⟩
  · exact ⟨_, map_fillOnce_eq_ok_iff.mpr ⟨_, h.startedAt, rfl⟩⟩
  · exact ⟨_, map_fillOnce_eq_ok_iff.mpr ⟨_, h.finishedAt, rfl⟩⟩
  · exact ⟨d, rfl⟩

/-- A field is taken in just as its place is filled. -/
theorem visit_eq_ok_iff {d d' : Draft} {name : String} {v : Json} :
    d.visit name v = .ok d' ↔ d.Filled [(name, v)] d' := by
  refine ⟨Filled.of_visit, fun filled => ?_⟩
  obtain ⟨d'', visited⟩ := filled.exists_visit
  rw [visited, (Filled.of_visit visited).unique filled]

/-- Fields that stand one behind the other fill the places one after the other. -/
theorem filled_append_iff {d d' : Draft} {fields later : List (String × Json)} :
    d.Filled (fields ++ later) d' ↔
      ∃ between, d.Filled fields between ∧ between.Filled later d' := by
  constructor
  · intro h
    obtain ⟨href, href₁, href₂⟩ := fills_fields_append_iff.mp h.href
    obtain ⟨name, name₁, name₂⟩ := fills_fields_append_iff.mp h.name
    obtain ⟨description, description₁, description₂⟩ := fills_fields_append_iff.mp h.description
    obtain ⟨state, state₁, state₂⟩ := fills_fields_append_iff.mp h.state
    obtain ⟨started, started₁, started₂⟩ := fills_fields_append_iff.mp h.started
    obtain ⟨done, done₁, done₂⟩ := fills_fields_append_iff.mp h.done
    obtain ⟨error, error₁, error₂⟩ := fills_fields_append_iff.mp h.error
    obtain ⟨group, group₁, group₂⟩ := fills_fields_append_iff.mp h.taskGroupHref
    obtain ⟨startedAt, startedAt₁, startedAt₂⟩ := fills_fields_append_iff.mp h.startedAt
    obtain ⟨finishedAt, finishedAt₁, finishedAt₂⟩ := fills_fields_append_iff.mp h.finishedAt
    exact ⟨⟨href, name, description, state, started, done, error, group, startedAt, finishedAt⟩,
      ⟨href₁, name₁, description₁, state₁, started₁, done₁, error₁, group₁, startedAt₁,
        finishedAt₁⟩,
      ⟨href₂, name₂, description₂, state₂, started₂, done₂, error₂, group₂, startedAt₂,
        finishedAt₂⟩⟩
  · rintro ⟨between, first, second⟩
    exact {
      href := fills_fields_append_iff.mpr ⟨_, first.href, second.href⟩
      name := fills_fields_append_iff.mpr ⟨_, first.name, second.name⟩
      description := fills_fields_append_iff.mpr ⟨_, first.description, second.description⟩
      state := fills_fields_append_iff.mpr ⟨_, first.state, second.state⟩
      started := fills_fields_append_iff.mpr ⟨_, first.started, second.started⟩
      done := fills_fields_append_iff.mpr ⟨_, first.done, second.done⟩
      error := fills_fields_append_iff.mpr ⟨_, first.error, second.error⟩
      taskGroupHref := fills_fields_append_iff.mpr ⟨_, first.taskGroupHref, second.taskGroupHref⟩
      startedAt := fills_fields_append_iff.mpr ⟨_, first.startedAt, second.startedAt⟩
      finishedAt := fills_fields_append_iff.mpr ⟨_, first.finishedAt, second.finishedAt⟩ }

/-- Fields are taken in just as the places are filled. -/
theorem visitAll_eq_ok_iff {d d' : Draft} {fields : List (String × Json)} :
    reader.visitAll d fields = .ok d' ↔ d.Filled fields d' := by
  induction fields generalizing d with
  | nil =>
    rw [RecordReader.visitAll_nil_eq_ok_iff]
    constructor
    · rintro rfl
      exact .nil d'
    · exact fun filled => filled.unique (.nil d)
  | cons field rest ih =>
    obtain ⟨name, v⟩ := field
    rw [RecordReader.visitAll_cons_eq_ok_iff, ← List.singleton_append, filled_append_iff]
    exact exists_congr fun between => and_congr visit_eq_ok_iff ih

/-- The report is what the places hold, and there is none without a reference. -/
theorem finish_eq_ok_iff {draft : Draft} {d : TaskReport} :
    draft.finish = .ok d ↔ ∃ href, draft.href = some href ∧
      ({ href, name := draft.name.join, description := draft.description.join
         state := draft.state.join, started := draft.started.join, done := draft.done.join
         error := draft.error.join, taskGroupHref := draft.taskGroupHref.join
         startedAt := draft.startedAt.join
         finishedAt := draft.finishedAt.join } : TaskReport) = d := by
  unfold finish require
  cases draft.href <;> simp [bind, Except.bind, pure, Except.pure]

end Draft

/-- Fields describe a task exactly if they fill a draft of it. -/
theorem describedBy_iff {fields : List (String × Json)} {d : TaskReport} :
    d.DescribedBy fields ↔
      ∃ draft, ({} : Draft).Filled fields draft ∧ draft.finish = .ok d := by
  constructor
  · intro h
    obtain ⟨name, nameFills, nameJoin⟩ := exists_fills_iff.mpr h.name
    obtain ⟨description, descriptionFills, descriptionJoin⟩ := exists_fills_iff.mpr h.description
    obtain ⟨state, stateFills, stateJoin⟩ := exists_fills_iff.mpr h.state
    obtain ⟨started, startedFills, startedJoin⟩ := exists_fills_iff.mpr h.started
    obtain ⟨done, doneFills, doneJoin⟩ := exists_fills_iff.mpr h.done
    obtain ⟨error, errorFills, errorJoin⟩ := exists_fills_iff.mpr h.error
    obtain ⟨group, groupFills, groupJoin⟩ := exists_fills_iff.mpr h.taskGroupHref
    obtain ⟨startedAt, startedAtFills, startedAtJoin⟩ := exists_fills_iff.mpr h.startedAt
    obtain ⟨finishedAt, finishedAtFills, finishedAtJoin⟩ := exists_fills_iff.mpr h.finishedAt
    refine ⟨⟨some d.href, name, description, state, started, done, error, group, startedAt,
      finishedAt⟩, ⟨fills_some_iff.mpr h.href, nameFills, descriptionFills, stateFills,
      startedFills, doneFills, errorFills, groupFills, startedAtFills, finishedAtFills⟩,
      Draft.finish_eq_ok_iff.mpr ⟨d.href, rfl, ?_⟩⟩
    rw [nameJoin, descriptionJoin, stateJoin, startedJoin, doneJoin, errorJoin, groupJoin,
      startedAtJoin, finishedAtJoin]
  · rintro ⟨draft, filled, finished⟩
    obtain ⟨href, present, rfl⟩ := Draft.finish_eq_ok_iff.mp finished
    exact {
      href := fills_some_iff.mp (present ▸ filled.href)
      name := exists_fills_iff.mp ⟨_, filled.name, rfl⟩
      description := exists_fills_iff.mp ⟨_, filled.description, rfl⟩
      state := exists_fills_iff.mp ⟨_, filled.state, rfl⟩
      started := exists_fills_iff.mp ⟨_, filled.started, rfl⟩
      done := exists_fills_iff.mp ⟨_, filled.done, rfl⟩
      error := exists_fills_iff.mp ⟨_, filled.error, rfl⟩
      taskGroupHref := exists_fills_iff.mp ⟨_, filled.taskGroupHref, rfl⟩
      startedAt := exists_fills_iff.mp ⟨_, filled.startedAt, rfl⟩
      finishedAt := exists_fills_iff.mp ⟨_, filled.finishedAt, rfl⟩ }

/-! ## Values -/

/-- The value is an object whose fields describe the task. -/
def SpelledBy (d : TaskReport) (v : Json) : Prop :=
  ∃ fields, v = .object fields ∧ d.DescribedBy fields

/-- The value is a list that gives the fields that describe the task by their position, the last of
them left out if there are fewer items. -/
def ListedBy (d : TaskReport) (v : Json) : Prop :=
  ∃ items, v = .list items ∧ items.length ≤ reader.fields.length ∧
    d.DescribedBy (reader.fields.zip items)

theorem ofJson_object_iff {fields : List (String × Json)} {d : TaskReport} :
    ofJson (.object fields) = .ok d ↔ d.DescribedBy fields := by
  rw [ofJson, RecordReader.read_object_eq_ok_iff, describedBy_iff]
  exact exists_congr fun draft => and_congr_left fun _ => Draft.visitAll_eq_ok_iff

theorem ofJson_list_iff {items : List Json} {d : TaskReport} :
    ofJson (.list items) = .ok d ↔
      items.length ≤ reader.fields.length ∧ d.DescribedBy (reader.fields.zip items) := by
  rw [ofJson, RecordReader.read_list_eq_ok_iff, describedBy_iff]
  exact and_congr_right fun _ => exists_congr fun draft =>
    and_congr_left fun _ => Draft.visitAll_eq_ok_iff

/-- A value is read as a report exactly if it is an object or a list of one of the two forms. -/
theorem ofJson_eq_ok_iff {v : Json} {d : TaskReport} :
    ofJson v = .ok d ↔ d.SpelledBy v ∨ d.ListedBy v := by
  unfold SpelledBy ListedBy
  cases v with
  | object fields => simp [ofJson_object_iff]
  | list items => simp [ofJson_list_iff]
  | null | boolean | integer | float | string => simp [ofJson, RecordReader.read, Json.refuse]

example :
    ofJson (.object [("pulp_href", .string "t1"), ("state", .null), ("task", .string "?")]) =
      .ok { href := "t1" } ∧
    ofJson (.list [.string "t1", .null, .string "sync"]) =
      .ok { href := "t1", description := some "sync" } := ⟨rfl, rfl⟩

end TaskOrchestration.TaskReport
