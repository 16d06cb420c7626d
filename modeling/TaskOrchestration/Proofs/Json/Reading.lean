import TaskOrchestration.Proofs.Instant.Text
import TaskOrchestration.Record

/-!
# Records survive their JSON form

`OutputRecord.reads`: the JSON form of a record is read as that record, and so are the forms
of everything it is made of. A writer puts the fields in the order of their names and leaves absent
ones out; the reader of a structure fills the place of each field it meets. The proof follows the
written fields one by one, with one lemma for a field that may be absent.
-/

namespace TaskOrchestration

namespace Json

/-- What is written is read as the value it was written for. -/
def Reads {α : Type} (read : Json → Except DecodeError α) (write : α → Json) : Prop :=
  ∀ a, read (write a) = .ok a

variable {α : Type} {read : Json → Except DecodeError α} {write : α → Json}

/-- A list in which every item was written is read item by item. -/
theorem Reads.list (h : Reads read write) :
    Reads (toList? read) fun items => .list (items.map write) := by
  intro items
  unfold toList?
  induction items with
  | nil => rfl
  | cons a items ih =>
    simp only [List.map_cons, List.mapM_cons, h a, ok_bind] at ih ⊢
    rw [ih]
    rfl

/-- A value that is never written as `null` is read where it may be absent. -/
theorem Reads.present (h : Reads read write) (notNull : ∀ a, write a ≠ .null) (a : α) :
    toOption? read (write a) = .ok (some a) := by
  unfold toOption?
  split
  · next eq => exact absurd eq (notNull a)
  · rw [h a]
    rfl

theorem reads_string : Reads toString? .string := fun _ => rfl

theorem reads_boolean : Reads toBool? .boolean := fun _ => rfl

/-- Every instant is read from its text. -/
theorem reads_instant : Reads toInstant? fun i => .string i.text := by
  intro i
  simp only [toInstant?, Instant.ofText_text]

theorem reads_uInt32 : Reads toUInt32? fun n => .ofNat n.toNat := by
  intro n
  have small : (n.toNat : Int) < UInt32.size := by exact_mod_cast n.toNat_lt
  simp only [toUInt32?, ofNat, small, Int.natCast_nonneg, decide_true, Bool.and_self, if_true,
    Int.toNat_natCast, UInt32.ofNat_toNat]

end Json

/-- The places of a draft remember also that a field was read as absent. -/
theorem join_map_some {α : Type} (o : Option α) : (o.map some).join = o := by
  cases o <;> rfl

namespace RecordReader

variable {σ α β : Type} (r : RecordReader σ α)

/-- Fields are taken in one after the other. -/
theorem visitAll_append (s : σ) (xs ys : List (String × Json)) :
    r.visitAll s (xs ++ ys) = r.visitAll s xs >>= fun s => r.visitAll s ys := by
  induction xs generalizing s with
  | nil => rfl
  | cons x xs ih =>
    obtain ⟨name, v⟩ := x
    simp only [List.cons_append, visitAll]
    cases r.visit s name v with
    | ok s' => exact ih s'
    | error e => rfl

/-- A field is taken in before those behind it. -/
theorem visitAll_cons {s s' : σ} {name : String} {v : Json} (rest : List (String × Json))
    (taken : r.visit s name v = .ok s') :
    r.visitAll s ((name, v) :: rest) = r.visitAll s' rest := by
  simp only [visitAll, taken]

/-- Two groups of fields fill a draft one after the other. -/
theorem visitAll_trans {s s' s'' : σ} {xs ys : List (String × Json)}
    (first : r.visitAll s xs = .ok s') (second : r.visitAll s' ys = .ok s'') :
    r.visitAll s (xs ++ ys) = .ok s'' := by
  rw [visitAll_append, first, ok_bind, second]

/-- An object is read once its fields have filled a draft. -/
theorem read_object {s : σ} {a : α} {fields : List (String × Json)}
    (filled : r.visitAll r.empty fields = .ok s) (finished : r.finish s = .ok a) :
    r.read (.object fields) = .ok a := by
  simp only [read, filled, finished]

/-- A field fills its place with what is read of it. -/
theorem visit_of_reads {name title : String} {write : β → Json}
    {read : Json → Except DecodeError β} (reads : Json.Reads read write) {s : σ}
    (fill : Option β → σ)
    (visit : ∀ v, r.visit s name v = fill <$> fillOnce title none read v) (b : β) :
    r.visit s name (write b) = .ok (fill (some b)) := by
  rw [visit, fillOnce, reads b]
  rfl

/-- A field that may be absent fills its place if it is there. -/
theorem visitAll_presentField {name title : String} {write : β → Json}
    {read : Json → Except DecodeError β} {s : σ} (fill : Option (Option β) → σ)
    (empty : fill none = s)
    (visit : ∀ v, r.visit s name v = fill <$> fillOnce title none (Json.toOption? read) v)
    (reads : ∀ b, Json.toOption? read (write b) = .ok (some b)) (field : Option β) :
    r.visitAll s (Json.presentField name write field) = .ok (fill (field.map some)) := by
  cases field with
  | none => rw [← empty]; rfl
  | some b => simp only [Json.presentField, visitAll, visit, fillOnce, reads b]; rfl

end RecordReader

/-! ## Tasks and groups -/

namespace TaskError

theorem toJson_ne_null (e : TaskError) : e.toJson ≠ .null := by
  cases e <;> simp [toJson]

/-- Both forms of an error survive, also an object with neither description nor traceback. -/
theorem reads : Json.Reads ofJson toJson := by
  rintro (message | ⟨description, traceback⟩)
  · rfl
  · cases description <;> cases traceback <;> rfl

end TaskError

namespace TaskReport

/-- A report survives, whichever of its fields are there. -/
theorem reads : Json.Reads ofJson toJson := by
  intro d
  -- The drafts that the fields fill one after the other, in the order of their names.
  let e₁ : Draft := { description := d.description.map some }
  let e₂ : Draft := { e₁ with done := d.done.map some }
  let e₃ : Draft := { e₂ with error := d.error.map some }
  let e₄ : Draft := { e₃ with finishedAt := d.finishedAt.map some }
  let e₅ : Draft := { e₄ with href := some d.href }
  let e₆ : Draft := { e₅ with name := d.name.map some }
  let e₇ : Draft := { e₆ with started := d.started.map some }
  let e₈ : Draft := { e₇ with startedAt := d.startedAt.map some }
  let e₉ : Draft := { e₈ with state := d.state.map some }
  let full : Draft := { e₉ with taskGroupHref := d.taskGroupHref.map some }
  have text := Json.reads_string.present (by simp)
  have flag := Json.reads_boolean.present (by simp)
  have instant := Json.reads_instant.present (by simp)
  have error := TaskError.reads.present TaskError.toJson_ne_null
  refine reader.read_object (s := full) ?filled ?finished
  case filled =>
    refine reader.visitAll_trans ?_ (reader.visitAll_presentField
      (fun o => { e₉ with taskGroupHref := o }) rfl (fun _ => rfl) text _)
    refine reader.visitAll_trans ?_ (reader.visitAll_presentField
      (fun o => { e₈ with state := o }) rfl (fun _ => rfl) text _)
    refine reader.visitAll_trans ?_ (reader.visitAll_presentField
      (fun o => { e₇ with startedAt := o }) rfl (fun _ => rfl) instant _)
    refine reader.visitAll_trans ?_ (reader.visitAll_presentField
      (fun o => { e₆ with started := o }) rfl (fun _ => rfl) flag _)
    refine reader.visitAll_trans ?_ (reader.visitAll_presentField
      (fun o => { e₅ with name := o }) rfl (fun _ => rfl) text _)
    refine reader.visitAll_trans ?_ (reader.visitAll_cons []
      (show reader.visit e₄ "href" _ = .ok e₅ from rfl))
    refine reader.visitAll_trans ?_ (reader.visitAll_presentField
      (fun o => { e₃ with finishedAt := o }) rfl (fun _ => rfl) instant _)
    refine reader.visitAll_trans ?_ (reader.visitAll_presentField
      (fun o => { e₂ with error := o }) rfl (fun _ => rfl) error _)
    refine reader.visitAll_trans ?_ (reader.visitAll_presentField
      (fun o => { e₁ with done := o }) rfl (fun _ => rfl) flag _)
    exact reader.visitAll_presentField (fun o => { description := o }) rfl (fun _ => rfl) text _
  case finished =>
    show Except.ok _ = _
    simp [full, e₉, e₈, e₇, e₆, e₅, e₄, e₃, e₂, e₁, join_map_some]

end TaskReport

namespace TrackedGroup

/-- A tracked group survives with its members. -/
theorem reads : Json.Reads ofJson toJson := by
  intro g
  let e₁ : Draft := { allTasksDispatched := g.allTasksDispatched.map some }
  let e₂ : Draft := { e₁ with href := some g.href }
  let e₃ : Draft := { e₂ with memberHrefs := some g.memberHrefs }
  let e₄ : Draft := { e₃ with members := some g.members }
  let e₅ : Draft := { e₄ with name := g.name.map some }
  let full : Draft := { e₅ with resolved := some g.resolved }
  have text := Json.reads_string.present (by simp)
  have flag := Json.reads_boolean.present (by simp)
  have memberHrefs : reader.visit e₂ "member_hrefs" (.ofStrings g.memberHrefs) = .ok e₃ :=
    reader.visit_of_reads Json.reads_string.list (fun o => { e₂ with memberHrefs := o })
      (fun _ => rfl) g.memberHrefs
  have members : reader.visit e₃ "members" (.list (g.members.map TaskReport.toJson)) = .ok e₄ :=
    reader.visit_of_reads TaskReport.reads.list (fun o => { e₃ with members := o })
      (fun _ => rfl) g.members
  refine reader.read_object (s := full) ?filled ?finished
  case filled =>
    refine reader.visitAll_trans ?_ (reader.visitAll_cons []
      (show reader.visit e₅ "resolved" _ = .ok full from rfl))
    refine reader.visitAll_trans ?_ (reader.visitAll_presentField
      (fun o => { e₄ with name := o }) rfl (fun _ => rfl) text _)
    refine reader.visitAll_trans (reader.visitAll_presentField
      (fun o => { allTasksDispatched := o }) rfl (fun _ => rfl) flag _) ?_
    rw [reader.visitAll_cons _ (show reader.visit e₁ "href" _ = .ok e₂ from rfl),
      reader.visitAll_cons _ memberHrefs, reader.visitAll_cons _ members]
    rfl
  case finished =>
    show Except.ok _ = _
    simp [full, e₅, e₄, e₃, e₂, e₁, join_map_some]

end TrackedGroup

/-! ## The record -/

/-- The counters of polls survive. -/
theorem PollCounters.reads : Json.Reads PollCounters.reader.read PollCounters.toJson := by
  intro c
  let e₁ : Draft := { failed := some c.failed }
  let full : Draft := { e₁ with total := some c.total }
  have failed : reader.visit {} "failed" (.ofNat c.failed.toNat) = .ok e₁ :=
    reader.visit_of_reads Json.reads_uInt32 (fun o => { failed := o }) (fun _ => rfl) c.failed
  have total : reader.visit e₁ "total" (.ofNat c.total.toNat) = .ok full :=
    reader.visit_of_reads Json.reads_uInt32 (fun o => { e₁ with total := o }) (fun _ => rfl)
      c.total
  refine reader.read_object (s := full) ?filled rfl
  show reader.visitAll {} _ = _
  rw [reader.visitAll_cons _ failed, reader.visitAll_cons _ total]
  rfl

/-- Every state survives. -/
theorem Lifecycle.State.reads : Json.Reads Lifecycle.State.ofJson Lifecycle.State.toJson := by
  intro s
  cases s <;> rfl

namespace OutputRecord

/-- A list that may be absent is read as what it was written for. -/
theorem reads_listOrNull {α : Type} {read : Json → Except DecodeError α} {write : α → Json}
    (h : Json.Reads read write) :
    Json.Reads (Json.toOption? (Json.toList? read)) (listOrNull write) := by
  rintro (- | items)
  · rfl
  · exact h.list.present (by simp) items

/-- The JSON form of a record is read as that record. -/
theorem reads : Json.Reads ofJson toJson := by
  intro r
  let e₁ : Draft := { cancelRequested := some r.cancelRequested }
  let e₂ : Draft := { e₁ with pollCounters := some r.pollCounters }
  let e₃ : Draft := { e₂ with state := some r.state }
  let e₄ : Draft := { e₃ with taskGroups := some r.taskGroups }
  let full : Draft := { e₄ with tasks := some r.tasks }
  have cancelRequested : reader.visit {} "cancel_requested" (.boolean r.cancelRequested)
      = .ok e₁ := rfl
  have pollCounters : reader.visit e₁ "poll_attempts" r.pollCounters.toJson = .ok e₂ :=
    reader.visit_of_reads PollCounters.reads (fun o => { e₁ with pollCounters := o })
      (fun _ => rfl) r.pollCounters
  have state : reader.visit e₂ "state" r.state.toJson = .ok e₃ :=
    reader.visit_of_reads Lifecycle.State.reads (fun o => { e₂ with state := o })
      (fun _ => rfl) r.state
  have taskGroups : reader.visit e₃ "task_groups" (listOrNull TrackedGroup.toJson r.taskGroups)
      = .ok e₄ :=
    reader.visit_of_reads (reads_listOrNull TrackedGroup.reads)
      (fun o => { e₃ with taskGroups := o }) (fun _ => rfl) r.taskGroups
  have tasks : reader.visit e₄ "tasks" (listOrNull TaskReport.toJson r.tasks) = .ok full :=
    reader.visit_of_reads (reads_listOrNull TaskReport.reads)
      (fun o => { e₄ with tasks := o }) (fun _ => rfl) r.tasks
  refine reader.read_object (s := full) ?filled rfl
  show reader.visitAll {} _ = _
  rw [reader.visitAll_cons _ cancelRequested, reader.visitAll_cons _ pollCounters,
    reader.visitAll_cons _ state, reader.visitAll_cons _ taskGroups, reader.visitAll_cons _ tasks]
  rfl

/-- Every record survives its JSON form, whichever of its lists and fields are there, and no other
record has that form. -/
theorem ofJson_toJson (record : OutputRecord) :
    ofJson record.toJson = .ok record ∧
      ∀ other : OutputRecord, other.toJson = record.toJson ↔ other = record := by
  refine ⟨reads record, fun other => ⟨fun same => ?_, congrArg toJson⟩⟩
  have survived := reads other
  rw [same, reads record] at survived
  exact (Except.ok.inj survived).symm

end OutputRecord

end TaskOrchestration
