import TaskOrchestration.Proofs.Group.Members
import TaskOrchestration.Proofs.WorkUnit.Gathering
import TaskOrchestration.Proofs.WorkUnit.Histories

/-!
# What is finished stays as it is

A task or a group that is done is not looked up again, so it keeps every field for the rest of the
unit's life, whatever a backend would say of it later. `KeepsDone` says this of two lists place by
place, which carries it over sweeps, over groups appended behind, and from call to call.
`Reachable.finished_stays` states it for all calls and reloads to come.
-/

namespace TaskOrchestration

variable {σ : Type}

/-! ## Lists -/

/-- Whatever is done in the first list stands unchanged at the same place of the second. -/
def KeepsDone {α : Type} (isDone : α → Bool) (before after : List α) : Prop :=
  ∀ (i : Nat) a, before[i]? = some a → isDone a = true → after[i]? = some a

namespace KeepsDone

variable {α : Type} {isDone : α → Bool} {xs ys zs : List α}

theorem refl (xs : List α) : KeepsDone isDone xs xs := fun _ _ found _ => found

theorem trans (h : KeepsDone isDone xs ys) (h' : KeepsDone isDone ys zs) :
    KeepsDone isDone xs zs := fun i a found done => h' i a (h i a found done) done

theorem nil (ys : List α) : KeepsDone isDone [] ys := nofun

theorem cons {x y : α} (head : isDone x = true → y = x) (tail : KeepsDone isDone xs ys) :
    KeepsDone isDone (x :: xs) (y :: ys) := by
  intro i a found done
  cases i with
  | zero =>
    obtain rfl : x = a := Option.some.inj found
    exact congrArg some (head done)
  | succ i => exact tail i a found done

/-- Nothing moves when something is appended. -/
theorem append (xs added : List α) : KeepsDone isDone xs (xs ++ added) := by
  intro i a found _
  rw [List.getElem?_append_left (List.getElem?_eq_some_iff.mp found).1, found]

/-- A list in which everything is done is kept as a whole if none is added. -/
theorem eq_of_done (h : KeepsDone isDone xs ys) (length : ys.length = xs.length)
    (done : ∀ a ∈ xs, isDone a = true) : ys = xs := by
  refine List.ext_getElem length fun i _ inside => ?_
  have found := List.getElem?_eq_getElem inside
  have kept := h i xs[i] found (done _ (List.getElem_mem inside))
  exact (List.getElem?_eq_some_iff.mp kept).2

end KeepsDone

/-- A sweep whose steps leave what is done alone keeps it in its place. -/
theorem sweep_keepsDone {α : Type} {step : α → σ → Except OrchestrationError α × σ}
    {isDone : α → Bool} (idle : ∀ {a : α}, isDone a = true → ∀ s, step a s = (.ok a, s))
    (items : List α) (s : σ) : KeepsDone isDone items (sweep step items s).1 := by
  induction items generalizing s with
  | nil => exact .nil _
  | cons a rest ih =>
    unfold sweep
    split
    · exact .refl _
    · next a' s' stepped =>
      refine .cons (fun done => ?_) (ih s')
      rw [idle done] at stepped
      exact (Except.ok.inj (Prod.mk.inj stepped).1).symm

namespace WorkUnit

/-! ## Units -/

/-- The second unit tracks what the first one does, with all that was done there unchanged. -/
structure KeepsFinished (u v : WorkUnit) : Prop where
  /-- An operation that has answered once has answered for good. -/
  initiated : u.isInitiated = true → v.isInitiated = true
  /-- It has named all its tasks then. -/
  count : u.isInitiated = true → v.knownTasks.length = u.knownTasks.length
  tasks : KeepsDone TaskReport.isDone u.knownTasks v.knownTasks
  groups : KeepsDone TrackedGroup.isDone u.groups v.groups

namespace KeepsFinished

variable {u v w : WorkUnit}

theorem refl (u : WorkUnit) : KeepsFinished u u := ⟨id, fun _ => rfl, .refl _, .refl _⟩

theorem trans (h : KeepsFinished u v) (h' : KeepsFinished v w) : KeepsFinished u w where
  initiated before := h'.initiated (h.initiated before)
  count before := (h'.count (h.initiated before)).trans (h.count before)
  tasks := h.tasks.trans h'.tasks
  groups := h.groups.trans h'.groups

/-- What a unit keeps depends on its tasks and groups alone. -/
theorem of_tracked (h : KeepsFinished u v) (tasks : w.tasks = v.tasks)
    (groups : w.groups = v.groups) : KeepsFinished u w := by
  have knownTasks := knownTasks_congr tasks
  exact {
    initiated := fun before => (congrArg Option.isSome tasks).trans (h.initiated before)
    count := fun before => (congrArg List.length knownTasks).trans (h.count before)
    tasks := by rw [knownTasks]; exact h.tasks
    groups := by rw [groups]; exact h.groups }

/-- A unit that tracks no task yet has none to lose. -/
theorem of_uninitiated (uninitiated : u.isInitiated = false)
    (groups : KeepsDone TrackedGroup.isDone u.groups v.groups) : KeepsFinished u v where
  initiated before := absurd before (by rw [uninitiated]; decide)
  count before := absurd before (by rw [uninitiated]; decide)
  tasks := by
    have none : u.knownTasks = [] := by
      rw [knownTasks, Option.isSome_eq_false_iff.trans Option.isNone_iff_eq_none |>.mp uninitiated]
      rfl
    rw [none]
    exact .nil _
  groups := groups

/-- Discovery appends groups. -/
theorem discover (u : WorkUnit) : KeepsFinished u u.discover where
  initiated := id
  count _ := rfl
  tasks := .refl _
  groups := by
    rw [discover_groups]
    exact .append _ _

/-- A refresh passes over what is done. -/
theorem refresh (b : Backend σ) (initiated : u.isInitiated = true) (s : σ) :
    KeepsFinished u (u.refresh b s).1 := by
  obtain ⟨tasks, known⟩ := Option.isSome_iff_exists.mp initiated
  have knownTasks : u.knownTasks = tasks := by rw [WorkUnit.knownTasks, known]; rfl
  have kept := sweep_keepsDone (TaskReport.refresh_of_isDone b) tasks s
  have length := length_sweep (TaskReport.refresh b) tasks s
  rcases swept : sweep (TaskReport.refresh b) tasks s with ⟨found, _ | e, s'⟩ <;>
    rw [swept] at kept length <;> rw [← knownTasks] at swept kept length
  · rw [refresh_of_tasks_ok swept, known]
    exact ⟨fun _ => rfl, fun _ => length, kept,
      sweep_keepsDone (TrackedGroup.refresh_of_isDone b) u.groups s'⟩
  · rw [refresh_of_task_error swept, known]
    exact ⟨fun _ => rfl, fun _ => length, kept, .refl _⟩

/-- What a call gathers keeps what was finished before. -/
theorem gathered (r : Remote σ) (u : WorkUnit) (q : Request) (s : σ) :
    KeepsFinished u (u.gathered r q s).1 := by
  cases initiated : u.isInitiated with
  | true =>
    have looked : KeepsFinished u (u.lookups r q s).1 := by
      cases q <;> exact refresh r.backend initiated _
    unfold WorkUnit.gathered
    rw [if_pos initiated]
    generalize u.lookups r q s = outcome at looked
    obtain ⟨found, _ | e, s'⟩ := outcome
    · exact looked.trans (discover found)
    · exact looked
  | false =>
    refine of_uninitiated initiated ?_
    unfold WorkUnit.gathered
    rw [if_neg (by rw [initiated]; decide)]
    rcases r.operation.invoke s with ⟨e | response, s'⟩
    · exact .refl _
    · exact (discover { u with tasks := some response.tasks }).groups

/-- A call keeps what was finished before. -/
theorem serve (r : Remote σ) (q : Request) (u : WorkUnit) (s : σ) :
    KeepsFinished u (u.serve r q s).1.unit := by
  by_cases asks : u.Asks q
  · have kept := (serve_gathers r asks s).1
    exact (gathered r u q s).of_tracked kept.tasks kept.groups
  · have kept := (serve_of_idle r asks s).1
    exact (refl u).of_tracked kept.tasks kept.groups

/-- A coherent unit is taken up from its record with all that it tracks. -/
theorem ofRecord_record (coherent : Coherent u) (policy : Policy) :
    KeepsFinished u (ofRecord policy u.record) := by
  rw [coherent.ofRecord_record policy]
  exact (refl u).of_tracked rfl rfl

end KeepsFinished

/-- For every unit that calls and reloads make of a fresh one, and whatever calls and reloads make
of it later: once the operation has answered, the number of tasks does not change; a task that is
done keeps its place and every field; and so does a group that is done, with its name, its members
and all else that is known of it. -/
theorem Reachable.finished_stays {u v : WorkUnit} {past : List (Request × Turn)} (h : Reachable u)
    (later : History u past v) :
    (u.isInitiated = true →
      v.isInitiated = true ∧ v.knownTasks.length = u.knownTasks.length) ∧
    (∀ (i : Nat) t, u.knownTasks[i]? = some t → t.isDone = true → v.knownTasks[i]? = some t) ∧
    ∀ (i : Nat) g, u.groups[i]? = some g → g.isDone = true → v.groups[i]? = some g := by
  -- A reload keeps what a unit tracks because the unit is coherent.
  have kept : Coherent v ∧ KeepsFinished u v := by
    refine later.keeps (P := fun w => Coherent w ∧ KeepsFinished u w) ?_ ?_ ⟨h.coherent, .refl u⟩
    · rintro σ r q s w ⟨coherent, before⟩
      exact ⟨coherent.serve r q s, before.trans (.serve r q w s)⟩
    · rintro policy w ⟨coherent, before⟩
      exact ⟨coherent.reload (ofRecordJson_toJson policy w.record),
        before.trans (.ofRecord_record coherent policy)⟩
  exact ⟨fun before => ⟨kept.2.initiated before, kept.2.count before⟩, kept.2.tasks, kept.2.groups⟩

end WorkUnit

/-- The remote whose operation starts a task that is done already and one that is not, and whose
backend has finished the group of the latter. -/
def Remote.halfDone : Remote Unit where
  backend := {
    task := fun href s => (.ok { href, state := some "running" }, s)
    group := fun href s => (.ok { href, name := some "import", memberHrefs := ["/tasks/3/"] }, s)
    members := fun _ s => (.ok [{ href := "/tasks/3/", state := some "completed" }], s)
    cancel := fun _ s => (.ok (), s) }
  operation := {
    name := "import"
    invoke := fun s =>
      (.ok (.many [{ href := "/tasks/1/", done := some true },
        { href := "/tasks/2/", taskGroupHref := some "/groups/1/" }]), s) }

namespace WorkUnit

/-- A task and a group are done when the backend starts to say of every task that it failed. Both
stay as they are, over the run that fails and a reload. -/
theorem finished_stays_after_failure :
    let r := Remote.halfDone
    let task : TaskReport := { href := "/tasks/1/", done := some true }
    let group : TrackedGroup := {
      href := "/groups/1/", name := some "import", memberHrefs := ["/tasks/3/"]
      members := [{ href := "/tasks/3/", state := some "completed" }], resolved := true }
    let failing := Remote.saying (.ok { href := "/tasks/1/", state := some TaskState.failed })
    let u := ((({} : WorkUnit).serve r (.run .execute) ()).1.unit.serve r (.run .execute) ()).1.unit
    let failed := u.attend failing (.run .execute) ()
    let v := ofRecord {} failed.2.1.record
    Reachable u ∧ History u [(.run .execute, failed.1)] v ∧
      (u.isInitiated = true ∧ v.isInitiated = true ∧
        v.knownTasks.length = u.knownTasks.length) ∧
      (u.knownTasks[0]? = some task ∧ task.isDone = true ∧ v.knownTasks[0]? = some task) ∧
      (u.groups[0]? = some group ∧ group.isDone = true ∧ v.groups[0]? = some group) ∧
      v.state = .failed := by
  intro r task group failing u failed v
  have reachable : Reachable u :=
    .serve r (.run .execute) () (.serve r (.run .execute) () (.fresh {}))
  have initiated : u.isInitiated = true := by decide +kernel
  have taskBefore : u.knownTasks[0]? = some task := by decide +kernel
  have groupBefore : u.groups[0]? = some group := by decide +kernel
  have groupDone : group.isDone = true := by decide +kernel
  have state : v.state = .failed := by decide +kernel
  -- From here on it does not matter which unit this is.
  clear_value u
  have later : History u [(.run .execute, failed.1)] v :=
    .reload {} (.call failing (.run .execute) () .start) (ofRecordJson_toJson {} _)
  obtain ⟨count, tasks, groups⟩ := reachable.finished_stays later
  exact ⟨reachable, later, ⟨initiated, count initiated⟩,
    ⟨taskBefore, rfl, tasks 0 task taskBefore rfl⟩,
    ⟨groupBefore, groupDone, groups 0 group groupBefore groupDone⟩, state⟩

end WorkUnit

end TaskOrchestration
