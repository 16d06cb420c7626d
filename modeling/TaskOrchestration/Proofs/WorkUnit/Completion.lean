import TaskOrchestration.Proofs.Group.Members
import TaskOrchestration.Proofs.WorkUnit.Coherence

/-!
# When a unit is told to be done

`Watchlist.Finished` spells out what it takes for nothing to be outstanding, and
`Reachable.done_iff_finished` says that a call answers `done` exactly then: neither an answer too
early, nor a unit that is finished and never ends.
-/

namespace TaskOrchestration

/-- A failed task has an error message, its own or the generic one. -/
theorem TaskReport.errorMessage?_of_failed {t : TaskReport} (h : t.state = some TaskState.failed) :
    t.errorMessage? ≠ none := by
  unfold TaskReport.errorMessage?
  split
  · exact Option.some_ne_none _
  · rw [h, if_pos (beq_self_eq_true _)]
    exact Option.some_ne_none _

/-- All that is tracked is over, nothing of it went wrong, and there is nothing else to track. -/
structure Watchlist.Finished (v : Watchlist) : Prop where
  /-- Every task is done. -/
  tasksDone : ∀ t ∈ v.tasks, t.isDone = true
  /-- Nothing of any group is outstanding. -/
  groupsComplete : ∀ g ∈ v.groups, g.Complete
  /-- No task has an error message. -/
  tasksClean : ∀ t ∈ v.tasks, t.errorMessage? = none
  /-- No member of a group has one. -/
  membersClean : ∀ g ∈ v.groups, ∀ m ∈ g.members, m.errorMessage? = none
  /-- Every group that a task names is tracked. -/
  revealed : ∀ t ∈ v.tasks, ∀ href, t.taskGroupHref = some href → ∃ g ∈ v.groups, g.href = href

namespace WorkUnit

variable {σ : Type}

/-- What a unit tracks is finished when the unit is done, no error is reported and the groups that
the tasks name are tracked. -/
theorem finished_iff {u : WorkUnit} (initiated : u.isInitiated = true) :
    u.watchlist.Finished ↔
      u.isDone = true ∧ u.watchlist.reportedError? = none ∧
        ∀ t ∈ u.knownTasks, ∀ href, t.taskGroupHref = some href →
          ∃ g ∈ u.groups, g.href = href := by
  rw [isDone_iff, reportedError?_eq_none_iff]
  constructor
  · intro h
    exact ⟨⟨initiated, h.tasksDone, fun g hg => g.isDone_iff.mpr (h.groupsComplete g hg)⟩,
      ⟨h.tasksClean, fun g hg => g.errorMessage?_eq_none_iff.mpr (h.membersClean g hg)⟩, h.revealed⟩
  · rintro ⟨⟨-, tasksDone, groupsDone⟩, ⟨tasksClean, groupsClean⟩, revealed⟩
    exact {
      tasksDone, tasksClean, revealed
      groupsComplete := fun g hg => g.isDone_iff.mp (groupsDone g hg)
      membersClean := fun g hg => g.errorMessage?_eq_none_iff.mp (groupsClean g hg) }

/-- A call that leaves its unit initiated says that all is done exactly when nothing interrupted it
and all that is tracked is finished. -/
theorem Ending.done_iff {u found w v : WorkUnit} {failure : Option OrchestrationError}
    {answer : Except OrchestrationError Outcome} (judged : Judged u failure found w)
    (ends : Ending w failure answer v) :
    answer = .ok .done ↔ failure = none ∧ v.watchlist.Finished := by
  cases ends with
  | reported found =>
    rw [stoppedBy_watchlist, finished_iff (judged.complete rfl).1, found]
    exact ⟨nofun, fun ⟨_, _, clean, _⟩ => nomatch clean⟩
  | done clean isDone =>
    obtain ⟨initiated, revealed⟩ := judged.complete rfl
    rw [movedTo_watchlist, finished_iff initiated]
    exact ⟨fun _ => ⟨rfl, isDone, clean, revealed⟩, fun _ => rfl⟩
  | waiting clean notDone =>
    rw [movedTo_watchlist, finished_iff (judged.complete rfl).1, notDone]
    exact ⟨nofun, fun ⟨_, isDone, _⟩ => nomatch isDone⟩
  | tolerated | surfaced | stopped => exact ⟨nofun, fun ⟨answered, _⟩ => nomatch answered⟩

/-- A unit that is said to be done has ended as it was asked to. -/
theorem Ending.state_of_done {w v : WorkUnit} {failure : Option OrchestrationError}
    {answer : Except OrchestrationError Outcome} (ends : Ending w failure answer v)
    (done : answer = .ok .done) :
    v.state = if v.cancelRequested then .cancelled else .completed := by
  cases ends with
  | done => rfl
  | reported | waiting | tolerated | surfaced | stopped => cases done

theorem Ending.cancelRequested {w v : WorkUnit} {failure : Option OrchestrationError}
    {answer : Except OrchestrationError Outcome} (ends : Ending w failure answer v) :
    v.cancelRequested = w.cancelRequested := by
  cases ends with
  | reported | done | waiting | tolerated | surfaced | stopped => rfl

/-- For every unit that calls and reloads make of a fresh one: a run or a cancellation that leaves
the unit with the answer of its operation says that it is done if and only if its requests did not
fail and all that is tracked is finished. The unit is then cancelled if that was asked for, in this
call or before, and completed otherwise, and no task and no member of a group is in the state
`failed`. -/
theorem Reachable.done_iff_finished {u : WorkUnit} (h : Reachable u)
    (isOpen : u.state.isFinal = false) (r : Remote σ) (q : Request) (asks : q ≠ .run .skip) (s : σ)
    (initiated : (u.serve r q s).1.unit.isInitiated = true) :
    ((u.serve r q s).1.result = .ok .done ↔
      u.interruption r q s = none ∧ (u.serve r q s).1.unit.watchlist.Finished) ∧
    ((u.serve r q s).1.result = .ok .done →
      (u.serve r q s).1.unit.state =
        (if (u.serve r q s).1.unit.cancelRequested then .cancelled else .completed) ∧
      (∀ t ∈ (u.serve r q s).1.unit.watchlist.tasks, t.state ≠ some TaskState.failed) ∧
      ∀ g ∈ (u.serve r q s).1.unit.watchlist.groups, ∀ m ∈ g.members,
        m.state ≠ some TaskState.failed) ∧
    ((u.serve r q s).1.unit.cancelRequested = true ↔ u.cancelRequested = true ∨ q = .cancel) := by
  have tracked : u.isInitiated = true ∨ q ≠ .cancel := by
    cases before : u.isInitiated with
    | true => exact .inl rfl
    | false =>
      refine .inr fun cancel => ?_
      subst cancel
      rw [cancel_of_notStarted r before (h.coherent.notStarted_of_uninitiated isOpen before)]
        at initiated
      exact absurd (before.symm.trans initiated) (by decide)
  obtain ⟨w, judged, ends, -⟩ :=
    serve_ending r isOpen (h.coherent.started_iff isOpen) asks tracked s
  refine ⟨ends.done_iff judged, fun done => ⟨ends.state_of_done done, ?_, ?_⟩, ?_⟩
  · intro t ht failed
    have finished := ((ends.done_iff judged).mp done).2
    exact TaskReport.errorMessage?_of_failed failed (finished.tasksClean t ht)
  · intro g hg m hm failed
    have finished := ((ends.done_iff judged).mp done).2
    exact TaskReport.errorMessage?_of_failed failed (finished.membersClean g hg m hm)
  · rw [ends.cancelRequested, judged.cancelRequested]
    cases q with
    | run event => exact ⟨.inl, fun h => h.resolve_right nofun⟩
    | cancel => exact ⟨fun _ => .inr rfl, fun _ => rfl⟩

/-- The one task of a unit is found completed by its second run. -/
theorem done_iff_finished_second_run :
    let r := Remote.saying (.ok { href := "/tasks/1/", done := some true })
    let u := (({} : WorkUnit).serve r (.run .execute) ()).1.unit
    let p := (u.serve r (.run .execute) ()).1
    Reachable u ∧ u.state.isFinal = false ∧ p.unit.isInitiated = true ∧
      (p.result = .ok .done ↔
        u.interruption r (.run .execute) () = none ∧ p.unit.watchlist.Finished) ∧
      p.unit.watchlist.tasks.length = 1 ∧ p.unit.state = .completed := by
  intro r u p
  have reachable : Reachable u := .serve r (.run .execute) () (.fresh {})
  have isOpen : u.state.isFinal = false := by decide +kernel
  have initiated : p.unit.isInitiated = true := by decide +kernel
  exact ⟨reachable, isOpen, initiated,
    (reachable.done_iff_finished isOpen r (.run .execute) nofun () initiated).1,
    by decide +kernel, by decide +kernel⟩

end WorkUnit

end TaskOrchestration
