import TaskOrchestration.Proofs.WorkUnit.Gathering

/-!
# Keeping a journal goes unnoticed

A unit behaves with a remote that keeps a journal as it does with the remote itself. Each part of a
call has one lemma that takes the journal away, up to `serve_journaled` for the whole call;
`attend_unit` and `attend_answer` read it off for a call with all that is seen of it.
-/

namespace TaskOrchestration

variable {σ : Type} (r : Remote σ)

/-! ## Lookups and requests to cancel -/

theorem TaskReport.refresh_journaled (t : TaskReport) (j : Journal σ) :
    ((t.refresh r.journaled.backend j).1, (t.refresh r.journaled.backend j).2.state) =
      t.refresh r.backend j.state := by
  have asked : r.journaled.backend.task t.href j = Journal.answer (.call (.task t.href))
      (r.backend.task t.href) j := rfl
  unfold TaskReport.refresh
  split
  · rfl
  · rw [asked]
    unfold Journal.answer
    rcases r.backend.task t.href j.state with ⟨e | fresh, s⟩ <;> rfl

theorem TrackedGroup.refresh_journaled (g : TrackedGroup) (j : Journal σ) :
    ((g.refresh r.journaled.backend j).1, (g.refresh r.journaled.backend j).2.state) =
      g.refresh r.backend j.state := by
  have asked : r.journaled.backend.group g.href j = Journal.answer (.call (.group g.href))
      (r.backend.group g.href) j := rfl
  unfold TrackedGroup.refresh
  split
  · rfl
  · rw [asked]
    unfold Journal.answer
    rcases r.backend.group g.href j.state with ⟨e | report, s⟩
    · rfl
    · let j' : Journal σ := ⟨s, j.contacts ++ [.call (.group g.href)]⟩
      have askedMembers : r.journaled.backend.members g.href j' =
        ((r.backend.members g.href s).1,
          ⟨(r.backend.members g.href s).2, j'.contacts ++ [.call (.members g.href)]⟩) := rfl
      dsimp only
      rw [askedMembers]
      rcases r.backend.members g.href s with ⟨e | members, s'⟩ <;> rfl

/-- A sweep goes on as its steps do. -/
theorem sweep_journaled {α : Type} {step : α → σ → Except OrchestrationError α × σ}
    {step' : α → Journal σ → Except OrchestrationError α × Journal σ}
    (same : ∀ a j, ((step' a j).1, (step' a j).2.state) = step a j.state) (items : List α)
    (j : Journal σ) :
    ((sweep step' items j).1, (sweep step' items j).2.1, (sweep step' items j).2.2.state) =
      sweep step items j.state := by
  induction items generalizing j with
  | nil => rfl
  | cons a rest ih =>
    have first := same a j
    unfold sweep
    rcases stepped : step' a j with ⟨e | a', j'⟩ <;> rw [stepped] at first <;> rw [← first]
    dsimp only
    rw [← ih j']

theorem TaskReport.cancelAll_journaled (tasks : List TaskReport) (j : Journal σ) :
    (TaskReport.cancelAll r.journaled.backend tasks j).state =
      TaskReport.cancelAll r.backend tasks j.state := by
  induction tasks generalizing j with
  | nil => rfl
  | cons t rest ih => exact ih _

theorem TrackedGroup.cancelAll_journaled (groups : List TrackedGroup) (j : Journal σ) :
    (TrackedGroup.cancelAll r.journaled.backend groups j).state =
      TrackedGroup.cancelAll r.backend groups j.state := by
  induction groups generalizing j with
  | nil => rfl
  | cons g rest ih =>
    have first : (g.cancel r.journaled.backend j).state = g.cancel r.backend j.state :=
      TaskReport.cancelAll_journaled r g.members j
    exact (ih _).trans (congrArg (TrackedGroup.cancelAll r.backend rest) first)

namespace WorkUnit

theorem refresh_journaled (u : WorkUnit) (j : Journal σ) :
    ((u.refresh r.journaled.backend j).1, (u.refresh r.journaled.backend j).2.1,
      (u.refresh r.journaled.backend j).2.2.state) = u.refresh r.backend j.state := by
  have tasks := sweep_journaled (TaskReport.refresh_journaled r) u.knownTasks j
  unfold refresh
  rw [← tasks]
  rcases sweep (TaskReport.refresh r.journaled.backend) u.knownTasks j with ⟨found, _ | e, j'⟩
  · dsimp only
    rw [← sweep_journaled (TrackedGroup.refresh_journaled r) u.groups j']
  · rfl

theorem cancelTracked_journaled (u : WorkUnit) (j : Journal σ) :
    (u.cancelTracked r.journaled.backend j).state = u.cancelTracked r.backend j.state := by
  unfold cancelTracked
  rw [TrackedGroup.cancelAll_journaled, TaskReport.cancelAll_journaled]

/-! ## Calls -/

theorem poll_journaled (u : WorkUnit) (j : Journal σ) :
    ((u.poll r.journaled j).1, (u.poll r.journaled j).2.state) = u.poll r j.state := by
  have looked := refresh_journaled r { u.awake with polls := u.awake.polls.countPoll } j
  rw [poll_eq, poll_eq, ← looked]
  rcases ({ u.awake with polls := u.awake.polls.countPoll } : WorkUnit).refresh
    r.journaled.backend j with ⟨found, _ | e, j'⟩ <;> rfl

theorem launch_journaled (u : WorkUnit) (j : Journal σ) :
    ((u.launch r.journaled j).1, (u.launch r.journaled j).2.state) = u.launch r j.state := by
  have asked : r.journaled.operation.invoke j = ((r.operation.invoke j.state).1,
    ⟨(r.operation.invoke j.state).2, j.contacts ++ [.invocation]⟩) := rfl
  unfold launch
  rw [asked]
  rcases r.operation.invoke j.state with ⟨e | response, s⟩ <;> rfl

theorem start_journaled (u : WorkUnit) (j : Journal σ) :
    ((u.start r.journaled j).1, (u.start r.journaled j).2.state) = u.start r j.state := by
  by_cases notStarted : u.state = .notStarted
  · rw [start_of_notStarted _ notStarted, start_of_notStarted _ notStarted]
    exact launch_journaled r _ j
  · rw [start_of_started _ notStarted, start_of_started _ notStarted]
    exact launch_journaled r _ j

/-- A call of the host goes as it would without the journal. -/
theorem serve_journaled (q : Request) (u : WorkUnit) (j : Journal σ) :
    ((u.serve r.journaled q j).1, (u.serve r.journaled q j).2.state) = u.serve r q j.state := by
  cases ended : u.state.isFinal with
  | true => rw [serve_of_final _ ended, serve_of_final _ ended]
  | false =>
    cases initiated : u.isInitiated with
    | true =>
      match q with
      | .run .skip => rfl
      | .run .execute =>
        unfold serve
        dsimp only
        rw [run_of_initiated _ ended _ initiated, run_of_initiated _ ended _ initiated]
        exact poll_journaled r u j
      | .cancel =>
        unfold serve
        dsimp only
        rw [cancel_of_initiated _ ended _ initiated, cancel_of_initiated _ ended _ initiated]
        dsimp only
        rw [← cancelTracked_journaled, ← poll_journaled]
    | false =>
      match q with
      | .run .skip => rfl
      | .run .execute =>
        unfold serve
        dsimp only
        rw [run_of_uninitiated _ ended _ initiated, run_of_uninitiated _ ended _ initiated]
        exact start_journaled r u j
      | .cancel =>
        unfold serve
        dsimp only
        rw [cancel_of_uninitiated _ ended _ initiated, cancel_of_uninitiated _ ended _ initiated]

variable (q : Request) (u : WorkUnit) (s : σ)

/-- A call with all that is seen of it leaves the unit and the remote that the call leaves. -/
theorem attend_left : (u.attend r q s).2 = ((u.serve r q s).1.unit, (u.serve r q s).2) := by
  rw [← serve_journaled r q u { state := s }]
  rfl

theorem attend_unit : (u.attend r q s).2.1 = (u.serve r q s).1.unit :=
  congrArg Prod.fst (attend_left r q u s)

/-- What is seen of a call is its answer. -/
theorem attend_answer : (u.attend r q s).1.answer = (u.serve r q s).1.result := by
  rw [← serve_journaled r q u { state := s }]
  rfl

end WorkUnit

end TaskOrchestration
