import TaskOrchestration.Proofs.WorkUnit.FirstError
import TaskOrchestration.Proofs.WorkUnit.Histories
import TaskOrchestration.Proofs.WorkUnit.Journaling
import TaskOrchestration.Proofs.WorkUnit.Withheld

/-!
# Which error is raised

A call that nothing interrupts comes down to one review (`exists_reviewed_of_answered`), and a
review that finds an error fails with it, in whatever state it finds the unit
(`Reviewed.of_reported`). `raises_first_error` says which error that is and how it is worded, and
that the unit has nothing else to say of it ever after.
-/

namespace TaskOrchestration

variable {σ : Type}

namespace WorkUnit

/-! ## The review of a call -/

/-- The phase `p` of a call on the unit `u` ends as the review of `w`: a unit that has not ended,
under the policy of `u`, that tracks what `found` tracks once its groups are discovered. -/
structure Reviewed (name : String) (u found : WorkUnit) (p : Phase Outcome) (w : WorkUnit) :
    Prop where
  isOpen : w.state.isFinal = false
  policy : w.policy = u.policy
  tasks : w.discover.tasks = found.tasks
  groups : w.discover.groups = found.groups
  result : p.result = (w.review name).result
  unit : p.unit = (w.review name).unit

/-- A poll whose lookups succeed reviews what they bring in for a unit that tracks the same. -/
theorem poll_reviewed (r : Remote σ) {u v found : WorkUnit} (tasks : v.tasks = u.tasks)
    (groups : v.groups = u.groups) (policy : v.policy = u.policy)
    (isOpen : v.state.isFinal = false) {s s' : σ}
    (looked : u.refresh r.backend s = (found, none, s')) :
    ∃ w, Reviewed r.operation.name u found.discover (v.poll r s).1 w := by
  let w : WorkUnit := { v.awake with
    tasks := found.tasks, groups := found.groups, polls := v.awake.polls.countPoll.countSuccess }
  have refreshed := refresh_of_tracked r.backend
    (v := { v.awake with polls := v.awake.polls.countPoll })
    (v.awake_tasks.trans tasks) (v.awake_groups.trans groups) s
  rw [looked] at refreshed
  rw [poll_eq, refreshed]
  exact ⟨w, awake_isOpen isOpen, v.awake_policy.trans policy, rfl, rfl, rfl, rfl⟩

/-- An invocation that succeeds reviews the tasks of the answer. -/
theorem launch_reviewed (r : Remote σ) {u v : WorkUnit} (groups : v.groups = u.groups)
    (policy : v.policy = u.policy) (isOpen : v.state.isFinal = false) {response : StartedWork}
    {s s' : σ} (invoked : r.operation.invoke s = (.ok response, s')) :
    ∃ w, Reviewed r.operation.name u { u with tasks := some response.tasks }.discover
      (v.launch r s).1 w := by
  unfold launch
  rw [invoked]
  refine ⟨{ v with tasks := some response.tasks }, isOpen, policy, rfl, ?_, rfl, rfl⟩
  unfold discover
  dsimp only
  rw [groups]
  rfl

/-- A call that nothing interrupts reviews what it has gathered. -/
theorem exists_reviewed_of_answered {r : Remote σ} {q : Request} {u : WorkUnit} {s : σ}
    (asks : u.Asks q) (answered : u.interruption r q s = none) :
    ∃ w, Reviewed r.operation.name u (u.gathered r q s).1 (u.serve r q s).1 w := by
  have isOpen := asks.isOpen
  cases initiated : u.isInitiated with
  | true =>
    obtain ⟨found, s', looked, gathered⟩ := exists_found_of_answered initiated answered
    rw [gathered]
    match q with
    | .run .skip => exact absurd rfl asks.notSkipped
    | .run .execute =>
      rw [serve, run_of_initiated r isOpen s initiated]
      exact poll_reviewed r rfl rfl rfl isOpen looked
    | .cancel =>
      rw [serve, cancel_of_initiated r isOpen s initiated]
      obtain ⟨w, reviewed⟩ := poll_reviewed r (u := u) (v := { u with cancelRequested := true })
        rfl rfl rfl isOpen looked
      exact ⟨w, { reviewed with }⟩
  | false =>
    obtain rfl := asks.eq_run initiated
    obtain ⟨response, s', invoked, gathered⟩ := exists_response_of_answered initiated answered
    rw [gathered, serve, run_of_uninitiated r isOpen s initiated]
    by_cases notStarted : u.state = .notStarted
    · rw [start_of_notStarted r notStarted]
      exact launch_reviewed r (u := u) (v := u.movedTo .running) rfl rfl rfl invoked
    · rw [start_of_started r notStarted]
      exact launch_reviewed r rfl rfl isOpen invoked

/-- A review that finds an error fails with it, in the wording of the unit that was called. -/
theorem Reviewed.of_reported {name : String} {u found w : WorkUnit} {p : Phase Outcome}
    (h : Reviewed name u found p w) {href message : String}
    (reported : found.watchlist.reportedError? = some (href, message)) :
    p.result = .error (.remoteOperation href (u.policy.wording.apply message)) ∧
      p.unit.state = .failed := by
  have same : w.discover.watchlist = found.watchlist := by
    unfold watchlist knownTasks
    rw [h.tasks, h.groups]
  rw [← same] at reported
  have isOpen : w.discover.state.isFinal = false := h.isOpen
  rw [h.result, h.unit, review_of_reported h.isOpen name reported, fail_of_open isOpen, h.policy]
  exact ⟨rfl, rfl⟩

/-! ## The error that is raised -/

/-- For every unit that has not ended and every call that asks something of the remote, under any
wording made from the built-in rules by adding others: if no error interrupts the call and something
that is tracked then has an error, the call fails with the first one, under the reference of that
task or group. Its message is replaced by the last rule for it, once, and is kept if there is none.
The unit has failed then and keeps what it tracks, and nothing is asked after the lookups or the
invocation. Along any history from there it stays failed with all that, asks nothing, and never
again has an error of the remote for an answer. -/
theorem raises_first_error {u : WorkUnit} {r : Remote σ} {q : Request} {s : σ} (asks : u.Asks q)
    (answered : u.interruption r q s = none) {steps : List WordingStep}
    (worded : u.policy.wording = (steps.foldl Policy.extend {}).wording)
    (reports : (u.gathered r q s).1.watchlist.Reports) :
    let found := (u.gathered r q s).1
    let turn := (u.attend r q s).1
    let v := (u.attend r q s).2.1
    (∃ href message shown, found.watchlist.FirstError href message ∧
      Rewords (Wording.standard.rules ++ steps.flatMap WordingStep.added) message shown ∧
      turn.answer = .error (.remoteOperation href shown)) ∧
    (v.state = .failed ∧ v.tasks = found.tasks ∧ v.groups = found.groups) ∧
    turn.contacts = (u.gathered r.journaled q { state := s }).2.contacts ∧
    ∀ past w, History v past w →
      (w.state = .failed ∧ w.tasks = found.tasks ∧ w.groups = found.groups) ∧
      ∀ later ∈ past, later.2.contacts = [] ∧
        ∀ href message, later.2.answer ≠ .error (.remoteOperation href message) := by
  intro found turn v
  obtain ⟨⟨href, message⟩, reported⟩ := Option.ne_none_iff_exists'.mp (found.reports_iff.mp reports)
  obtain ⟨w, reviewed⟩ := exists_reviewed_of_answered asks answered
  obtain ⟨answer, failed⟩ := reviewed.of_reported reported
  obtain ⟨kept, -⟩ := serve_gathers r asks s
  have left : v = (u.serve r q s).1.unit := attend_unit r q u s
  have tasks : v.tasks = found.tasks := by rw [left, kept.tasks]
  have groups : v.groups = found.groups := by rw [left, kept.groups]
  rw [← left] at failed
  have initiated : v.isInitiated = true :=
    (congrArg Option.isSome tasks).trans (gathered_isInitiated_of_answered answered)
  have ended : v.state.isFinal = true := by rw [failed]; rfl
  refine ⟨⟨href, message, u.policy.wording.apply message, ?_, ?_, ?_⟩,
    ⟨failed, tasks, groups⟩, ?_, fun past w history => ?_⟩
  · exact Watchlist.reportedError?_eq_some_iff.mp reported
  · have rules : u.policy.wording.rules =
        Wording.standard.rules ++ steps.flatMap WordingStep.added := by
      rw [worded, Policy.foldl_extend_rules]
    rw [← rules]
    exact Wording.apply_eq_iff.mp rfl
  · exact (attend_answer r q u s).trans answer
  · exact congrArg Journal.contacts (serve_gathers r.journaled asks { state := s }).2
  · -- The unit has ended, so only its record counts from here on.
    obtain ⟨same, turns⟩ := history.of_final ended
    have state : w.state = v.state := congrArg OutputRecord.state same
    have sameTasks : w.tasks = v.tasks := congrArg OutputRecord.tasks same
    have sameGroups : w.groups = v.groups := groups_of_record same initiated
    refine ⟨⟨state.trans failed, sameTasks.trans tasks, sameGroups.trans groups⟩,
      fun later member => ?_⟩
    obtain ⟨contacts, refused⟩ := turns later member
    exact ⟨contacts, fun href message raised => nomatch refused _ raised⟩

end WorkUnit

/-- Two rules for one message: one from settings, and another that is added to them. -/
def WordingStep.twoRules : List WordingStep :=
  [.settings { wordingRules := [⟨"disk full", "Free some space."⟩] },
    .one ⟨"disk full", "Ask the operator."⟩]

namespace WorkUnit

/-- The second run of a unit finds its task failed, and the later of two rules words the error. -/
theorem raises_first_error_reworded :
    let r := Remote.saying (.ok {
      href := "/tasks/1/", state := some TaskState.failed, error := some (.message "disk full") })
    let policy := WordingStep.twoRules.foldl Policy.extend {}
    let u := (({ policy } : WorkUnit).serve r (.run .execute) ()).1.unit
    u.Asks (.run .execute) ∧ u.interruption r (.run .execute) () = none ∧
      (u.gathered r (.run .execute) ()).1.watchlist.Reports ∧
      (u.attend r (.run .execute) ()).1.answer =
        .error (.remoteOperation "/tasks/1/" "Ask the operator.") := by
  intro r policy u
  have asks : u.Asks (.run .execute) := asks_of_run (by decide +kernel)
  have answered : u.interruption r (.run .execute) () = none := by decide +kernel
  have worded : u.policy.wording = policy.wording := by decide +kernel
  have reported : (u.gathered r (.run .execute) ()).1.watchlist.reportedError? =
      some ("/tasks/1/", "disk full") := by decide +kernel
  have reports : (u.gathered r (.run .execute) ()).1.watchlist.Reports := by
    rw [reports_iff, reported]
    exact Option.some_ne_none _
  obtain ⟨⟨href, message, shown, first, rewords, answer⟩, -⟩ :=
    raises_first_error asks answered worded reports
  rw [← Watchlist.reportedError?_eq_some_iff, reported] at first
  obtain ⟨rfl, rfl⟩ := Prod.mk.inj (Option.some.inj first)
  have apply : policy.wording.apply "disk full" = shown := by
    rw [Wording.apply_eq_iff, Policy.foldl_extend_rules]
    exact rewords
  have last : policy.wording.apply "disk full" = "Ask the operator." := by decide +kernel
  rw [← apply, last] at answer
  exact ⟨asks, answered, reports, answer⟩

end WorkUnit

end TaskOrchestration
