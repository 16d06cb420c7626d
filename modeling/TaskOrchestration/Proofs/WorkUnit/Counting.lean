import TaskOrchestration.Proofs.WorkUnit.Chronicles
import TaskOrchestration.Proofs.WorkUnit.Gathering
import TaskOrchestration.Proofs.WorkUnit.Journaling

/-!
# The counters say how often a unit has polled

A call changes the counters of its unit exactly if it polls, and then as the end of the poll says
(`serve_counts`); a unit that is taken up from its record goes on counting. So the counters are a
fold over the ends of all polls (`chronicle_counts`), and that fold gives the number of polls and
the number of those missed in a row, as far as 32 bits hold them (`toNat_foldl_afterPoll`).
`polls_accounted` puts the two together.
-/

namespace TaskOrchestration

variable {σ : Type}

/-! ## Counters -/

/-- The counters after a poll that ended so. Only transport errors count as failures. -/
def PollCounters.afterPoll (c : PollCounters) : PollEnd → PollCounters
  | none => c.countPoll.countSuccess
  | some e => if e.isRetryable then c.countPoll.countFailure else c.countPoll

/-- Every poll is counted in the total. -/
theorem PollCounters.afterPoll_total (c : PollCounters) (ended : PollEnd) :
    (c.afterPoll ended).total = saturatingSucc c.total := by
  unfold afterPoll
  split
  · rfl
  · split <;> rfl

/-- A poll that was cut short counts among the failures if a transport error did that. -/
theorem PollCounters.afterPoll_failed (c : PollCounters) (e : OrchestrationError) :
    (c.afterPoll (some e)).failed = if e.isRetryable then saturatingSucc c.failed else c.failed := by
  unfold afterPoll
  dsimp only
  split <;> rfl

/-- After a poll whose lookups all succeeded none is missed. -/
theorem missedPolls_of_succeeded (ends : List PollEnd) : missedPolls (ends ++ [none]) = 0 := by
  unfold missedPolls
  rw [List.reverse_append, List.reverse_singleton, List.singleton_append,
    List.takeWhile_cons_of_neg (by decide)]
  rfl

/-- A poll that was cut short is one more that is missed if a transport error did that. -/
theorem missedPolls_of_interrupted (ends : List PollEnd) (e : OrchestrationError) :
    missedPolls (ends ++ [some e]) = missedPolls ends + if e.isRetryable then 1 else 0 := by
  unfold missedPolls
  rw [List.reverse_append, List.reverse_singleton, List.singleton_append,
    List.takeWhile_cons_of_pos rfl, List.countP_cons]
  rfl

/-- Counting poll after poll gives the number of all of them and of those missed in a row, up to the
greatest number of 32 bits. -/
theorem toNat_foldl_afterPoll (ends : List PollEnd) :
    (ends.foldl PollCounters.afterPoll {}).total.toNat = min ends.length (UInt32.size - 1) ∧
      (ends.foldl PollCounters.afterPoll {}).failed.toNat =
        min (missedPolls ends) (UInt32.size - 1) := by
  -- The last poll decides what becomes of the failures, so the induction adds polls at the end.
  obtain ⟨latest, rfl⟩ : ∃ latest : List PollEnd, ends = latest.reverse :=
    ⟨_, ends.reverse_reverse.symm⟩
  induction latest with
  | nil => exact ⟨rfl, rfl⟩
  | cons ended earlier ih =>
    obtain ⟨total, failed⟩ := ih
    have size : UInt32.size = 4294967296 := rfl
    rw [List.reverse_cons, List.foldl_append, List.foldl_cons, List.foldl_nil]
    constructor
    · rw [PollCounters.afterPoll_total, toNat_saturatingSucc, total, List.length_append, size]
      simp only [List.length_cons, List.length_nil]
      omega
    · cases ended with
      | none => rw [missedPolls_of_succeeded]; rfl
      | some e =>
        rw [missedPolls_of_interrupted, PollCounters.afterPoll_failed]
        split
        · rw [toNat_saturatingSucc, failed, size]
          omega
        · exact failed

example :
    let down : PollEnd := some (.transport "get_task" "/tasks/1/" "connection refused")
    let refused : PollEnd := some (.serialization "no such field")
    missedPolls [down, none, down, down] = 2 ∧ missedPolls [none, down, refused] = 1 := by decide

/-! ## Calls -/

/-- The phase leaves a unit under this policy, with these counters. -/
structure Phase.Counts (p : Phase Outcome) (policy : Policy) (counters : PollCounters) : Prop where
  policy : p.unit.policy = policy
  polls : p.unit.polls = counters

theorem Phase.Moves.counts {p : Phase Outcome} {u : WorkUnit} (h : p.Moves u) :
    p.Counts u.policy u.polls := by
  obtain ⟨lifecycle, moved⟩ := h
  exact ⟨by rw [moved], by rw [moved]⟩

namespace WorkUnit

theorem awake_polls (u : WorkUnit) : u.awake.polls = u.polls := by
  unfold awake
  split <;> rfl

/-- A poll is counted by how its lookups end. -/
theorem poll_counts (r : Remote σ) (u : WorkUnit) (s : σ) :
    (u.poll r s).1.Counts u.policy (u.polls.afterPoll (u.refresh r.backend s).2.1) := by
  have refreshed := refresh_of_tracked r.backend
    (v := { u.awake with polls := u.awake.polls.countPoll }) u.awake_tasks u.awake_groups s
  rw [poll_eq, refreshed]
  rcases u.refresh r.backend s with ⟨found, _ | e, s'⟩
  · have counted := (review_moves r.operation.name { u.awake with
      tasks := found.tasks, groups := found.groups
      polls := u.awake.polls.countPoll.countSuccess }).counts
    refine ⟨counted.policy.trans u.awake_policy, counted.polls.trans ?_⟩
    show u.awake.polls.countPoll.countSuccess = _
    rw [awake_polls]
    rfl
  · have counted := (takeFailure_moves r.operation.name e { u.awake with
      tasks := found.tasks, groups := found.groups, polls := u.awake.polls.countPoll }).counts
    refine ⟨counted.policy.trans u.awake_policy, counted.polls.trans ?_⟩
    show (if e.isRetryable then u.awake.polls.countPoll.countFailure else u.awake.polls.countPoll)
      = _
    rw [awake_polls]
    rfl

/-- The start of the work counts as no poll. -/
theorem start_counts (r : Remote σ) (u : WorkUnit) (s : σ) :
    (u.start r s).1.Counts u.policy u.polls := by
  have launched (v : WorkUnit) : (v.launch r s).1.Counts v.policy v.polls := by
    unfold launch
    rcases r.operation.invoke s with ⟨e | response, s'⟩
    · exact (fail_moves r.operation.name e v).counts
    · have counted := (review_moves r.operation.name { v with tasks := some response.tasks }).counts
      exact ⟨counted.policy, counted.polls⟩
  by_cases notStarted : u.state = .notStarted
  · rw [start_of_notStarted r notStarted]
    exact launched (u.movedTo .running)
  · rw [start_of_started r notStarted]
    exact launched u

/-- A call is counted by how it polls, if it does. -/
theorem serve_counts (r : Remote σ) (q : Request) (u : WorkUnit) (s : σ) :
    (u.serve r q s).1.Counts u.policy ((u.pollEnd? r q s).elim u.polls u.polls.afterPoll) := by
  unfold pollEnd?
  cases ended : u.state.isFinal with
  | true =>
    rw [serve_of_final r ended, Bool.not_true, Bool.and_false, Bool.false_and]
    exact ⟨rfl, rfl⟩
  | false =>
    cases initiated : u.isInitiated with
    | true =>
      match q with
      | .run .skip => exact ⟨rfl, rfl⟩
      | .run .execute =>
        rw [serve, run_of_initiated r ended s initiated]
        exact poll_counts r u s
      | .cancel =>
        let v : WorkUnit := { u with cancelRequested := true }
        let s' := u.cancelTracked r.backend s
        have counted := poll_counts r v s'
        rw [refresh_of_tracked r.backend (u := u) (v := v) rfl rfl s'] at counted
        rw [serve, cancel_of_initiated r ended s initiated]
        exact ⟨counted.policy, counted.polls⟩
    | false =>
      rw [Bool.false_and]
      match q with
      | .run .skip => exact ⟨rfl, rfl⟩
      | .run .execute =>
        rw [serve, run_of_uninitiated r ended s initiated]
        exact start_counts r u s
      | .cancel =>
        rw [serve, cancel_of_uninitiated r ended s initiated]
        have ended : (({ u with cancelRequested := true } : WorkUnit).advance .cancel
            |>.andThen fun _ u => ({ result := .ok .done, unit := u } : Phase Outcome)).Moves
              { u with cancelRequested := true } :=
          (advance_moves .cancel _).andThen fun _ _ => ⟨_, rfl⟩
        exact ⟨ended.counts.policy, ended.counts.polls⟩

/-! ## Whole lives -/

/-- The counters of a unit are the count of its polls. -/
theorem chronicle_counts (r : Remote σ) (moves : List Move) (u : WorkUnit) (s : σ) :
    ∃ episodes v s', chronicle r moves u s = .ok (episodes, v, s') ∧
      v.polls = (pollEnds r moves u s).foldl PollCounters.afterPoll u.polls := by
  induction moves generalizing u s with
  | nil => exact ⟨[], u, s, rfl, rfl⟩
  | cons move rest ih =>
    cases move with
    | call q =>
      obtain ⟨episodes, v, s', told, counted⟩ := ih (u.attend r q s).2.1 (u.attend r q s).2.2
      have polls : (u.attend r q s).2.1.polls =
          (u.pollEnd? r q s).elim u.polls u.polls.afterPoll := by
        rw [attend_unit]
        exact (serve_counts r q u s).polls
      refine ⟨_, v, s', chronicle_call q told, ?_⟩
      rw [counted, polls, pollEnds, List.foldl_append]
      cases u.pollEnd? r q s <;> rfl
    | takeUp policy =>
      obtain ⟨episodes, v, s', told, counted⟩ := ih (ofRecord policy u.record) s
      exact ⟨_, v, s', chronicle_takeUp policy told, counted⟩

/-- Whatever the remote answers, and whatever calls and reloads a host makes of a fresh unit: the
total in its record is the number of polls so far, and the failures are the polls that have ended in
a transport error, reported or not, since the last one whose lookups all succeeded. Both stop at the
greatest number of 32 bits. -/
theorem polls_accounted (policy : Policy) (r : Remote σ) (moves : List Move) (s : σ) :
    let ends := pollEnds r moves { policy } s
    ∃ episodes v s', chronicle r moves { policy } s = .ok (episodes, v, s') ∧
      v.record.pollCounters.total.toNat = min ends.length (UInt32.size - 1) ∧
      v.record.pollCounters.failed.toNat = min (missedPolls ends) (UInt32.size - 1) := by
  intro ends
  obtain ⟨episodes, v, s', told, counted⟩ := chronicle_counts r moves { policy } s
  obtain ⟨total, failed⟩ := toNat_foldl_afterPoll ends
  have counters : v.record.pollCounters = ends.foldl PollCounters.afterPoll {} := counted
  rw [← counters] at total failed
  exact ⟨episodes, v, s', told, total, failed⟩

end WorkUnit

end TaskOrchestration
