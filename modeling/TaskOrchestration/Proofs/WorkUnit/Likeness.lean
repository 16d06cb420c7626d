import TaskOrchestration.Proofs.WorkUnit.Lookups
import TaskOrchestration.Proofs.WorkUnit.Phases

/-!
# Units that answer alike

The message of a failure is kept for whoever looks at the unit, and no call depends on it. Two units
that differ in nothing else are `Alike`: every phase answers the same for both, logs the same, asks
the same of the remote, and leaves units that are alike again. There is one lemma for each phase, up
to `Alike.attend` for a whole call.
-/

namespace TaskOrchestration.WorkUnit

variable {σ : Type}

/-- Units that differ at most in the message of a failure. -/
structure Alike (u v : WorkUnit) : Prop where
  policy : u.policy = v.policy
  tasks : u.tasks = v.tasks
  groups : u.groups = v.groups
  polls : u.polls = v.polls
  cancelRequested : u.cancelRequested = v.cancelRequested
  state : u.state = v.state

/-- Phases that hand back the same, log the same and leave units that are alike. -/
structure AlikePhases {α : Type} (p q : Phase α) : Prop where
  result : p.result = q.result
  unit : Alike p.unit q.unit
  log : p.log = q.log
  unrecorded : p.unrecorded = q.unrecorded

namespace AlikePhases

variable {α β : Type}

/-- Chains of phases are alike if their links are. -/
theorem andThen {p p' : Phase α} {next : α → WorkUnit → Phase β} (h : AlikePhases p p')
    (links : ∀ a u v, Alike u v → AlikePhases (next a u) (next a v)) :
    AlikePhases (p.andThen next) (p'.andThen next) := by
  unfold Phase.andThen
  rw [← h.result]
  cases p.result with
  | error e => exact ⟨rfl, h.unit, h.log, h.unrecorded⟩
  | ok a =>
    have link := links a _ _ h.unit
    refine ⟨link.result, link.unit, ?_, ?_⟩
    · show p.log ++ _ = p'.log ++ _
      rw [h.log, link.log]
    · show p.unrecorded ++ _ = p'.unrecorded ++ _
      rw [h.unrecorded, link.unrecorded]

/-- The same event may be logged before both. -/
theorem after {p p' : Phase α} (h : AlikePhases p p') (event : LogEvent) :
    AlikePhases (p.after event) (p'.after event) where
  result := h.result
  unit := h.unit
  log := congrArg (event :: ·) h.log
  unrecorded := h.unrecorded

end AlikePhases

namespace Alike

variable {u v : WorkUnit}

theorem refl (u : WorkUnit) : Alike u u := ⟨rfl, rfl, rfl, rfl, rfl, rfl⟩

theorem trans {w : WorkUnit} (h : Alike u v) (h' : Alike v w) : Alike u w :=
  ⟨h.policy.trans h'.policy, h.tasks.trans h'.tasks, h.groups.trans h'.groups,
    h.polls.trans h'.polls, h.cancelRequested.trans h'.cancelRequested, h.state.trans h'.state⟩

/-! ## What is read off from a unit -/

theorem isInitiated (h : Alike u v) : u.isInitiated = v.isInitiated :=
  congrArg Option.isSome h.tasks

theorem knownTasks (h : Alike u v) : u.knownTasks = v.knownTasks := knownTasks_congr h.tasks

theorem watchlist (h : Alike u v) : u.watchlist = v.watchlist := by
  unfold WorkUnit.watchlist
  rw [h.knownTasks, h.groups]

theorem isDone (h : Alike u v) : u.isDone = v.isDone := isDone_congr h.tasks h.groups

/-- The message of a failure is not part of the record. -/
theorem record (h : Alike u v) : u.record = v.record := by
  unfold WorkUnit.record
  rw [h.tasks, h.groups, h.polls, h.cancelRequested, h.state]

theorem errorLog (h : Alike u v) (name : String) (e : OrchestrationError) :
    u.errorLog name e = v.errorLog name e := by
  unfold WorkUnit.errorLog
  rw [h.state]

theorem stepLog (h : Alike u v) (operation : String) (details : Option String) :
    u.stepLog operation details = v.stepLog operation details := by
  unfold WorkUnit.stepLog
  rw [h.state, h.knownTasks, h.groups]

/-! ## Phases -/

/-- Whether an event is accepted depends on the state alone. -/
theorem advance (h : Alike u v) (event : Lifecycle.Event) :
    AlikePhases (u.advance event) (v.advance event) := by
  have state : u.lifecycle.state = v.lifecycle.state := h.state
  unfold WorkUnit.advance Lifecycle.accept
  rw [state]
  cases v.lifecycle.state.target event with
  | ok t => exact ⟨rfl, ⟨h.policy, h.tasks, h.groups, h.polls, h.cancelRequested, rfl⟩, rfl, rfl⟩
  | error e => exact ⟨rfl, h, rfl, rfl⟩

theorem fail {α : Type} (h : Alike u v) (name : String) (e : OrchestrationError) :
    AlikePhases (u.fail (α := α) name e) (v.fail name e) where
  result := rfl
  unit := (h.advance _).unit
  log := congrArg ([·]) ((h.advance _).unit.errorLog name e)
  unrecorded := by
    show u.complaints e = v.complaints e
    unfold WorkUnit.complaints
    rw [(h.advance _).result]

theorem suspend (h : Alike u v) : AlikePhases u.suspend v.suspend := by
  refine (h.advance _).andThen fun _ w w' alike => ?_
  rw [alike.policy, alike.polls]
  exact ⟨rfl, alike, rfl, rfl⟩

theorem conclude (h : Alike u v) : AlikePhases u.conclude v.conclude := by
  unfold WorkUnit.conclude
  rw [h.isDone, h.cancelRequested]
  split
  · refine (h.advance _).andThen fun _ w w' alike => ?_
    rw [alike.stepLog]
    exact ⟨rfl, alike, rfl, rfl⟩
  · exact h.suspend

theorem discover (h : Alike u v) : Alike u.discover v.discover where
  policy := h.policy
  tasks := h.tasks
  groups := by
    unfold WorkUnit.discover
    rw [h.knownTasks, h.groups]
  polls := h.polls
  cancelRequested := h.cancelRequested
  state := h.state

theorem scan (h : Alike u v) (name : String) : AlikePhases (u.scan name) (v.scan name) := by
  unfold WorkUnit.scan
  rw [h.watchlist, h.policy]
  cases v.watchlist.reportedError? with
  | some report => exact h.fail name _
  | none => exact ⟨rfl, h, rfl, rfl⟩

theorem review (h : Alike u v) (name : String) : AlikePhases (u.review name) (v.review name) :=
  (h.discover.scan name).andThen fun _ _ _ alike => alike.conclude

theorem takeFailure (h : Alike u v) (name : String) (e : OrchestrationError) :
    AlikePhases (u.takeFailure name e) (v.takeFailure name e) := by
  have counted : Alike { u with polls := u.polls.countFailure }
      { v with polls := v.polls.countFailure } :=
    { h with polls := congrArg PollCounters.countFailure h.polls }
  have retried {w w' : WorkUnit} (alike : Alike w w') :
      AlikePhases
        (if w.polls.failed ≤ w.policy.maxFailedPolls then w.suspend
          else (w.advance .suspend).andThen fun _ w =>
            { result := .error e, unit := w, log := [w.errorLog name e] } : Phase Outcome)
        (if w'.polls.failed ≤ w'.policy.maxFailedPolls then w'.suspend
          else (w'.advance .suspend).andThen fun _ w =>
            { result := .error e, unit := w, log := [w.errorLog name e] }) := by
    rw [alike.polls, alike.policy]
    split
    · exact alike.suspend
    · refine (alike.advance _).andThen fun _ w w' alike => ?_
      rw [alike.errorLog]
      exact ⟨rfl, alike, rfl, rfl⟩
  unfold WorkUnit.takeFailure
  split
  · exact retried counted
  · exact h.fail name e

/-! ## Calls -/

/-- Refreshing depends on what is tracked, and the error and the remote with it. -/
theorem refresh (h : Alike u v) (b : Backend σ) (s : σ) :
    Alike (u.refresh b s).1 (v.refresh b s).1 ∧ (u.refresh b s).2 = (v.refresh b s).2 := by
  rw [refresh_of_tracked b h.tasks h.groups s]
  refine ⟨?_, rfl⟩
  rw [v.refresh_frame b s]
  exact ⟨h.policy, rfl, rfl, h.polls, h.cancelRequested, h.state⟩

theorem movedTo (h : Alike u v) (t : Lifecycle.State) : Alike (u.movedTo t) (v.movedTo t) :=
  ⟨h.policy, h.tasks, h.groups, h.polls, h.cancelRequested, rfl⟩

theorem launch (h : Alike u v) (r : Remote σ) (s : σ) :
    AlikePhases (u.launch r s).1 (v.launch r s).1 ∧ (u.launch r s).2 = (v.launch r s).2 := by
  unfold WorkUnit.launch
  rcases r.operation.invoke s with ⟨e | response, s'⟩
  · exact ⟨h.fail _ e, rfl⟩
  · have answered : Alike { u with tasks := some response.tasks }
        { v with tasks := some response.tasks } := { h with tasks := rfl }
    dsimp only
    rw [answered.state, answered.knownTasks]
    exact ⟨(answered.review _).after _, rfl⟩

theorem start (h : Alike u v) (r : Remote σ) (s : σ) :
    AlikePhases (u.start r s).1 (v.start r s).1 ∧ (u.start r s).2 = (v.start r s).2 := by
  by_cases notStarted : u.state = .notStarted
  · rw [start_of_notStarted r notStarted, start_of_notStarted r (h.state ▸ notStarted)]
    exact (h.movedTo .running).launch r s
  · rw [start_of_started r notStarted, start_of_started r (h.state ▸ notStarted)]
    exact h.launch r s

theorem poll (h : Alike u v) (r : Remote σ) (s : σ) :
    AlikePhases (u.poll r s).1 (v.poll r s).1 ∧ (u.poll r s).2 = (v.poll r s).2 := by
  have resumed :
      AlikePhases
        (if u.state = .suspended then u.advance .resume else { result := .ok (), unit := u })
        (if v.state = .suspended then v.advance .resume else { result := .ok (), unit := v }) := by
    rw [h.state]
    split
    · exact h.advance _
    · exact ⟨rfl, h, rfl, rfl⟩
  unfold WorkUnit.poll
  dsimp only
  generalize (if u.state = .suspended then u.advance .resume
    else { result := .ok (), unit := u }) = p at resumed ⊢
  generalize (if v.state = .suspended then v.advance .resume
    else { result := .ok (), unit := v }) = p' at resumed ⊢
  rw [resumed.result]
  cases p'.result with
  | error e => exact ⟨⟨rfl, resumed.unit, rfl, rfl⟩, rfl⟩
  | ok done =>
    have counted : Alike { p.unit with polls := p.unit.polls.countPoll }
        { p'.unit with polls := p'.unit.polls.countPoll } :=
      { resumed.unit with polls := congrArg PollCounters.countPoll resumed.unit.polls }
    obtain ⟨alike, same⟩ := counted.refresh r.backend s
    dsimp only
    generalize ({ p.unit with polls := p.unit.polls.countPoll } : WorkUnit).refresh r.backend s
      = x at alike same ⊢
    generalize ({ p'.unit with polls := p'.unit.polls.countPoll } : WorkUnit).refresh r.backend s
      = y at alike same ⊢
    obtain ⟨w, failure, s'⟩ := x
    obtain ⟨w', failure', s''⟩ := y
    obtain ⟨rfl, rfl⟩ := Prod.mk.inj same
    cases failure with
    | none =>
      have succeeded : Alike { w with polls := w.polls.countSuccess }
          { w' with polls := w'.polls.countSuccess } :=
        { alike with polls := congrArg PollCounters.countSuccess alike.polls }
      exact ⟨succeeded.review _, rfl⟩
    | some e => exact ⟨alike.takeFailure _ e, rfl⟩

theorem run (h : Alike u v) (r : Remote σ) (event : RunRequest) (s : σ) :
    AlikePhases (u.run r event s).1 (v.run r event s).1 ∧
      (u.run r event s).2 = (v.run r event s).2 := by
  cases event with
  | skip => exact ⟨⟨rfl, h, rfl, rfl⟩, rfl⟩
  | execute =>
    unfold WorkUnit.run
    dsimp only
    rw [h.state, h.isInitiated]
    split
    · exact ⟨⟨rfl, h, rfl, rfl⟩, rfl⟩
    · split
      · exact h.poll r s
      · exact h.start r s

theorem cancel (h : Alike u v) (r : Remote σ) (s : σ) :
    AlikePhases (u.cancel r s).1 (v.cancel r s).1 ∧ (u.cancel r s).2 = (v.cancel r s).2 := by
  have asked : Alike { u with cancelRequested := true } { v with cancelRequested := true } :=
    { h with cancelRequested := rfl }
  have told : ({ u with cancelRequested := true } : WorkUnit).cancelTracked r.backend s =
      ({ v with cancelRequested := true } : WorkUnit).cancelTracked r.backend s := by
    unfold cancelTracked
    rw [asked.knownTasks, asked.groups]
  unfold WorkUnit.cancel
  dsimp only
  rw [h.state]
  split
  · exact ⟨⟨rfl, h, rfl, rfl⟩, rfl⟩
  · rw [asked.isInitiated]
    split
    · rw [told, asked.stepLog]
      obtain ⟨polled, same⟩ := asked.poll r
        (({ v with cancelRequested := true } : WorkUnit).cancelTracked r.backend s)
      exact ⟨polled.after _, same⟩
    · refine ⟨?_, rfl⟩
      dsimp only
      refine (asked.advance _).andThen fun _ w w' alike => ?_
      exact ⟨rfl, alike, rfl, rfl⟩

theorem serve (h : Alike u v) (r : Remote σ) (q : Request) (s : σ) :
    AlikePhases (u.serve r q s).1 (v.serve r q s).1 ∧
      (u.serve r q s).2 = (v.serve r q s).2 := by
  cases q with
  | run event => exact h.run r event s
  | cancel => exact h.cancel r s

/-- All that is seen of a call is the same for units that are alike, and they stay so. -/
theorem attend (h : Alike u v) (r : Remote σ) (q : Request) (s : σ) :
    (u.attend r q s).1 = (v.attend r q s).1 ∧
      Alike (u.attend r q s).2.1 (v.attend r q s).2.1 ∧
      (u.attend r q s).2.2 = (v.attend r q s).2.2 := by
  obtain ⟨alike, same⟩ := h.serve r.journaled q { state := s }
  unfold WorkUnit.attend
  dsimp only
  rw [alike.result, alike.unit.record, alike.log, same]
  exact ⟨rfl, alike.unit, rfl⟩

end Alike

end TaskOrchestration.WorkUnit
