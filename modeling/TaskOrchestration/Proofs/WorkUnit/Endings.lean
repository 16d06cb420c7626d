import TaskOrchestration.Proofs.WorkUnit.Lookups
import TaskOrchestration.Proofs.WorkUnit.Phases

/-!
# How a call on a unit ends

A call that asks anything of the remote brings the unit to work, lets it learn what the remote has
to say, and then judges it. `Judged` is what is known of the unit that is judged, and `Ending` lists
the six ways in which a call can end for it. `Usable.serve_ending` says that every call ends in one
of them, unless the state of the unit contradicts what it tracks; all that is proved of calls is
read off from the six.
-/

namespace TaskOrchestration.WorkUnit

variable {σ : Type}

/-- How a call ends for a unit at work: the error that interrupted the call, if any, its answer, and
the unit it leaves. -/
inductive Ending (w : WorkUnit) :
    Option OrchestrationError → Except OrchestrationError Outcome → WorkUnit → Prop
  /-- An error that a task or group reports stops the unit. -/
  | reported {href message : String}
      (found : w.watchlist.reportedError? = some (href, message)) :
      Ending w none (.error (.remoteOperation href (w.policy.wording.apply message)))
        (w.stoppedBy (.remoteOperation href (w.policy.wording.apply message)))
  /-- Everything is done. -/
  | done (clean : w.watchlist.reportedError? = none) (isDone : w.isDone = true) :
      Ending w none (.ok .done) (w.movedTo w.settledState)
  /-- There is something left to wait for. -/
  | waiting (clean : w.watchlist.reportedError? = none) (notDone : w.isDone = false) :
      Ending w none (.ok (.suspend (w.policy.schedule.delayAfter w.polls.total)))
        (w.movedTo .suspended)
  /-- A transport error is passed over. -/
  | tolerated {e : OrchestrationError} (retryable : e.isRetryable = true)
      (initiated : w.isInitiated = true) (few : w.polls.failed ≤ w.policy.maxFailedPolls) :
      Ending w (some e) (.ok (.suspend (w.policy.schedule.delayAfter w.polls.total)))
        (w.movedTo .suspended)
  /-- A transport error is reported, and the unit waits all the same. -/
  | surfaced {e : OrchestrationError} (retryable : e.isRetryable = true)
      (initiated : w.isInitiated = true) (many : ¬ w.polls.failed ≤ w.policy.maxFailedPolls) :
      Ending w (some e) (.error e) (w.movedTo .suspended)
  /-- An error for which there is no other attempt stops the unit. -/
  | stopped {e : OrchestrationError} (fatal : w.isInitiated = true → e.isRetryable = false) :
      Ending w (some e) (.error e) (w.stoppedBy e)

/-- What is known of the unit `w` that a call judges, given the unit `u` it was made on, the error
that interrupted the call and the unit that the lookups have left. -/
structure Judged (u : WorkUnit) (failure : Option OrchestrationError) (found w : WorkUnit) :
    Prop where
  policy : w.policy = u.policy
  cancelRequested : w.cancelRequested = u.cancelRequested
  /-- An operation that has answered once has answered for good. -/
  initiated : u.isInitiated = true → w.isInitiated = true
  /-- Nothing is tracked or counted before the operation has answered. -/
  untouched : w.isInitiated = false → w.groups = u.groups ∧ w.polls = u.polls
  /-- Without interruption the operation has answered, and the groups its tasks name are tracked. -/
  complete : failure = none → w.isInitiated = true ∧ ∀ t ∈ w.knownTasks, ∀ href,
    t.taskGroupHref = some href → ∃ g ∈ w.groups, g.href = href
  /-- After an interruption there is something left to wait for. -/
  pending : failure.isSome = true → w.isDone = false
  /-- An interruption comes before the answer of the operation, or in a poll long after it. -/
  unchanged : failure.isSome = true → w.isInitiated = u.isInitiated
  /-- After an interruption all that is tracked is as the lookups have left it. -/
  asFound : failure.isSome = true → u.isInitiated = true → w.watchlist = found.watchlist

/-! ## From the phases -/

/-- A review ends in one of the ways without interruption. -/
theorem review_ending {u : WorkUnit} (h : u.state = .running) (name : String) :
    Ending u.discover none (u.review name).result (u.review name).unit ∧
      (u.review name).unrecorded = [] := by
  have running : u.discover.state = .running := h
  rw [review_of_running h]
  cases found : u.discover.watchlist.reportedError? with
  | some report =>
    obtain ⟨href, message⟩ := report
    dsimp only
    rw [fail_of_open (isFinal_of_running running)]
    exact ⟨.reported found, rfl⟩
  | none =>
    dsimp only
    rw [conclude_of_running running]
    cases isDone : u.discover.isDone with
    | true => exact ⟨.done found isDone, rfl⟩
    | false => exact ⟨.waiting found isDone, rfl⟩

/-- The unit after an error that ended its lookups; only transport errors are counted. -/
def countedFailure (e : OrchestrationError) (u : WorkUnit) : WorkUnit :=
  { u with polls := if e.isRetryable then u.polls.countFailure else u.polls }

/-- An error that ended the lookups ends the call in one of the ways with interruption. -/
theorem takeFailure_ending {u : WorkUnit} (h : u.state = .running)
    (initiated : u.isInitiated = true) (name : String) (e : OrchestrationError) :
    Ending (u.countedFailure e) (some e) (u.takeFailure name e).result (u.takeFailure name e).unit ∧
      (u.takeFailure name e).unrecorded = [] := by
  rw [takeFailure_of_running h]
  unfold countedFailure
  cases retryable : e.isRetryable with
  | true =>
    simp only [if_true]
    split
    · next few => exact ⟨.tolerated retryable initiated few, rfl⟩
    · next many => exact ⟨.surfaced retryable initiated many, rfl⟩
  | false =>
    simp only [Bool.false_eq_true, if_false]
    rw [fail_of_open (isFinal_of_running h)]
    exact ⟨.stopped fun _ => retryable, rfl⟩

/-- The groups that tasks name are tracked after discovery. -/
theorem Judged.ofDiscover {u v : WorkUnit} (found : WorkUnit) (policy : v.policy = u.policy)
    (cancelRequested : v.cancelRequested = u.cancelRequested) (initiated : v.isInitiated = true) :
    Judged u none found v.discover where
  policy := policy
  cancelRequested := cancelRequested
  initiated _ := initiated
  untouched (uninitiated : v.isInitiated = false) := absurd initiated (by rw [uninitiated]; decide)
  complete _ := ⟨initiated, fun _ ht _ named => v.exists_group_of_discover ht named⟩
  pending interrupted := absurd interrupted (by decide)
  unchanged interrupted := absurd interrupted (by decide)
  asFound interrupted := absurd interrupted (by decide)

/-- A unit after lookups that failed is judged as they have left it. -/
theorem Judged.ofFailure {u v found : WorkUnit} (e : OrchestrationError)
    (policy : v.policy = u.policy) (cancelRequested : v.cancelRequested = u.cancelRequested)
    (before : u.isInitiated = true) (initiated : v.isInitiated = true) (notDone : v.isDone = false)
    (asFound : v.watchlist = found.watchlist) : Judged u (some e) found (v.countedFailure e) where
  policy := policy
  cancelRequested := cancelRequested
  initiated _ := initiated
  untouched (uninitiated : v.isInitiated = false) := absurd initiated (by rw [uninitiated]; decide)
  complete answered := nomatch answered
  pending _ := notDone
  unchanged _ := by rw [before]; exact initiated
  asFound _ _ := asFound

/-- A unit whose operation fails is judged without anything to track. -/
theorem Judged.ofInvocation {u : WorkUnit} (uninitiated : u.isInitiated = false)
    (e : OrchestrationError) (found : WorkUnit) (t : Lifecycle.State) :
    Judged u (some e) found (u.movedTo t) where
  policy := rfl
  cancelRequested := rfl
  initiated initiated := initiated
  untouched _ := ⟨rfl, rfl⟩
  complete answered := nomatch answered
  pending _ := by rw [movedTo_isDone, isDone, uninitiated]; rfl
  unchanged _ := rfl
  asFound _ initiated := absurd initiated (by rw [uninitiated]; decide)

/-! ## Whole calls -/

/-- A poll of a unit that awaits its backend ends in one of the ways. -/
theorem poll_ending (r : Remote σ) {u : WorkUnit} (initiated : u.isInitiated = true)
    (awaiting : u.state.awaitsBackend = true) (s : σ) :
    ∃ w, Judged u (u.refresh r.backend s).2.1 (u.refresh r.backend s).1 w ∧
      Ending w (u.refresh r.backend s).2.1 (u.poll r s).1.result (u.poll r s).1.unit ∧
      (u.poll r s).1.unrecorded = [] := by
  let v : WorkUnit := { u.movedTo .running with polls := u.polls.countPoll }
  have refreshed := refresh_of_tracked (v := v) r.backend (u := u) rfl rfl s
  have stillInitiated : (u.refresh r.backend s).1.isInitiated = true := by
    rw [refresh_isInitiated, initiated]
  have notDone (e : OrchestrationError) :
      (u.refresh r.backend s).2.1 = some e → (u.refresh r.backend s).1.isDone = false :=
    isDone_of_refresh_error
  rw [poll_of_awaiting r awaiting, refreshed]
  generalize u.refresh r.backend s = outcome at stillInitiated notDone
  obtain ⟨found, _ | e, s'⟩ := outcome
  · let v' : WorkUnit := { v with
      tasks := found.tasks, groups := found.groups, polls := v.polls.countSuccess }
    exact ⟨v'.discover, .ofDiscover found rfl rfl stillInitiated, review_ending (u := v') rfl _⟩
  · let v' : WorkUnit := { v with tasks := found.tasks, groups := found.groups }
    exact ⟨v'.countedFailure e, .ofFailure e rfl rfl initiated stillInitiated (notDone e rfl) rfl,
      takeFailure_ending (u := v') rfl stillInitiated _ e⟩

/-- A start of a unit that is not suspended ends in one of the ways. -/
theorem start_ending (r : Remote σ) {u : WorkUnit} (isOpen : u.state.isFinal = false)
    (uninitiated : u.isInitiated = false) (unsuspended : u.state ≠ .suspended) (q : Request)
    (s : σ) :
    ∃ w, Judged u (u.interruption r q s) (u.lookups r q s).1 w ∧
      Ending w (u.interruption r q s) (u.start r s).1.result (u.start r s).1.unit ∧
      (u.start r s).1.unrecorded = [] := by
  rw [start_of_unsuspended r isOpen unsuspended]
  unfold interruption launch
  rw [if_neg (by rw [uninitiated]; decide)]
  rcases r.operation.invoke s with ⟨e | response, s'⟩
  · have stillOpen : (u.movedTo .running).state.isFinal = false := rfl
    dsimp only
    rw [fail_of_open stillOpen]
    exact ⟨u.movedTo .running, .ofInvocation uninitiated e _ _,
      .stopped fun initiated => absurd initiated (by simp [uninitiated]), rfl⟩
  · let v : WorkUnit := { u.movedTo .running with tasks := some response.tasks }
    exact ⟨v.discover, .ofDiscover _ rfl rfl rfl, review_ending (u := v) rfl _⟩

/-- The unit with the request to cancel noted, if the call is one. -/
def asked : Request → WorkUnit → WorkUnit
  | .run _, u => u
  | .cancel, u => { u with cancelRequested := true }

/-- A call leaves a unit as it is that has ended. -/
theorem serve_of_final (r : Remote σ) {u : WorkUnit} (ended : u.state.isFinal = true) (q : Request)
    (s : σ) :
    u.serve r q s =
      ({ result := match q with
          | .run .skip => .ok .skipped
          | .run .execute => .error (.invalidTransition u.state.name "execute")
          | .cancel => .ok .done
         unit := u }, s) := by
  match q with
  | .run .skip => rfl
  | .run .execute => exact if_pos ended
  | .cancel => exact if_pos ended

/-- A call of the host, other than to skip, on a unit that awaits its backend is a poll. -/
theorem serve_of_awaiting (r : Remote σ) {u : WorkUnit} (initiated : u.isInitiated = true)
    (awaiting : u.state.awaitsBackend = true) {q : Request} (asks : q ≠ .run .skip) (s : σ) :
    ∃ w, Judged (u.asked q) (u.interruption r q s) (u.lookups r q s).1 w ∧
      Ending w (u.interruption r q s) (u.serve r q s).1.result (u.serve r q s).1.unit ∧
      (u.serve r q s).1.unrecorded = [] := by
  have isOpen : u.state.isFinal = false := isFinal_of_awaiting awaiting
  have interrupted : u.interruption r q s = (u.lookups r q s).2.1 := if_pos initiated
  rw [interrupted]
  match q with
  | .run .skip => exact absurd rfl asks
  | .run .execute =>
    rw [serve, run_of_initiated r isOpen s initiated]
    exact poll_ending r initiated awaiting s
  | .cancel =>
    let v : WorkUnit := { u with cancelRequested := true }
    let s' := u.cancelTracked r.backend s
    have refreshed := refresh_of_tracked (v := v) r.backend (u := u) rfl rfl s'
    obtain ⟨w, judged, ending, recorded⟩ := poll_ending r (u := v) initiated awaiting s'
    rw [refreshed] at judged ending
    rw [serve, cancel_of_initiated r isOpen s initiated]
    exact ⟨w, { judged with asFound := judged.asFound }, ending, recorded⟩

/-- A unit that is cancelled before its operation has answered ends at once, unless it is
suspended. -/
theorem cancel_of_unsuspended (r : Remote σ) {u : WorkUnit} (isOpen : u.state.isFinal = false)
    (uninitiated : u.isInitiated = false) (unsuspended : u.state ≠ .suspended) (s : σ) :
    u.serve r .cancel s =
      ({ result := .ok .done, unit := (u.asked .cancel).movedTo .cancelled }, s) := by
  have target : u.state.target? .cancel = some .cancelled := by
    generalize u.state = state at isOpen unsuspended
    cases state with
    | notStarted | running => rfl
    | suspended => exact absurd rfl unsuspended
    | completed | failed | cancelled => exact absurd isOpen (by decide)
  have advanced : (u.asked .cancel).advance .cancel =
      { result := .ok (), unit := (u.asked .cancel).movedTo .cancelled } :=
    advance_eq_movedTo target rfl
  rw [serve, cancel_of_uninitiated r isOpen s uninitiated]
  show (((u.asked .cancel).advance .cancel).andThen _, s) = _
  rw [advanced]
  rfl

/-- A unit that is cancelled before its first run ends at once. -/
theorem cancel_of_notStarted (r : Remote σ) {u : WorkUnit} (uninitiated : u.isInitiated = false)
    (notStarted : u.state = .notStarted) (s : σ) :
    u.serve r .cancel s =
      ({ result := .ok .done, unit := (u.asked .cancel).movedTo .cancelled }, s) :=
  cancel_of_unsuspended r (by rw [notStarted]; rfl) uninitiated (by rw [notStarted]; decide) s

/-- The state of the unit fits to whether its operation has answered, as far as calls depend on
that. -/
structure Usable (u : WorkUnit) : Prop where
  /-- A unit that tracks tasks was started. -/
  started : u.isInitiated = true → u.state ≠ .notStarted
  /-- A unit that tracks none is not suspended. -/
  unsuspended : u.isInitiated = false → u.state ≠ .suspended

/-- A unit is usable if its operation has answered exactly when it was started. -/
theorem usable_of_started_iff {u : WorkUnit} (h : u.isInitiated = true ↔ u.state ≠ .notStarted) :
    u.Usable where
  started := h.mp
  unsuspended uninitiated suspended := by
    rw [h.mpr (by rw [suspended]; decide)] at uninitiated
    cases uninitiated

/-- Every call on a usable unit that asks anything of the remote ends in one of the ways. -/
theorem Usable.serve_ending (r : Remote σ) {u : WorkUnit} (h : u.Usable)
    (isOpen : u.state.isFinal = false) {q : Request} (asks : q ≠ .run .skip)
    (tracked : u.isInitiated = true ∨ q ≠ .cancel) (s : σ) :
    ∃ w, Judged (u.asked q) (u.interruption r q s) (u.lookups r q s).1 w ∧
      Ending w (u.interruption r q s) (u.serve r q s).1.result (u.serve r q s).1.unit ∧
      (u.serve r q s).1.unrecorded = [] := by
  cases initiated : u.isInitiated with
  | true =>
    have awaiting := awaitsBackend_of_started isOpen (h.started initiated)
    exact serve_of_awaiting r initiated awaiting asks s
  | false =>
    match q with
    | .run .skip => exact absurd rfl asks
    | .cancel => exact absurd tracked (by simp [initiated])
    | .run .execute =>
      rw [serve, run_of_uninitiated r isOpen s initiated]
      exact start_ending r isOpen initiated (h.unsuspended initiated) _ s

/-- Every call that asks anything of the remote ends in one of the ways, on a unit whose operation
has answered exactly when the unit was started. -/
theorem serve_ending (r : Remote σ) {u : WorkUnit} (isOpen : u.state.isFinal = false)
    (started : u.isInitiated = true ↔ u.state ≠ .notStarted) {q : Request}
    (asks : q ≠ .run .skip) (tracked : u.isInitiated = true ∨ q ≠ .cancel) (s : σ) :
    ∃ w, Judged (u.asked q) (u.interruption r q s) (u.lookups r q s).1 w ∧
      Ending w (u.interruption r q s) (u.serve r q s).1.result (u.serve r q s).1.unit ∧
      (u.serve r q s).1.unrecorded = [] :=
  (usable_of_started_iff started).serve_ending r isOpen asks tracked s

end TaskOrchestration.WorkUnit
