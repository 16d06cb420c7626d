import TaskOrchestration.WorkUnit.Session

/-!
# What the phases of a call come to

A unit at work is running. From there the lifecycle accepts every event by which a call ends, so
each phase has one equation: `suspend_of_running`, `fail_of_open`, `review_of_running` and
`takeFailure_of_running`. `start_of_unsuspended` and `poll_of_awaiting` bring a unit to work, and
`run_of_initiated` and its like say which of the two a call of the host is.
-/

namespace TaskOrchestration.WorkUnit

variable {σ : Type}

/-- The unit in another state. -/
def movedTo (t : Lifecycle.State) (u : WorkUnit) : WorkUnit :=
  { u with lifecycle := { u.lifecycle with state := t } }

/-- The unit, stopped by an error. -/
def stoppedBy (e : OrchestrationError) (u : WorkUnit) : WorkUnit :=
  { u with lifecycle := { state := .failed, failure := some e.message } }

/-- A unit that is in a state already is not changed by moving there. -/
theorem movedTo_self {u : WorkUnit} {t : Lifecycle.State} (h : u.state = t) : u.movedTo t = u := by
  subst h
  rfl

section Moved

variable (t : Lifecycle.State) (e : OrchestrationError) (u : WorkUnit)

@[simp] theorem movedTo_state : (u.movedTo t).state = t := rfl

@[simp] theorem movedTo_policy : (u.movedTo t).policy = u.policy := rfl

@[simp] theorem movedTo_tasks : (u.movedTo t).tasks = u.tasks := rfl

@[simp] theorem movedTo_groups : (u.movedTo t).groups = u.groups := rfl

@[simp] theorem movedTo_polls : (u.movedTo t).polls = u.polls := rfl

@[simp] theorem movedTo_cancelRequested : (u.movedTo t).cancelRequested = u.cancelRequested := rfl

@[simp] theorem movedTo_isInitiated : (u.movedTo t).isInitiated = u.isInitiated := rfl

@[simp] theorem movedTo_watchlist : (u.movedTo t).watchlist = u.watchlist := rfl

@[simp] theorem movedTo_isDone : (u.movedTo t).isDone = u.isDone := rfl

@[simp] theorem stoppedBy_state : (u.stoppedBy e).state = .failed := rfl

@[simp] theorem stoppedBy_tasks : (u.stoppedBy e).tasks = u.tasks := rfl

@[simp] theorem stoppedBy_groups : (u.stoppedBy e).groups = u.groups := rfl

@[simp] theorem stoppedBy_polls : (u.stoppedBy e).polls = u.polls := rfl

@[simp] theorem stoppedBy_isInitiated : (u.stoppedBy e).isInitiated = u.isInitiated := rfl

@[simp] theorem stoppedBy_watchlist : (u.stoppedBy e).watchlist = u.watchlist := rfl

@[simp] theorem stoppedBy_isDone : (u.stoppedBy e).isDone = u.isDone := rfl

end Moved

/-! ## Moving the lifecycle -/

theorem target_of_some {s t : Lifecycle.State} {event : Lifecycle.Event}
    (h : s.target? event.kind = some t) : s.target event = .ok t := by
  unfold Lifecycle.State.target
  rw [h]

theorem target_of_none {s : Lifecycle.State} {event : Lifecycle.Event}
    (h : s.target? event.kind = none) :
    s.target event = .error (.invalidTransition s.name event.kind.name) := by
  unfold Lifecycle.State.target
  rw [h]

/-- An event that the state accepts moves the unit; a failure leaves its message. -/
theorem advance_of_target {u : WorkUnit} {event : Lifecycle.Event} {t : Lifecycle.State}
    (h : u.state.target? event.kind = some t) :
    u.advance event = {
      result := .ok ()
      unit := { u with lifecycle := {
        state := t, failure := event.errorMessage? <|> u.lifecycle.failure } } } := by
  have target : u.lifecycle.state.target event = .ok t := target_of_some h
  simp only [advance, Lifecycle.accept, target]

/-- An event that is no failure changes nothing of the unit but its state. -/
theorem advance_eq_movedTo {u : WorkUnit} {event : Lifecycle.Event} {t : Lifecycle.State}
    (h : u.state.target? event.kind = some t) (silent : event.errorMessage? = none) :
    u.advance event = { result := .ok (), unit := u.movedTo t } := by
  rw [advance_of_target h, silent]
  rfl

/-- An event that the state does not accept changes nothing. -/
theorem advance_of_refused {u : WorkUnit} {event : Lifecycle.Event}
    (h : u.state.target? event.kind = none) :
    u.advance event = {
      result := .error (.invalidTransition u.state.name event.kind.name), unit := u } := by
  have refused : u.lifecycle.state.target event =
      .error (.invalidTransition u.state.name event.kind.name) := target_of_none h
  simp only [advance, Lifecycle.accept, refused]

/-- Every state that is not final accepts a failure. -/
theorem target?_fail {s : Lifecycle.State} (h : s.isFinal = false) :
    s.target? .fail = some .failed := by
  cases s with
  | notStarted | running | suspended => rfl
  | completed | failed | cancelled => exact absurd h (by decide)

/-- A unit that is not final takes a failure. -/
theorem failed_of_open {u : WorkUnit} (h : u.state.isFinal = false) (e : OrchestrationError) :
    u.failed e = u.stoppedBy e := by
  unfold failed
  rw [advance_of_target (t := .failed) (target?_fail h)]
  rfl

/-- The lifecycle of a unit that is not final has nothing to say against a failure. -/
theorem complaints_of_open {u : WorkUnit} (h : u.state.isFinal = false)
    (e : OrchestrationError) : u.complaints e = [] := by
  unfold complaints
  rw [advance_of_target (t := .failed) (target?_fail h)]

/-- A unit that is not final fails with the error and keeps its message. -/
theorem fail_of_open {α : Type} {u : WorkUnit} (h : u.state.isFinal = false) (name : String)
    (e : OrchestrationError) :
    u.fail (α := α) name e = {
      result := .error e, unit := u.stoppedBy e, log := [(u.stoppedBy e).errorLog name e] } := by
  unfold fail
  rw [failed_of_open h, complaints_of_open h]

theorem isFinal_of_running {u : WorkUnit} (h : u.state = .running) : u.state.isFinal = false := by
  rw [h]
  rfl

/-! ## Settling -/

/-- A unit at work hands back the delay before the next poll. -/
theorem suspend_of_running {u : WorkUnit} (h : u.state = .running) :
    u.suspend = {
      result := .ok (.suspend (u.policy.schedule.delayAfter u.polls.total))
      unit := u.movedTo .suspended } := by
  have target : u.state.target? .suspend = some .suspended := by rw [h]; rfl
  unfold suspend
  rw [advance_eq_movedTo target rfl]
  rfl

/-- The state in which a unit ends when everything is done. -/
def settledState (u : WorkUnit) : Lifecycle.State :=
  if u.cancelRequested then .cancelled else .completed

/-- A unit at work ends when everything is done, and waits otherwise. -/
theorem conclude_of_running {u : WorkUnit} (h : u.state = .running) :
    u.conclude =
      if u.isDone then {
        result := .ok .done, unit := u.movedTo u.settledState
        log := [(u.movedTo u.settledState).stepLog "finish" none] }
      else {
        result := .ok (.suspend (u.policy.schedule.delayAfter u.polls.total))
        unit := u.movedTo .suspended } := by
  let event : Lifecycle.Event := if u.cancelRequested then .cancel else .complete
  have target : u.state.target? event.kind = some u.settledState := by
    rw [h]
    unfold event settledState
    split <;> rfl
  have silent : event.errorMessage? = none := by
    unfold event
    split <;> rfl
  unfold conclude
  rw [advance_eq_movedTo target silent, suspend_of_running h]
  rfl

/-- A unit that is not final fails in a review with the first error that is reported. -/
theorem review_of_reported {u : WorkUnit} (h : u.state.isFinal = false) (name : String)
    {href message : String} (found : u.discover.watchlist.reportedError? = some (href, message)) :
    u.review name =
      u.discover.fail name (.remoteOperation href (u.policy.wording.apply message)) := by
  have isOpen : u.discover.state.isFinal = false := h
  unfold review scan
  rw [found]
  show (u.discover.fail name _).andThen _ = u.discover.fail name _
  rw [fail_of_open isOpen, fail_of_open isOpen]
  rfl

/-- A unit at work that has tracked what its tasks reveal fails with the first reported error, and
concludes if there is none. -/
theorem review_of_running {u : WorkUnit} (h : u.state = .running) (name : String) :
    u.review name =
      match u.discover.watchlist.reportedError? with
      | some (href, message) =>
        u.discover.fail name (.remoteOperation href (u.policy.wording.apply message))
      | none => u.discover.conclude := by
  cases found : u.discover.watchlist.reportedError? with
  | none =>
    unfold review scan
    rw [found]
    rfl
  | some report => exact review_of_reported (isFinal_of_running h) name found

/-- A unit at work tolerates a transport error, or reports it and waits all the same; any other
error stops it. -/
theorem takeFailure_of_running {u : WorkUnit} (h : u.state = .running) (name : String)
    (e : OrchestrationError) :
    u.takeFailure name e =
      if e.isRetryable then
        let u := { u with polls := u.polls.countFailure }
        if u.polls.failed ≤ u.policy.maxFailedPolls then {
          result := .ok (.suspend (u.policy.schedule.delayAfter u.polls.total))
          unit := u.movedTo .suspended }
        else {
          result := .error e, unit := u.movedTo .suspended
          log := [(u.movedTo .suspended).errorLog name e] }
      else u.fail name e := by
  have counted : ({ u with polls := u.polls.countFailure } : WorkUnit).state = .running := h
  have target : ({ u with polls := u.polls.countFailure } : WorkUnit).state.target?
      Lifecycle.Event.suspend.kind = some .suspended := by rw [counted]; rfl
  unfold takeFailure
  dsimp only
  rw [suspend_of_running counted, advance_eq_movedTo target rfl]
  rfl

/-! ## Getting to work -/

/-- The invocation of the operation, and what the unit makes of the answer. -/
def launch (r : Remote σ) (u : WorkUnit) (s : σ) : Phase Outcome × σ :=
  match r.operation.invoke s with
  | (.error e, s) => (u.fail r.operation.name e, s)
  | (.ok response, s) =>
    let u := { u with tasks := some response.tasks }
    let event := .step "initiate" u.state.name u.knownTasks.length 0 none
    ((u.review r.operation.name).after event, s)

/-- A unit that is started invokes its operation at work. -/
theorem start_of_notStarted (r : Remote σ) {u : WorkUnit} (h : u.state = .notStarted) (s : σ) :
    u.start r s = (u.movedTo .running).launch r s := by
  have target : u.state.target? .start = some .running := by rw [h]; rfl
  have started : u.advance .start = { result := .ok (), unit := u.movedTo .running } :=
    advance_eq_movedTo target rfl
  unfold start
  rw [if_pos h]
  generalize u.advance .start = p at started
  subst started
  rfl

/-- A unit that was taken up in a later state invokes its operation there. -/
theorem start_of_started (r : Remote σ) {u : WorkUnit} (h : u.state ≠ .notStarted) (s : σ) :
    u.start r s = u.launch r s := by
  unfold start
  rw [if_neg h]
  rfl

theorem awaitsBackend_iff {s : Lifecycle.State} :
    s.awaitsBackend = true ↔ s = .running ∨ s = .suspended := by
  cases s <;> decide

/-- What awaits the backend is not over. -/
theorem isFinal_of_awaiting {s : Lifecycle.State} (awaiting : s.awaitsBackend = true) :
    s.isFinal = false := by
  rcases awaitsBackend_iff.mp awaiting with rfl | rfl <;> rfl

/-- What is neither over nor yet to start awaits the backend. -/
theorem awaitsBackend_of_started {s : Lifecycle.State} (isOpen : s.isFinal = false)
    (started : s ≠ .notStarted) : s.awaitsBackend = true := by
  cases s with
  | running | suspended => rfl
  | notStarted => exact absurd rfl started
  | completed | failed | cancelled => exact absurd isOpen (by decide)

/-- A unit that is neither over nor suspended invokes its operation at work. -/
theorem start_of_unsuspended (r : Remote σ) {u : WorkUnit} (isOpen : u.state.isFinal = false)
    (unsuspended : u.state ≠ .suspended) (s : σ) :
    u.start r s = (u.movedTo .running).launch r s := by
  by_cases notStarted : u.state = .notStarted
  · exact start_of_notStarted r notStarted s
  · have awaiting := awaitsBackend_iff.mp (awaitsBackend_of_started isOpen notStarted)
    rw [start_of_started r notStarted, movedTo_self (awaiting.resolve_right unsuspended)]

/-- The unit, at work again if it was suspended. -/
def awake (u : WorkUnit) : WorkUnit := if u.state = .suspended then u.movedTo .running else u

theorem awake_policy (u : WorkUnit) : u.awake.policy = u.policy := by
  unfold awake
  split <;> rfl

theorem awake_tasks (u : WorkUnit) : u.awake.tasks = u.tasks := by
  unfold awake
  split <;> rfl

theorem awake_groups (u : WorkUnit) : u.awake.groups = u.groups := by
  unfold awake
  split <;> rfl

/-- A unit that a poll takes up has not ended if it had not. -/
theorem awake_isOpen {u : WorkUnit} (isOpen : u.state.isFinal = false) :
    u.awake.state.isFinal = false := by
  unfold awake
  split
  · rfl
  · exact isOpen

theorem awake_of_awaiting {u : WorkUnit} (h : u.state.awaitsBackend = true) :
    u.awake = u.movedTo .running := by
  unfold awake
  split
  · rfl
  · next unsuspended => rw [movedTo_self ((awaitsBackend_iff.mp h).resolve_right unsuspended)]

/-- Whatever state a poll finds the unit in, it takes up a suspended one, counts, and looks
everything up. -/
theorem poll_eq (r : Remote σ) (u : WorkUnit) (s : σ) :
    u.poll r s =
      match ({ u.awake with polls := u.awake.polls.countPoll } : WorkUnit).refresh r.backend s with
      | (u, none, s) => ({ u with polls := u.polls.countSuccess }.review r.operation.name, s)
      | (u, some e, s) => (u.takeFailure r.operation.name e, s) := by
  have resumed :
      (if u.state = .suspended then u.advance .resume else { result := .ok (), unit := u })
        = { result := .ok (), unit := u.awake } := by
    unfold awake
    split
    · next suspended =>
      have target : u.state.target? .resume = some .running := by rw [suspended]; rfl
      exact advance_eq_movedTo target rfl
    · rfl
  unfold poll
  generalize (if u.state = .suspended then u.advance .resume else { result := .ok (), unit := u })
    = p at resumed
  subst resumed
  rfl

/-- A unit that awaits its backend polls at work. -/
theorem poll_of_awaiting (r : Remote σ) {u : WorkUnit} (h : u.state.awaitsBackend = true) (s : σ) :
    u.poll r s =
      match ({ u.movedTo .running with polls := u.polls.countPoll } : WorkUnit).refresh
          r.backend s with
      | (u, none, s) => ({ u with polls := u.polls.countSuccess }.review r.operation.name, s)
      | (u, some e, s) => (u.takeFailure r.operation.name e, s) := by
  rw [poll_eq, awake_of_awaiting h]
  rfl

/-! ## Calls on a unit that has not ended -/

section Open

variable (r : Remote σ) {u : WorkUnit} (isOpen : u.state.isFinal = false) (s : σ)

include isOpen

/-- A run of a unit whose operation has answered is a poll. -/
theorem run_of_initiated (initiated : u.isInitiated = true) :
    u.run r .execute s = u.poll r s := by
  unfold run
  dsimp only
  rw [if_neg (by rw [isOpen]; decide), if_pos initiated]

/-- A run of a unit whose operation has not answered starts it. -/
theorem run_of_uninitiated (uninitiated : u.isInitiated = false) :
    u.run r .execute s = u.start r s := by
  unfold run
  dsimp only
  rw [if_neg (by rw [isOpen]; decide), if_neg (by rw [uninitiated]; decide)]

/-- A call to cancel a unit whose operation has answered notes that, asks to cancel everything that
is tracked, and polls. -/
theorem cancel_of_initiated (initiated : u.isInitiated = true) :
    u.cancel r s =
      let v : WorkUnit := { u with cancelRequested := true }
      let polled := v.poll r (u.cancelTracked r.backend s)
      (polled.1.after (v.stepLog "cancel" (some cancelDetails)), polled.2) := by
  unfold cancel
  rw [if_neg (by rw [isOpen]; decide)]
  exact if_pos initiated

/-- A call to cancel a unit whose operation has not answered asks nothing of the remote. -/
theorem cancel_of_uninitiated (uninitiated : u.isInitiated = false) :
    u.cancel r s =
      ((({ u with cancelRequested := true } : WorkUnit).advance .cancel).andThen fun _ u =>
        { result := .ok .done, unit := u }, s) := by
  have notInitiated : ¬ ({ u with cancelRequested := true } : WorkUnit).isInitiated = true := by
    show ¬ u.isInitiated = true
    rw [uninitiated]
    decide
  unfold cancel
  rw [if_neg (by rw [isOpen]; decide)]
  exact if_neg notInitiated

end Open

end TaskOrchestration.WorkUnit
