import TaskOrchestration.Proofs.WorkUnit.Coherence

/-!
# The answer of a unit fits its state

`Reachable.answers_fit`: which answer goes with which state, where the errors come from that a unit
hands back, and that no failure goes unrecorded, for every call on every unit that calls and reloads
make of a fresh one.
-/

namespace TaskOrchestration

variable {σ : Type}

/-- Some call on the remote is answered with the error. -/
def Remote.Raises (r : Remote σ) (e : OrchestrationError) : Prop :=
  (∃ href s, (r.backend.task href s).1 = .error e) ∨
    (∃ href s, (r.backend.group href s).1 = .error e) ∨
    (∃ href s, (r.backend.members href s).1 = .error e) ∨
    ∃ s, (r.operation.invoke s).1 = .error e

/-- The error of a task's refresh is an answer of the backend. -/
theorem TaskReport.raises_of_refresh_error (r : Remote σ) {t : TaskReport} {s : σ}
    {e : OrchestrationError} (h : (t.refresh r.backend s).1 = .error e) : r.Raises e := by
  unfold TaskReport.refresh at h
  split at h
  · cases h
  · split at h
    · cases h
    · next e' s' answered =>
      obtain rfl := Except.error.inj h
      exact .inl ⟨t.href, s, by rw [answered]⟩

/-- The error of a group's refresh is an answer of the backend. -/
theorem TrackedGroup.raises_of_refresh_error (r : Remote σ) {g : TrackedGroup} {s : σ}
    {e : OrchestrationError} (h : (g.refresh r.backend s).1 = .error e) : r.Raises e := by
  unfold TrackedGroup.refresh at h
  split at h
  · cases h
  · split at h
    · next e' s' answered =>
      obtain rfl := Except.error.inj h
      exact .inr (.inl ⟨g.href, s, by rw [answered]⟩)
    · next report s' _ =>
      split at h
      · next e' s'' answered =>
        obtain rfl := Except.error.inj h
        exact .inr (.inr (.inl ⟨g.href, s', by rw [answered]⟩))
      · cases h

namespace WorkUnit

/-- The error of a refresh is an answer of the backend. -/
theorem raises_of_refresh_error (r : Remote σ) {u : WorkUnit} {s : σ} {e : OrchestrationError}
    (h : (u.refresh r.backend s).2.1 = some e) : r.Raises e := by
  rcases swept : sweep (TaskReport.refresh r.backend) u.knownTasks s with ⟨tasks, _ | e', s'⟩
  · rw [refresh_of_tasks_ok swept] at h
    obtain ⟨g, -, s'', failed⟩ := sweep_error h
    exact g.raises_of_refresh_error r failed
  · rw [refresh_of_task_error swept] at h
    obtain rfl : e' = e := Option.some.inj h
    obtain ⟨t, -, s'', failed⟩ := sweep_error (by rw [swept])
    exact t.raises_of_refresh_error r failed

/-- The error that interrupts a call is an answer of the remote. -/
theorem raises_of_interruption {r : Remote σ} {q : Request} {u : WorkUnit} {s : σ}
    {e : OrchestrationError} (h : u.interruption r q s = some e) : r.Raises e := by
  unfold interruption at h
  split at h
  · match q with
    | .run _ => exact raises_of_refresh_error r h
    | .cancel => exact raises_of_refresh_error r h
  · split at h
    · cases h
    · next e' s' answered =>
      obtain rfl := Option.some.inj h
      exact .inr (.inr (.inr ⟨s, by rw [answered]⟩))

/-- What a call on the unit `u` hands back fits the unit that it leaves, and its error, if any,
comes from the remote. -/
structure AnswerFits (r : Remote σ) (q : Request) (s : σ) (u : WorkUnit) (p : Phase Outcome) :
    Prop where
  /-- The host is told that the unit is done exactly when the unit ends without error. -/
  done : p.result = .ok .done ↔ p.unit.state = .completed ∨ p.unit.state = .cancelled
  /-- The host is told to wait only when the unit waits. -/
  suspend : ∀ delay, p.result = .ok (.suspend delay) → p.unit.state = .suspended
  /-- A transport error in a poll leaves the unit waiting. -/
  transport : ∀ e, p.result = .error e → u.isInitiated = true → e.isRetryable = true →
    p.unit.state = .suspended
  /-- Any other error, and any error of the operation, ends the unit and is recorded. -/
  failure : ∀ e, p.result = .error e → (u.isInitiated = true → e.isRetryable = false) →
    p.unit.state = .failed ∧ p.unit.lifecycle.failure = some e.message
  /-- The error is one with which the remote answered, or one that a tracked task or group
  reports. -/
  origin : ∀ e, p.result = .error e →
    (u.interruption r q s = some e ∧ r.Raises e) ∨
      ∃ href message, p.unit.watchlist.reportedError? = some (href, message) ∧
        e = .remoteOperation href (u.policy.wording.apply message)

namespace AnswerFits

variable {r : Remote σ} {q : Request} {s : σ} {u : WorkUnit} {p : Phase Outcome}

theorem settledState_eq (w : WorkUnit) :
    w.settledState = .completed ∨ w.settledState = .cancelled := by
  unfold settledState
  split
  · exact .inr rfl
  · exact .inl rfl

/-- A call that hands back what it was told to wait for leaves a unit that waits. -/
theorem ofSuspended {delay : UInt64} (answer : p.result = .ok (.suspend delay))
    (state : p.unit.state = .suspended) : AnswerFits r q s u p where
  done := by simp [answer, state]
  suspend _ _ := state
  transport _ h := by rw [answer] at h; cases h
  failure _ h := by rw [answer] at h; cases h
  origin _ h := by rw [answer] at h; cases h

/-- A call that says that all is done leaves a unit that has ended. -/
theorem ofDone (answer : p.result = .ok .done)
    (state : p.unit.state = .completed ∨ p.unit.state = .cancelled) : AnswerFits r q s u p where
  done := ⟨fun _ => state, fun _ => answer⟩
  suspend _ h := by rw [answer] at h; cases h
  transport _ h := by rw [answer] at h; cases h
  failure _ h := by rw [answer] at h; cases h
  origin _ h := by rw [answer] at h; cases h

/-- A call that fails with an error that is final leaves a unit that has failed. -/
theorem ofStopped {e : OrchestrationError} {w : WorkUnit} (answer : p.result = .error e)
    (unit : p.unit = w.stoppedBy e) (fatal : u.isInitiated = true → e.isRetryable = false)
    (origin : (u.interruption r q s = some e ∧ r.Raises e) ∨
      ∃ href message, p.unit.watchlist.reportedError? = some (href, message) ∧
        e = .remoteOperation href (u.policy.wording.apply message)) :
    AnswerFits r q s u p where
  done := by simp [answer, unit]
  suspend _ h := by rw [answer] at h; cases h
  transport e' h initiated retryable := by
    rw [answer] at h
    obtain rfl := Except.error.inj h
    rw [fatal initiated] at retryable
    cases retryable
  failure e' h _ := by
    rw [answer] at h
    obtain rfl := Except.error.inj h
    rw [unit]
    exact ⟨rfl, rfl⟩
  origin e' h := by
    rw [answer] at h
    obtain rfl := Except.error.inj h
    exact origin

/-- Whichever way a call ends, its answer fits the unit that it leaves. -/
theorem ofEnding {v found w : WorkUnit} (same : v.isInitiated = u.isInitiated)
    (policy : v.policy = u.policy)
    (judged : Judged v (u.interruption r q s) found w)
    (ends : Ending w (u.interruption r q s) p.result p.unit) : AnswerFits r q s u p := by
  generalize failed : u.interruption r q s = failure at judged ends
  generalize answer : p.result = result at ends
  generalize unit : p.unit = after at ends
  cases ends with
  | @reported href message reported =>
    refine ofStopped answer unit (fun _ => rfl) (.inr ⟨href, message, ?_, ?_⟩)
    · rw [unit]
      exact reported
    · rw [judged.policy, policy]
  | done _ _ => exact ofDone answer (by rw [unit]; exact settledState_eq w)
  | waiting _ _ => exact ofSuspended answer (by rw [unit]; rfl)
  | tolerated _ _ _ => exact ofSuspended answer (by rw [unit]; rfl)
  | @surfaced e retryable initiated _ =>
    have before : u.isInitiated = true := by rw [← same, ← judged.unchanged rfl, initiated]
    refine ⟨by simp [answer, unit], by simp [answer], fun _ _ _ _ => by rw [unit]; rfl, ?_, ?_⟩
    · intro e' h fatal
      rw [answer] at h
      obtain rfl := Except.error.inj h
      rw [fatal before] at retryable
      cases retryable
    · intro e' h
      rw [answer] at h
      obtain rfl := Except.error.inj h
      exact .inl ⟨failed, raises_of_interruption failed⟩
  | stopped fatal =>
    refine ofStopped answer unit (fun before => fatal ?_)
      (.inl ⟨failed, raises_of_interruption failed⟩)
    rw [judged.unchanged rfl, same, before]

end AnswerFits

/-- A call on a usable unit that has not ended fits its answer to the state it leaves, and records
every failure. -/
theorem Usable.answer_fits {u : WorkUnit} (h : u.Usable) (isOpen : u.state.isFinal = false)
    (r : Remote σ) (q : Request) (s : σ) :
    AnswerFits r q s u (u.serve r q s).1 ∧ (u.serve r q s).1.unrecorded = [] := by
  match q with
  | .run .skip =>
    have answer : (u.serve r (.run .skip) s).1.result = .ok .skipped := rfl
    have unit : (u.serve r (.run .skip) s).1.unit = u := rfl
    refine ⟨⟨?_, by simp [answer], by simp [answer], by simp [answer], by simp [answer]⟩, rfl⟩
    rw [answer, unit]
    refine ⟨nofun, ?_⟩
    rintro (ended | ended) <;> rw [ended] at isOpen <;> cases isOpen
  | .run .execute =>
    obtain ⟨w, judged, ends, recorded⟩ :=
      h.serve_ending r isOpen (q := .run .execute) nofun (.inr nofun) s
    exact ⟨.ofEnding rfl rfl judged ends, recorded⟩
  | .cancel =>
    cases initiated : u.isInitiated with
    | true =>
      obtain ⟨w, judged, ends, recorded⟩ :=
        h.serve_ending r isOpen (q := .cancel) nofun (.inl initiated) s
      exact ⟨.ofEnding (v := u.asked .cancel) rfl rfl judged ends, recorded⟩
    | false =>
      rw [cancel_of_unsuspended r isOpen initiated (h.unsuspended initiated)]
      exact ⟨.ofDone rfl (.inr rfl), rfl⟩

/-- A call on a coherent unit that has not ended fits its answer to the state it leaves, and records
every failure. -/
theorem Coherent.answer_fits {u : WorkUnit} (h : Coherent u) (isOpen : u.state.isFinal = false)
    (r : Remote σ) (q : Request) (s : σ) :
    AnswerFits r q s u (u.serve r q s).1 ∧ (u.serve r q s).1.unrecorded = [] :=
  (usable_of_started_iff (h.started_iff isOpen)).answer_fits isOpen r q s

/-- For every unit that calls and reloads make of a fresh one: its state agrees with what it tracks,
and so does the state after any further call; the answer of a unit that has not ended fits that
state; a transition that is refused is reported only of a run of a unit that has ended, unless the
remote answered so itself; and no failure goes unrecorded. -/
theorem Reachable.answers_fit {u : WorkUnit} (h : Reachable u) (r : Remote σ) (q : Request)
    (s : σ) :
    Coherent u ∧ Coherent (u.serve r q s).1.unit ∧
      (u.state.isFinal = false → AnswerFits r q s u (u.serve r q s).1) ∧
      (∀ origin event, (u.serve r q s).1.result = .error (.invalidTransition origin event) →
        (u.interruption r q s = some (.invalidTransition origin event) ∧
          r.Raises (.invalidTransition origin event)) ∨
        (u.state.isFinal = true ∧ q = .run .execute ∧ origin = u.state.name ∧ event = "execute")) ∧
      (u.serve r q s).1.unrecorded = [] := by
  have coherent := h.coherent
  refine ⟨coherent, coherent.serve r q s, fun isOpen => (coherent.answer_fits isOpen r q s).1,
    ?_, ?_⟩
  · intro origin event refused
    cases ended : u.state.isFinal with
    | true =>
      rw [serve_of_final r ended] at refused
      match q with
      | .run .skip | .cancel => cases refused
      | .run .execute =>
        cases refused
        exact .inr ⟨rfl, rfl, rfl, rfl⟩
    | false =>
      rcases (coherent.answer_fits ended r q s).1.origin _ refused with raised | ⟨_, _, -, reported⟩
      · exact .inl raised
      · cases reported
  · cases ended : u.state.isFinal with
    | true => rw [serve_of_final r ended]
    | false => exact (coherent.answer_fits ended r q s).2

/-- The second run of a unit finds its one task completed. -/
theorem answers_fit_second_run :
    let r := Remote.saying (.ok { href := "/tasks/1/", done := some true })
    let u := (({} : WorkUnit).serve r (.run .execute) ()).1.unit
    Reachable u ∧ u.state = .suspended ∧ (u.serve r (.run .execute) ()).1.result = .ok .done ∧
      AnswerFits r (.run .execute) () u (u.serve r (.run .execute) ()).1 := by
  intro r u
  have reachable : Reachable u := .serve r (.run .execute) () (.fresh {})
  have suspended : u.state = .suspended := by decide
  have isOpen : u.state.isFinal = false := by rw [suspended]; rfl
  have completed : (u.serve r (.run .execute) ()).1.unit.state = .completed := by decide +kernel
  have fits := (reachable.answers_fit r (.run .execute) ()).2.2.1 isOpen
  exact ⟨reachable, suspended, fits.done.mpr (.inl completed), fits⟩

end WorkUnit

end TaskOrchestration
