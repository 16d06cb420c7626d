import TaskOrchestration.Proofs.Json.Reading
import TaskOrchestration.Proofs.WorkUnit.Endings

/-!
# The state of a unit agrees with what it tracks

`Coherent` is the invariant of every unit that a host can come to by calls and reloads, whatever the
remote answers. A call keeps it because each of the ways in which a call can end does, and a reload
keeps it because the record of a coherent unit leaves out nothing that matters
(`Coherent.ofRecord_record`).
-/

namespace TaskOrchestration

namespace WorkUnit

variable {σ : Type}

/-- The unit taken up from a record in JSON is the one taken up from the record. -/
theorem ofRecordJson_toJson (policy : Policy) (record : OutputRecord) :
    ofRecordJson policy record.toJson = .ok (ofRecord policy record) := by
  unfold ofRecordJson
  rw [OutputRecord.reads record]
  rfl

/-- The state of the unit agrees with what the unit tracks and was asked for. -/
structure Coherent (u : WorkUnit) : Prop where
  /-- No call leaves the unit at work. -/
  notRunning : u.state ≠ .running
  /-- A unit that is not started has asked nothing and was asked nothing. -/
  notStarted : u.state = .notStarted → u.tasks = none ∧ u.cancelRequested = false
  /-- Nothing is tracked or counted before the operation has answered. -/
  untracked : u.tasks = none → u.groups = [] ∧ u.polls = {}
  /-- A unit that is suspended waits for something. -/
  suspended : u.state = .suspended → u.isInitiated = true ∧ u.isDone = false
  /-- A completed unit is done and was not asked to cancel. -/
  completed : u.state = .completed → u.isDone = true ∧ u.cancelRequested = false
  /-- A cancelled unit was asked to cancel, and is done unless nothing was ever started. -/
  cancelled : u.state = .cancelled →
    u.cancelRequested = true ∧ (u.isInitiated = false ∨ u.isDone = true)

namespace Coherent

/-- A fresh unit is coherent. -/
theorem fresh (policy : Policy) : Coherent { policy } where
  notRunning := nofun
  notStarted _ := ⟨rfl, rfl⟩
  untracked _ := ⟨rfl, rfl⟩
  suspended := nofun
  completed := nofun
  cancelled := nofun

variable {u : WorkUnit}

/-- The state of a coherent unit that is not over says whether its operation has answered. -/
theorem started_iff (h : Coherent u) (isOpen : u.state.isFinal = false) :
    u.isInitiated = true ↔ u.state ≠ .notStarted := by
  refine ⟨fun initiated notStarted => ?_, fun started => ?_⟩
  · rw [isInitiated, (h.notStarted notStarted).1] at initiated
    cases initiated
  · rcases awaitsBackend_iff.mp (awaitsBackend_of_started isOpen started) with running | suspended
    · exact absurd running h.notRunning
    · exact (h.suspended suspended).1

theorem notStarted_of_uninitiated (h : Coherent u) (isOpen : u.state.isFinal = false)
    (uninitiated : u.isInitiated = false) : u.state = .notStarted :=
  Classical.byContradiction fun started => by
    rw [(h.started_iff isOpen).mpr started] at uninitiated
    cases uninitiated

/-! ## Calls -/

/-- A unit that fails keeps what it tracks, so it stays coherent. -/
theorem ofFailed {w : WorkUnit} (state : w.state = .failed)
    (untracked : w.tasks = none → w.groups = [] ∧ w.polls = {}) : Coherent w where
  notRunning := by rw [state]; decide
  notStarted h := by rw [state] at h; cases h
  untracked := untracked
  suspended h := by rw [state] at h; cases h
  completed h := by rw [state] at h; cases h
  cancelled h := by rw [state] at h; cases h

/-- A unit that waits for something is coherent. -/
theorem ofSuspended {w : WorkUnit} (state : w.state = .suspended) (initiated : w.isInitiated = true)
    (notDone : w.isDone = false) : Coherent w where
  notRunning := by rw [state]; decide
  notStarted h := by rw [state] at h; cases h
  untracked none := by rw [isInitiated, none] at initiated; cases initiated
  suspended _ := ⟨initiated, notDone⟩
  completed h := by rw [state] at h; cases h
  cancelled h := by rw [state] at h; cases h

/-- A unit that ends with everything done is coherent. -/
theorem ofSettled {w : WorkUnit} (isDone : w.isDone = true) :
    Coherent (w.movedTo w.settledState) := by
  have initiated : w.isInitiated = true := (w.isDone_iff.mp isDone).1
  have untracked : w.tasks = none → w.groups = [] ∧ w.polls = {} := fun none => by
    rw [isInitiated, none] at initiated
    cases initiated
  unfold settledState
  split
  · next requested =>
    exact ⟨by simp, by simp, untracked, by simp, by simp, fun _ => ⟨requested, .inr isDone⟩⟩
  · next notRequested =>
    exact ⟨by simp, by simp, untracked, by simp,
      fun _ => ⟨isDone, Bool.eq_false_iff.mpr notRequested⟩, by simp⟩

/-- Each of the ways in which a call ends leaves a coherent unit. -/
theorem ofEnding {failure : Option OrchestrationError} {u found w v : WorkUnit}
    {answer : Except OrchestrationError Outcome}
    (untracked : u.tasks = none → u.groups = [] ∧ u.polls = {})
    (judged : Judged u failure found w) (ends : Ending w failure answer v) : Coherent v := by
  have stillUntracked : w.tasks = none → w.groups = [] ∧ w.polls = {} := fun noTasks => by
    have uninitiated : w.isInitiated = false := by rw [isInitiated, noTasks]; rfl
    have before : u.tasks = none := by
      cases known : u.tasks with
      | none => rfl
      | some tasks =>
        rw [judged.initiated (by rw [isInitiated, known]; rfl)] at uninitiated
        cases uninitiated
    rw [(judged.untouched uninitiated).1, (judged.untouched uninitiated).2]
    exact untracked before
  cases ends with
  | reported _ => exact ofFailed rfl stillUntracked
  | done _ isDone => exact ofSettled isDone
  | waiting _ notDone => exact ofSuspended rfl (judged.complete rfl).1 notDone
  | tolerated _ initiated _ => exact ofSuspended rfl initiated (judged.pending rfl)
  | surfaced _ initiated _ => exact ofSuspended rfl initiated (judged.pending rfl)
  | stopped _ => exact ofFailed rfl stillUntracked

/-- A call of the host leaves a coherent unit coherent. -/
theorem serve (h : Coherent u) (r : Remote σ) (q : Request) (s : σ) :
    Coherent (u.serve r q s).1.unit := by
  cases ended : u.state.isFinal with
  | true =>
    rw [serve_of_final r ended]
    exact h
  | false =>
    match q with
    | .run .skip => exact h
    | .run .execute =>
      obtain ⟨w, judged, ends, -⟩ :=
        serve_ending r ended (h.started_iff ended) (q := .run .execute) nofun (.inr nofun) s
      exact ofEnding h.untracked judged ends
    | .cancel =>
      cases initiated : u.isInitiated with
      | true =>
        obtain ⟨w, judged, ends, -⟩ :=
          serve_ending r ended (h.started_iff ended) (q := .cancel) nofun (.inl initiated) s
        exact ofEnding (u := u.asked .cancel) h.untracked judged ends
      | false =>
        rw [cancel_of_notStarted r initiated (h.notStarted_of_uninitiated ended initiated)]
        refine ⟨by simp, by simp, h.untracked, by simp, by simp, fun _ => ⟨rfl, .inl initiated⟩⟩

/-! ## Reloads -/

/-- A unit taken up from the record of a coherent one is that unit, but for the policy and for the
message of a failure. -/
theorem ofRecord_record (h : Coherent u) (policy : Policy) :
    ofRecord policy u.record = { u with policy, lifecycle := .ofState u.state } := by
  have state : resumedState u.record = u.state := by
    unfold resumedState
    refine if_neg fun ⟨notStarted, answered⟩ => ?_
    have noTasks : u.record.tasks = none := (h.notStarted notStarted).1
    rw [noTasks] at answered
    cases answered
  have groups : u.record.taskGroups.getD [] = u.groups := by
    show (u.tasks.map fun _ => u.groups).getD [] = _
    cases known : u.tasks with
    | none => rw [(h.untracked known).1]; rfl
    | some tasks => rfl
  unfold ofRecord
  rw [state, groups]
  rfl

/-- A coherent unit is taken up from its record in JSON as it is, but for the policy and for the
message of a failure. -/
theorem ofRecordJson_record (h : Coherent u) (policy : Policy) :
    ofRecordJson policy u.record.toJson = .ok { u with policy, lifecycle := .ofState u.state } := by
  rw [ofRecordJson_toJson, h.ofRecord_record policy]

/-- A reload leaves a coherent unit coherent. -/
theorem reload {v : WorkUnit} (h : Coherent u) {policy : Policy}
    (taken : ofRecordJson policy u.record.toJson = .ok v) : Coherent v := by
  rw [h.ofRecordJson_record policy] at taken
  obtain rfl := Except.ok.inj taken
  exact ⟨h.notRunning, h.notStarted, h.untracked, h.suspended, h.completed, h.cancelled⟩

end Coherent

/-- Every unit that calls and reloads make of a fresh one is coherent. -/
theorem Reachable.coherent {u : WorkUnit} (h : Reachable u) : Coherent u := by
  induction h with
  | fresh policy => exact .fresh policy
  | serve r q s _ ih => exact ih.serve r q s
  | reload policy _ taken ih => exact ih.reload taken

end WorkUnit

/-- The remote whose operation starts one task, and whose backend gives the same answer
about every task. -/
def Remote.saying (answer : Except OrchestrationError TaskReport) :
    Remote Unit where
  backend := {
    task := fun _ s => (answer, s)
    group := fun href s => (.ok { href }, s)
    members := fun _ s => (.ok [], s)
    cancel := fun _ s => (.ok (), s) }
  operation := {
    name := "import"
    invoke := fun s => (.ok (.single { href := "/tasks/1/", done := some false }), s) }

end TaskOrchestration
