import TaskOrchestration.Proofs.WorkUnit.Answers
import TaskOrchestration.Proofs.WorkUnit.Invocation
import TaskOrchestration.Proofs.WorkUnit.Journaling
import TaskOrchestration.Proofs.WorkUnit.Withheld

/-!
# Units taken up from any record

A record need not be one that a unit has written. Whatever it says, the unit that is taken up from
it answers every call in order, with one exception: a record of a suspended unit without tasks gives
a unit that is `Adrift`. Its lifecycle accepts nothing but a failure, so a call to cancel is
refused, and a run first invokes the operation and is refused then.
`History.usable_unless_adrift` says both, for the unit and for all that later calls and reloads make
of it.
-/

namespace TaskOrchestration.WorkUnit

variable {σ : Type}

/-- The unit is suspended without any tasks to wait for. -/
def Adrift (u : WorkUnit) : Prop := u.isInitiated = false ∧ u.state = .suspended

/-! ## Where units are adrift -/

/-- A unit is taken up adrift from a record that says so. -/
theorem adrift_ofRecord_iff (policy : Policy) (record : OutputRecord) :
    (ofRecord policy record).Adrift ↔ record.state = .suspended ∧ record.tasks = none := by
  have tasks : (ofRecord policy record).isInitiated = false ↔ record.tasks = none :=
    Option.isSome_eq_false_iff.trans Option.isNone_iff_eq_none
  unfold Adrift
  rw [tasks, and_comm]
  refine and_congr_left fun noTasks => ?_
  show resumedState record = .suspended ↔ _
  unfold resumedState
  rw [if_neg fun h => by rw [noTasks] at h; cases h.2]

/-- A unit that is called is adrift afterwards only if it was before. -/
theorem Adrift.of_serve {r : Remote σ} {q : Request} {u : WorkUnit} {s : σ}
    (h : (u.serve r q s).1.unit.Adrift) : u.Adrift := by
  obtain ⟨uninitiated, suspended⟩ := h
  cases initiated : u.isInitiated with
  | true =>
    rw [serve_isInitiated r initiated q s] at uninitiated
    cases uninitiated
  | false =>
    cases ended : u.state.isFinal with
    | true =>
      rw [serve_of_final r ended] at suspended
      exact ⟨initiated, suspended⟩
    | false =>
      match q with
      | .run .skip => exact ⟨initiated, suspended⟩
      | .run .execute =>
        rcases run_spent r u s with answered | finished
        · rw [answered] at uninitiated
          cases uninitiated
        · rw [suspended] at finished
          cases finished
      | .cancel =>
        refine ⟨initiated, Classical.byContradiction fun unsuspended => ?_⟩
        rw [cancel_of_unsuspended r ended initiated unsuspended] at suspended
        cases suspended

namespace History

variable {policy : Policy} {record : OutputRecord} {past : List (Request × Turn)} {u : WorkUnit}

/-- A unit is adrift only if it was taken up so at first. -/
theorem of_adrift (h : History (ofRecord policy record) past u) (adrift : u.Adrift) :
    (ofRecord policy record).Adrift := by
  -- Read backwards: a call or a reload that leaves a unit adrift has found it so.
  refine h.keeps (P := fun v => v.Adrift → (ofRecord policy record).Adrift) ?_ ?_ id adrift
  · exact fun r q s v before after => before (.of_serve after)
  · intro policy' v before after
    obtain ⟨suspended, noTasks⟩ := (adrift_ofRecord_iff policy' v.record).mp after
    exact before ⟨congrArg Option.isSome noTasks, suspended⟩

theorem arises (h : History (ofRecord policy record) past u) : Arises u := by
  induction h with
  | start => exact .ofRecord policy record
  | call r q s _ ih => exact .serve r.journaled q { state := s } ih
  | reload policy' _ reloaded =>
    rw [eq_ofRecord_of_reload reloaded]
    exact .ofRecord policy' _

/-- A unit that is taken up from any record is usable unless it is adrift. -/
theorem usable (h : History (ofRecord policy record) past u) (anchored : ¬ u.Adrift) :
    u.Usable where
  started := h.arises.started
  unsuspended uninitiated suspended := anchored ⟨uninitiated, suspended⟩

end History

/-! ## Calls -/

/-- How a run ends that starts the work: the error of the operation, the answer, and the unit that
is left. -/
inductive StartEnds :
    Option OrchestrationError → Except OrchestrationError Outcome → WorkUnit → Prop
  /-- The operation has not answered, and the unit has failed with its error. -/
  | stopped {e : OrchestrationError} {v : WorkUnit} (state : v.state = .failed) :
    StartEnds (some e) (.error e) v
  /-- A task of the answer has an error, or a group that the record held, and the unit has failed
  with it. -/
  | reported {v : WorkUnit} {href message : String}
    (found : v.watchlist.reportedError? = some (href, message)) (state : v.state = .failed) :
    StartEnds none (.error (.remoteOperation href (v.policy.wording.apply message))) v
  /-- There is nothing to wait for, and the unit has ended. -/
  | done {v : WorkUnit} (clean : v.watchlist.reportedError? = none) (isDone : v.isDone = true)
    (state : v.state = v.settledState) : StartEnds none (.ok .done) v
  /-- There is something to wait for, and the unit waits. -/
  | waiting {v : WorkUnit} (clean : v.watchlist.reportedError? = none) (notDone : v.isDone = false)
    (state : v.state = .suspended) :
    StartEnds none (.ok (.suspend (v.policy.schedule.delayAfter v.polls.total))) v

/-- Of the ways in which a call ends, two are for polls alone. -/
theorem Ending.startEnds {u found w v : WorkUnit} {failure : Option OrchestrationError}
    {answer : Except OrchestrationError Outcome} (uninitiated : u.isInitiated = false)
    (judged : Judged u failure found w) (ends : Ending w failure answer v) :
    StartEnds failure answer v := by
  cases ends with
  | reported found => exact .reported (v := w.stoppedBy _) found rfl
  | done clean isDone => exact .done (v := w.movedTo w.settledState) clean isDone rfl
  | waiting clean notDone => exact .waiting (v := w.movedTo .suspended) clean notDone rfl
  | stopped => exact .stopped rfl
  | tolerated _ initiated | surfaced _ initiated =>
    rw [judged.unchanged rfl, uninitiated] at initiated
    cases initiated

/-- The lifecycle of a suspended unit accepts no event by which a review without errors ends. -/
theorem conclude_of_suspended {u : WorkUnit} (h : u.state = .suspended) :
    ∃ event, u.conclude.result = .error (.invalidTransition "suspended" event) := by
  have name : u.state.name = "suspended" := by rw [h]; rfl
  unfold conclude
  split
  · have refused : u.state.target?
        (if u.cancelRequested then Lifecycle.Event.cancel else .complete).kind = none := by
      rw [h]
      split <;> rfl
    rw [advance_of_refused refused, name]
    exact ⟨_, rfl⟩
  · have refused : u.state.target? Lifecycle.Event.suspend.kind = none := by rw [h]; rfl
    unfold suspend
    rw [advance_of_refused refused, name]
    exact ⟨_, rfl⟩

namespace Adrift

variable {u : WorkUnit}

theorem isOpen (h : u.Adrift) : u.state.isFinal = false := by
  rw [h.2]
  rfl

/-- A unit that is adrift cannot be cancelled. -/
theorem cancel_refused (h : u.Adrift) (r : Remote σ) (s : σ) :
    (u.serve r .cancel s).1.result = .error (.invalidTransition "suspended" "cancel") := by
  have refused : ({ u with cancelRequested := true } : WorkUnit).state.target?
      Lifecycle.Event.cancel.kind = none := by
    show u.state.target? _ = none
    rw [h.2]
    rfl
  have name : ({ u with cancelRequested := true } : WorkUnit).state.name = "suspended" :=
    congrArg Lifecycle.State.name h.2
  rw [serve, cancel_of_uninitiated r h.isOpen s h.1, advance_of_refused refused, name]
  rfl

/-- A unit that is adrift cannot go on with the answer of its operation. -/
theorem run_refused (h : u.Adrift) {r : Remote σ} {s : σ}
    (answered : u.interruption r (.run .execute) s = none)
    (clean : (u.gathered r (.run .execute) s).1.watchlist.reportedError? = none) :
    ∃ event, (u.serve r (.run .execute) s).1.result =
      .error (.invalidTransition "suspended" event) := by
  obtain ⟨response, s', invoked, gathered⟩ := exists_response_of_answered h.1 answered
  let v : WorkUnit := { u with tasks := some response.tasks }
  obtain ⟨event, refused⟩ := conclude_of_suspended (u := v.discover) h.2
  have silent : v.discover.watchlist.reportedError? = none := by rwa [gathered] at clean
  have started : u.state ≠ .notStarted := by rw [h.2]; decide
  rw [serve, run_of_uninitiated r h.isOpen s h.1, start_of_started r started]
  unfold launch
  rw [invoked]
  refine ⟨event, ?_⟩
  show (v.review r.operation.name).result = _
  unfold review scan
  rw [silent]
  exact refused

end Adrift

/-- For a unit taken up from any record, and all that calls and reloads make of it until it ends:
only a record of a suspended unit without tasks leads to a unit that is adrift. If it is not,
then a transition that is refused is reported of a call only if the remote has answered so; and as
long as there are no tasks, a call to cancel asks nothing and ends the unit cancelled, and a run
invokes the operation, asks nothing else, ends in one of the ways of a start and tracks what was
answered. If it is adrift, then a call to cancel is refused, and so is a run after its operation has
answered with no error to be found. -/
theorem History.usable_unless_adrift {policy : Policy} {record : OutputRecord}
    {past : List (Request × Turn)} {u : WorkUnit} (h : History (ofRecord policy record) past u)
    (isOpen : u.state.isFinal = false) (r : Remote σ) (s : σ) :
    let cancelled := u.attend r .cancel s
    let ran := u.attend r (.run .execute) s
    (u.Adrift → record.state = .suspended ∧ record.tasks = none) ∧
    (¬ u.Adrift →
      (∀ q origin event, (u.attend r q s).1.answer = .error (.invalidTransition origin event) →
        u.interruption r q s = some (.invalidTransition origin event) ∧
          r.Raises (.invalidTransition origin event)) ∧
      (u.tasks = none →
        (cancelled.1.answer = .ok .done ∧ cancelled.1.contacts = [] ∧
          cancelled.2.1.state = .cancelled) ∧
        ran.1.contacts = [.invocation] ∧
          StartEnds (u.interruption r (.run .execute) s) ran.1.answer ran.2.1 ∧
          ran.2.1.tasks = (u.gathered r (.run .execute) s).1.tasks ∧
          ran.2.1.groups = (u.gathered r (.run .execute) s).1.groups)) ∧
    (u.Adrift →
      cancelled.1.answer = .error (.invalidTransition "suspended" "cancel") ∧
      (u.interruption r (.run .execute) s = none →
        (u.gathered r (.run .execute) s).1.watchlist.reportedError? = none →
        ran.1.contacts = [.invocation] ∧
          ∃ event, ran.1.answer = .error (.invalidTransition "suspended" event))) := by
  intro cancelled ran
  refine ⟨fun adrift => ?_, fun anchored => ⟨?_, fun noTasks => ⟨?_, ?_, ?_, ?_⟩⟩,
    fun adrift => ⟨?_, ?_⟩⟩
  · exact (adrift_ofRecord_iff policy record).mp (h.of_adrift adrift)
  · intro q origin event refused
    have fits := ((h.usable anchored).answer_fits isOpen r q s).1
    rw [attend_answer] at refused
    rcases fits.origin _ refused with raised | ⟨_, _, -, reported⟩
    · exact raised
    · cases reported
  · have uninitiated : u.isInitiated = false := congrArg Option.isSome noTasks
    have unsuspended := (h.usable anchored).unsuspended uninitiated
    have idle : ¬ u.Asks .cancel := fun asks => nomatch asks.eq_run uninitiated
    refine ⟨?_, contacts_of_idle r idle s, ?_⟩
    · rw [attend_answer, cancel_of_unsuspended r isOpen uninitiated unsuspended]
    · rw [attend_unit, cancel_of_unsuspended r isOpen uninitiated unsuspended]
      rfl
  · exact contacts_of_start r isOpen (congrArg Option.isSome noTasks) s
  · obtain ⟨w, judged, ends, -⟩ :=
      (h.usable anchored).serve_ending r isOpen (q := .run .execute) nofun (.inr nofun) s
    rw [attend_answer, attend_unit]
    exact ends.startEnds (congrArg Option.isSome noTasks) judged
  · have kept := (serve_gathers r (asks_of_run isOpen) s).1
    rw [attend_unit]
    exact ⟨kept.tasks, kept.groups⟩
  · rw [attend_answer]
    exact adrift.cancel_refused r s
  · intro answered clean
    refine ⟨contacts_of_start r isOpen adrift.1 s, ?_⟩
    rw [attend_answer]
    exact adrift.run_refused answered clean

/-- A record of a unit at work without tasks: the unit is cancelled without a word to the remote, or
starts the work. -/
theorem usable_record_at_work :
    let record : OutputRecord := { state := .running, taskGroups := some [.ofHref "/groups/1/"] }
    let r := Remote.saying (.ok { href := "/tasks/1/" })
    let u := ofRecord {} record
    History (ofRecord {} record) [] u ∧ u.state.isFinal = false ∧
      ((u.attend r .cancel ()).1.answer = .ok .done ∧ (u.attend r .cancel ()).1.contacts = []) ∧
      (u.attend r (.run .execute) ()).1.contacts = [.invocation] ∧
      StartEnds (u.interruption r (.run .execute) ()) (u.attend r (.run .execute) ()).1.answer
        (u.attend r (.run .execute) ()).2.1 := by
  intro record r u
  have history : History (ofRecord {} record) [] u := .start
  have isOpen : u.state.isFinal = false := rfl
  have anchored : ¬ u.Adrift := fun adrift => nomatch adrift.2
  have calls := (history.usable_unless_adrift isOpen r ()).2.1 anchored
  obtain ⟨⟨answer, contacts, -⟩, invoked, ends, -⟩ := calls.2 rfl
  exact ⟨history, isOpen, ⟨answer, contacts⟩, invoked, ends⟩

/-- A record of a suspended unit without tasks: the unit cannot be cancelled, and its run starts the
work and is refused. -/
theorem suspended_record_refused :
    let r := Remote.saying (.ok { href := "/tasks/1/" })
    let u := ofRecord {} { state := .suspended }
    (u.attend r .cancel ()).1.answer = .error (.invalidTransition "suspended" "cancel") ∧
      (u.attend r (.run .execute) ()).1.contacts = [.invocation] ∧
      (u.attend r (.run .execute) ()).1.answer =
        .error (.invalidTransition "suspended" "suspend") :=
  ⟨rfl, rfl, rfl⟩

end TaskOrchestration.WorkUnit
