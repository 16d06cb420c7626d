import TaskOrchestration.Proofs.WorkUnit.Endings

/-!
# Errors that are reported and held back

A poll looks for errors that tasks and groups report only if all of its lookups succeed. A lookup
that ends in a transport error therefore hides what the lookups before it have brought in: the host
is told to wait, or is given the transport error, while a tracked task is known to have failed.
`Arises.withheld_iff` says that this is the one case in which an error is held back.
-/

namespace TaskOrchestration

/-- Some task or group is known to have an error. -/
def Watchlist.Reports (v : Watchlist) : Prop :=
  (∃ t ∈ v.tasks, t.errorMessage?.isSome = true) ∨ ∃ g ∈ v.groups, g.errorMessage?.isSome = true

namespace WorkUnit

variable {σ : Type}

/-- There is an error for the scan to find exactly when some task or group has one. -/
theorem reports_iff (u : WorkUnit) :
    u.watchlist.Reports ↔ u.watchlist.reportedError? ≠ none := by
  rw [Ne, reportedError?_eq_none_iff]
  constructor
  · rintro (⟨t, ht, failed⟩ | ⟨g, hg, failed⟩) ⟨tasks, groups⟩
    · rw [tasks t ht] at failed
      cases failed
    · rw [groups g hg] at failed
      cases failed
  · intro h
    refine Classical.byContradiction fun clean => h ⟨fun t ht => ?_, fun g hg => ?_⟩
    · exact Option.not_isSome_iff_eq_none.mp fun failed => clean (.inl ⟨t, ht, failed⟩)
    · exact Option.not_isSome_iff_eq_none.mp fun failed => clean (.inr ⟨g, hg, failed⟩)

/-! ## A unit that was started stays so -/

theorem target?_ne_notStarted (s : Lifecycle.State) (k : Lifecycle.EventKind) :
    s.target? k ≠ some .notStarted := by
  cases s <;> cases k <;> decide

/-- No event leads back to the start. -/
theorem advance_started {u : WorkUnit} (h : u.state ≠ .notStarted) (event : Lifecycle.Event) :
    (u.advance event).unit.state ≠ .notStarted := by
  cases target : u.state.target? event.kind with
  | some t =>
    rw [advance_of_target target]
    exact fun (eq : t = .notStarted) => target?_ne_notStarted _ _ (eq ▸ target)
  | none =>
    rw [advance_of_refused target]
    exact h

/-- A chain of two phases stays away from the start if both do. -/
theorem andThen_started {α β : Type} {p : Phase α} {next : α → WorkUnit → Phase β}
    (first : p.unit.state ≠ .notStarted)
    (second : ∀ a u, u.state ≠ .notStarted → (next a u).unit.state ≠ .notStarted) :
    (p.andThen next).unit.state ≠ .notStarted := by
  unfold Phase.andThen
  split
  · exact second _ _ first
  · exact first

theorem fail_started {α : Type} {u : WorkUnit} (h : u.state ≠ .notStarted) (name : String)
    (e : OrchestrationError) : (u.fail (α := α) name e).unit.state ≠ .notStarted :=
  advance_started h _

/-- A review does not lead back to the start, whatever state it finds. -/
theorem review_started {u : WorkUnit} (h : u.state ≠ .notStarted) (name : String) :
    (u.review name).unit.state ≠ .notStarted := by
  have suspended (v : WorkUnit) (hv : v.state ≠ .notStarted) :
      v.suspend.unit.state ≠ .notStarted :=
    andThen_started (advance_started hv _) fun _ _ started => started
  refine andThen_started ?_ fun _ v hv => ?_
  · unfold scan
    split
    · exact fail_started (u := u.discover) h _ _
    · exact h
  · unfold conclude
    split
    · exact andThen_started (advance_started hv _) fun _ _ started => started
    · exact suspended v hv

/-- An invocation does not lead back to the start. -/
theorem launch_started (r : Remote σ) {u : WorkUnit} (h : u.state ≠ .notStarted) (s : σ) :
    (u.launch r s).1.unit.state ≠ .notStarted := by
  unfold launch
  rcases r.operation.invoke s with ⟨e | response, s'⟩
  · exact fail_started h _ _
  · exact review_started (u := { u with tasks := some response.tasks }) h _

/-- A start does not lead back to where it came from. -/
theorem start_started (r : Remote σ) (u : WorkUnit) (s : σ) :
    (u.start r s).1.unit.state ≠ .notStarted := by
  by_cases notStarted : u.state = .notStarted
  · rw [start_of_notStarted r notStarted]
    exact launch_started r (by simp) s
  · rw [start_of_started r notStarted]
    exact launch_started r notStarted s

/-- A request to cancel a unit that has not answered does not lead to the start. -/
theorem cancel_started (r : Remote σ) {u : WorkUnit} (isOpen : u.state.isFinal = false)
    (uninitiated : u.isInitiated = false) (s : σ) :
    (u.cancel r s).1.unit.state ≠ .notStarted := by
  by_cases notStarted : u.state = .notStarted
  · have ended := cancel_of_notStarted r uninitiated notStarted s
    rw [serve] at ended
    rw [ended]
    simp
  · have started : ({ u with cancelRequested := true } : WorkUnit).state ≠ .notStarted := notStarted
    rw [cancel_of_uninitiated r isOpen s uninitiated]
    exact andThen_started (advance_started started _) fun _ _ h => h

/-- None of the ways in which a call ends leads back to the start. -/
theorem Ending.started {w v : WorkUnit} {failure : Option OrchestrationError}
    {answer : Except OrchestrationError Outcome} (ends : Ending w failure answer v) :
    v.state ≠ .notStarted := by
  cases ends with
  | reported | waiting | tolerated | surfaced | stopped => simp
  | done =>
    rw [movedTo_state]
    unfold settledState
    split <;> decide

/-- A unit whose operation has answered is not at the start, also if it was taken up from a record
of any content. -/
theorem Arises.started {u : WorkUnit} (h : Arises u) (initiated : u.isInitiated = true) :
    u.state ≠ .notStarted := by
  induction h with
  | fresh policy => cases initiated
  | ofRecord policy record =>
    show resumedState record ≠ .notStarted
    unfold resumedState
    split
    · decide
    · next kept => exact fun notStarted => kept ⟨notStarted, initiated⟩
  | @serve u _ r q s _ ih =>
    match ended : u.state.isFinal, before : u.isInitiated, q with
    | true, _, q =>
      rw [serve_of_final r ended] at initiated ⊢
      exact ih initiated
    | false, true, .run .skip => exact ih before
    | false, true, .run .execute =>
      obtain ⟨w, -, ends, -⟩ := serve_of_awaiting r before
        (awaitsBackend_of_started ended (ih before)) (q := .run .execute) nofun s
      exact ends.started
    | false, true, .cancel =>
      obtain ⟨w, -, ends, -⟩ := serve_of_awaiting r before
        (awaitsBackend_of_started ended (ih before)) (q := .cancel) nofun s
      exact ends.started
    | false, false, .run .skip => exact ih initiated
    | false, false, .run .execute =>
      rw [WorkUnit.serve, run_of_uninitiated r ended s before]
      exact start_started r u s
    | false, false, .cancel => exact cancel_started r ended before s

/-! ## What is held back -/

/-- The call hands control back as if no task or group had an error: with the word that all is done
or that the host is to wait, or with an error for which there is another attempt, while the unit
waits for it. -/
def HandsBack (p : Phase Outcome) : Prop :=
  p.result = .ok .done ∨ (∃ delay, p.result = .ok (.suspend delay)) ∨
    ∃ e, p.result = .error e ∧ e.isRetryable = true ∧ p.unit.state = .suspended

/-- An error that ends the unit is not handed back as if nothing had happened. -/
theorem not_handsBack_of_failed {p : Phase Outcome} {e : OrchestrationError}
    (answer : p.result = .error e) (state : p.unit.state = .failed) : ¬ HandsBack p := by
  unfold HandsBack
  rw [answer, state]
  rintro (h | ⟨_, h⟩ | ⟨_, _, _, h⟩) <;> cases h

/-- A call on a unit with a transport error hands back what the lookups have found. -/
theorem handsBack_of_retryable {p : Phase Outcome} {found : WorkUnit} {e : OrchestrationError}
    (retryable : e.isRetryable = true) (back : HandsBack p) (state : p.unit.state = .suspended)
    (asFound : p.unit.watchlist = found.watchlist) :
    (HandsBack p ∧ p.unit.watchlist.Reports ↔
      (∃ e', some e = some e' ∧ e'.isRetryable = true) ∧ found.watchlist.Reports) ∧
    (p.unit.watchlist.Reports →
      (p.unit.state = .failed ↔ ¬ ∃ e', some e = some e' ∧ e'.isRetryable = true)) := by
  have interrupted : ∃ e', some e = some e' ∧ e'.isRetryable = true := ⟨e, rfl, retryable⟩
  rw [asFound, state]
  refine ⟨⟨fun h => ⟨interrupted, h.2⟩, fun h => ⟨back, h.2⟩⟩, fun _ => ?_⟩
  exact ⟨nofun, fun final => absurd interrupted final⟩

/-- Whichever way a call ends, it holds an error back exactly if a transport error interrupted it,
and otherwise an error that it finds ends the unit. -/
theorem Ending.handsBack_iff {u found w : WorkUnit} {failure : Option OrchestrationError}
    {p : Phase Outcome} (initiated : u.isInitiated = true) (judged : Judged u failure found w)
    (ends : Ending w failure p.result p.unit) :
    (HandsBack p ∧ p.unit.watchlist.Reports ↔
      (∃ e, failure = some e ∧ e.isRetryable = true) ∧ found.watchlist.Reports) ∧
    (p.unit.watchlist.Reports →
      (p.unit.state = .failed ↔ ¬ ∃ e, failure = some e ∧ e.isRetryable = true)) := by
  have silent (clean : w.watchlist.reportedError? = none) : ¬ w.watchlist.Reports :=
    fun reports => w.reports_iff.mp reports clean
  generalize answer : p.result = result at ends
  generalize unit : p.unit = after at ends
  cases ends with
  | reported =>
    have notBack := not_handsBack_of_failed answer (by rw [unit, stoppedBy_state])
    exact ⟨⟨fun h => absurd h.1 notBack, nofun⟩, fun _ => ⟨fun _ => nofun, fun _ => rfl⟩⟩
  | done clean =>
    rw [movedTo_watchlist]
    exact ⟨⟨fun h => absurd h.2 (silent clean), nofun⟩, fun h => absurd h (silent clean)⟩
  | waiting clean =>
    rw [movedTo_watchlist]
    exact ⟨⟨fun h => absurd h.2 (silent clean), nofun⟩, fun h => absurd h (silent clean)⟩
  | tolerated retryable =>
    rw [← unit]
    refine handsBack_of_retryable retryable (.inr (.inl ⟨_, answer⟩)) ?_ ?_
    · rw [unit, movedTo_state]
    · rw [unit, movedTo_watchlist, judged.asFound rfl initiated]
  | surfaced retryable =>
    have state : p.unit.state = .suspended := by rw [unit, movedTo_state]
    rw [← unit]
    refine handsBack_of_retryable retryable (.inr (.inr ⟨_, answer, retryable, state⟩)) state ?_
    rw [unit, movedTo_watchlist, judged.asFound rfl initiated]
  | @stopped e fatal =>
    have notBack := not_handsBack_of_failed answer (by rw [unit, stoppedBy_state])
    have final : ¬ ∃ e', some e = some e' ∧ e'.isRetryable = true := by
      rintro ⟨e', same, retryable⟩
      obtain rfl := Option.some.inj same
      rw [fatal (by rw [judged.unchanged rfl, initiated])] at retryable
      cases retryable
    refine ⟨⟨fun h => absurd h.1 notBack, fun h => absurd h.1 final⟩, fun _ => ?_⟩
    exact ⟨fun _ => final, fun _ => rfl⟩

/-- For every unit that calls make of a fresh one or of one taken up from any record: a run or a
cancellation of initiated work hands control back while a tracked task or group has an error exactly
if its lookups ended in a transport error and had found such a task or group, or knew of one. If the
lookups ended in any other way, a unit that has such a task or group has failed. -/
theorem Arises.withheld_iff {u : WorkUnit} (h : Arises u) (initiated : u.isInitiated = true)
    (isOpen : u.state.isFinal = false) (r : Remote σ) (q : Request) (asks : q ≠ .run .skip)
    (s : σ) :
    (HandsBack (u.serve r q s).1 ∧ (u.serve r q s).1.unit.watchlist.Reports ↔
      (∃ e, (u.lookups r q s).2.1 = some e ∧ e.isRetryable = true) ∧
        (u.lookups r q s).1.watchlist.Reports) ∧
    ((u.serve r q s).1.unit.watchlist.Reports →
      ((u.serve r q s).1.unit.state = .failed ↔
        ¬ ∃ e, (u.lookups r q s).2.1 = some e ∧ e.isRetryable = true)) := by
  have awaiting := awaitsBackend_of_started isOpen (h.started initiated)
  obtain ⟨w, judged, ends, -⟩ := serve_of_awaiting r initiated awaiting asks s
  have interrupted : u.interruption r q s = (u.lookups r q s).2.1 := if_pos initiated
  rw [interrupted] at judged ends
  have before : (u.asked q).isInitiated = true := by
    cases q <;> exact initiated
  exact ends.handsBack_iff before judged

/-- The remote whose operation starts two tasks, of which the first is found failed and the second
cannot be looked up. -/
def halfSilentRemote : Remote Unit where
  backend := {
    task := fun href s =>
      if href = "t1" then
        (.ok { href, state := some TaskState.failed, error := some (.message "disk full") }, s)
      else (.error (.transport "get_task" href "connection refused"), s)
    group := fun href s => (.ok { href }, s)
    members := fun _ s => (.ok [], s)
    cancel := fun _ s => (.ok (), s) }
  operation := {
    name := "sync"
    invoke := fun s => (.ok (.many [{ href := "t1" }, { href := "t2" }]), s) }

/-- The second run with that remote knows of the failure and asks the host to wait. -/
theorem withheld_second_run :
    let u := (({} : WorkUnit).serve halfSilentRemote (.run .execute) ()).1.unit
    let p := (u.serve halfSilentRemote (.run .execute) ()).1
    Arises u ∧ u.isInitiated = true ∧ u.state.isFinal = false ∧
      HandsBack p ∧ p.unit.watchlist.Reports := by
  intro u p
  have arises : Arises u := .serve halfSilentRemote (.run .execute) () (.fresh {})
  have initiated : u.isInitiated = true := by decide +kernel
  have isOpen : u.state.isFinal = false := by decide +kernel
  have interrupted : (u.lookups halfSilentRemote (.run .execute) ()).2.1 =
      some (.transport "get_task" "t2" "connection refused") := by decide +kernel
  have reports : (u.lookups halfSilentRemote (.run .execute) ()).1.watchlist.Reports := by
    rw [reports_iff]
    decide +kernel
  have back := arises.withheld_iff initiated isOpen halfSilentRemote (.run .execute) nofun ()
  exact ⟨arises, initiated, isOpen, back.1.mpr ⟨⟨_, interrupted, rfl⟩, reports⟩⟩

/-- An error is held back: the first task is tracked as failed, and the answer is to wait. -/
theorem failure_held_back :
    let u := (({} : WorkUnit).serve halfSilentRemote (.run .execute) ()).1.unit
    let p := (u.serve halfSilentRemote (.run .execute) ()).1
    u.isInitiated = true ∧ u.state = .suspended ∧ p.result.toOption = some (.suspend 500) ∧
      p.unit.state = .suspended ∧
      p.unit.watchlist.reportedError? = some ("t1", "disk full") := by
  decide +kernel

end WorkUnit

end TaskOrchestration
