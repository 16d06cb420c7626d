import TaskOrchestration.Proofs.WorkUnit.Endings

/-!
# What is tracked after a call

The phases that judge a unit move it to another state and change nothing else of it
(`Phase.Moves`), in particular nothing of its tasks and groups. So the tasks and groups after a call
that asks something of the remote are those that `gathered` gives, and the remote is left as the
lookups or the invocation have left it (`serve_gathers`), whatever state the unit was found in and
however the call ends. Any other call leaves all that as it is (`serve_of_idle`). What is gathered
without interruption comes from the answer of the operation, or from lookups that all succeed
(`exists_response_of_answered`, `exists_found_of_answered`).
-/

namespace TaskOrchestration

variable {σ : Type}

/-- The phase changes nothing of a unit but its lifecycle. -/
def Phase.Moves {α : Type} (p : Phase α) (u : WorkUnit) : Prop :=
  ∃ lifecycle, p.unit = { u with lifecycle }

/-- A chain of phases changes nothing but the lifecycle if its links do not. -/
theorem Phase.Moves.andThen {α β : Type} {p : Phase α} {next : α → WorkUnit → Phase β}
    {u : WorkUnit} (first : p.Moves u) (links : ∀ a v, (next a v).Moves v) :
    (p.andThen next).Moves u := by
  obtain ⟨lifecycle, moved⟩ := first
  unfold Phase.andThen
  split
  · next a _ =>
    obtain ⟨lifecycle', link⟩ := links a p.unit
    exact ⟨lifecycle', by rw [link, moved]⟩
  · exact ⟨lifecycle, moved⟩

/-- The phase leaves the tasks and groups of a unit as they are. -/
structure Phase.Keeps {α : Type} (p : Phase α) (u : WorkUnit) : Prop where
  tasks : p.unit.tasks = u.tasks
  groups : p.unit.groups = u.groups

theorem Phase.Moves.keeps {α : Type} {p : Phase α} {u : WorkUnit} (h : p.Moves u) : p.Keeps u := by
  obtain ⟨lifecycle, moved⟩ := h
  exact ⟨by rw [moved], by rw [moved]⟩

namespace WorkUnit

/-! ## Phases -/

theorem advance_moves (event : Lifecycle.Event) (u : WorkUnit) : (u.advance event).Moves u := by
  unfold advance
  split <;> exact ⟨_, rfl⟩

theorem fail_moves {α : Type} (name : String) (e : OrchestrationError) (u : WorkUnit) :
    (u.fail (α := α) name e).Moves u :=
  advance_moves _ u

theorem suspend_moves (u : WorkUnit) : u.suspend.Moves u :=
  (advance_moves _ u).andThen fun _ _ => ⟨_, rfl⟩

theorem conclude_moves (u : WorkUnit) : u.conclude.Moves u := by
  unfold conclude
  split
  · exact (advance_moves _ u).andThen fun _ _ => ⟨_, rfl⟩
  · exact suspend_moves u

theorem scan_moves (name : String) (u : WorkUnit) : (u.scan name).Moves u := by
  unfold scan
  split
  · exact fail_moves name _ u
  · exact ⟨_, rfl⟩

/-- A review adds the groups that are discovered, and nothing else. -/
theorem review_moves (name : String) (u : WorkUnit) : (u.review name).Moves u.discover :=
  (scan_moves name u.discover).andThen fun _ v => conclude_moves v

/-- An error that ended the lookups is counted if another attempt may succeed. -/
theorem takeFailure_moves (name : String) (e : OrchestrationError) (u : WorkUnit) :
    (u.takeFailure name e).Moves (u.countedFailure e) := by
  unfold takeFailure countedFailure
  split
  · dsimp only
    split
    · exact suspend_moves _
    · exact (advance_moves _ _).andThen fun _ _ => ⟨_, rfl⟩
  · exact fail_moves name e u

/-! ## Calls -/

/-- A poll leaves what the lookups bring in for a unit that tracks the same. -/
theorem poll_gathers (r : Remote σ) {u v : WorkUnit} (tasks : v.tasks = u.tasks)
    (groups : v.groups = u.groups) (s : σ) :
    (v.poll r s).1.Keeps (broughtIn (u.refresh r.backend s)).1 ∧
      (v.poll r s).2 = (broughtIn (u.refresh r.backend s)).2 := by
  have refreshed := refresh_of_tracked r.backend
    (v := { v.awake with polls := v.awake.polls.countPoll })
    (v.awake_tasks.trans tasks) (v.awake_groups.trans groups) s
  rw [poll_eq, refreshed]
  rcases u.refresh r.backend s with ⟨found, _ | e, s'⟩
  · have kept := (review_moves r.operation.name { v.awake with
      tasks := found.tasks, groups := found.groups
      polls := v.awake.polls.countPoll.countSuccess }).keeps
    exact ⟨⟨kept.tasks, kept.groups⟩, rfl⟩
  · have kept := (takeFailure_moves r.operation.name e { v.awake with
      tasks := found.tasks, groups := found.groups, polls := v.awake.polls.countPoll }).keeps
    exact ⟨⟨kept.tasks, kept.groups⟩, rfl⟩

/-- An invocation leaves the tasks of the operation's answer and the groups that they reveal. -/
theorem launch_gathers (r : Remote σ) {u v : WorkUnit} (tasks : v.tasks = u.tasks)
    (groups : v.groups = u.groups) (uninitiated : u.isInitiated = false) (q : Request) (s : σ) :
    (v.launch r s).1.Keeps (u.gathered r q s).1 ∧ (v.launch r s).2 = (u.gathered r q s).2 := by
  unfold gathered launch
  rw [if_neg (by rw [uninitiated]; decide)]
  rcases r.operation.invoke s with ⟨e | response, s'⟩
  · have kept := (fail_moves (α := Outcome) r.operation.name e v).keeps
    exact ⟨⟨kept.tasks.trans tasks, kept.groups.trans groups⟩, rfl⟩
  · have kept := (review_moves r.operation.name { v with tasks := some response.tasks }).keeps
    refine ⟨⟨kept.tasks, kept.groups.trans ?_⟩, rfl⟩
    unfold discover
    dsimp only
    rw [groups]
    rfl

/-- The call asks something of the remote: it is not skipped, the unit has not ended, and there is
work to cancel if that is what the call is for. -/
structure Asks (u : WorkUnit) (q : Request) : Prop where
  isOpen : u.state.isFinal = false
  notSkipped : q ≠ .run .skip
  tracked : u.isInitiated = true ∨ q ≠ .cancel

theorem asks_of_initiated {u : WorkUnit} (isOpen : u.state.isFinal = false)
    (initiated : u.isInitiated = true) {q : Request} (notSkipped : q ≠ .run .skip) : u.Asks q :=
  ⟨isOpen, notSkipped, .inl initiated⟩

theorem asks_of_run {u : WorkUnit} (isOpen : u.state.isFinal = false) : u.Asks (.run .execute) :=
  ⟨isOpen, nofun, .inr nofun⟩

/-- A unit whose operation has not answered asks something only in a run. -/
theorem Asks.eq_run {u : WorkUnit} {q : Request} (asks : u.Asks q)
    (uninitiated : u.isInitiated = false) : q = .run .execute := by
  have notCancel : q ≠ .cancel := asks.tracked.resolve_left (by rw [uninitiated]; decide)
  match q with
  | .run .execute => rfl
  | .run .skip => exact absurd rfl asks.notSkipped
  | .cancel => exact absurd rfl notCancel

/-- A call asks nothing of the remote if the unit has ended, if it is to be skipped, or if there is
no work to cancel. -/
theorem idle_cases {u : WorkUnit} {q : Request} (idle : ¬ u.Asks q) :
    u.state.isFinal = true ∨ q = .run .skip ∨
      (u.state.isFinal = false ∧ u.isInitiated = false ∧ q = .cancel) := by
  cases ended : u.state.isFinal with
  | true => exact .inl rfl
  | false =>
    match q with
    | .run .skip => exact .inr (.inl rfl)
    | .run .execute => exact absurd (asks_of_run ended) idle
    | .cancel =>
      have uninitiated : u.isInitiated = false := Bool.eq_false_iff.mpr fun initiated =>
        idle (asks_of_initiated ended initiated nofun)
      exact .inr (.inr ⟨rfl, uninitiated, rfl⟩)

/-- A call that asks nothing of the remote leaves it as it is, and the tasks and groups too. -/
theorem serve_of_idle (r : Remote σ) {u : WorkUnit} {q : Request} (idle : ¬ u.Asks q) (s : σ) :
    (u.serve r q s).1.Keeps u ∧ (u.serve r q s).2 = s := by
  rcases idle_cases idle with ended | rfl | ⟨isOpen, uninitiated, rfl⟩
  · rw [serve_of_final r ended]
    exact ⟨⟨rfl, rfl⟩, rfl⟩
  · exact ⟨⟨rfl, rfl⟩, rfl⟩
  · rw [serve, cancel_of_uninitiated r isOpen s uninitiated]
    have ended : (({ u with cancelRequested := true } : WorkUnit).advance .cancel
        |>.andThen fun _ u => ({ result := .ok .done, unit := u } : Phase Outcome)).Moves
          { u with cancelRequested := true } :=
      (advance_moves .cancel _).andThen fun _ _ => ⟨_, rfl⟩
    exact ⟨⟨ended.keeps.tasks, ended.keeps.groups⟩, rfl⟩

/-- A call that asks something of the remote leaves the tasks, the groups and the remote as it has
gathered them. -/
theorem serve_gathers (r : Remote σ) {u : WorkUnit} {q : Request} (asks : u.Asks q) (s : σ) :
    (u.serve r q s).1.Keeps (u.gathered r q s).1 ∧ (u.serve r q s).2 = (u.gathered r q s).2 := by
  have isOpen := asks.isOpen
  cases initiated : u.isInitiated with
  | true =>
    have looked : u.gathered r q s = broughtIn (u.lookups r q s) := if_pos initiated
    rw [looked]
    match q with
    | .run .skip => exact absurd rfl asks.notSkipped
    | .run .execute =>
      rw [serve, run_of_initiated r isOpen s initiated]
      exact poll_gathers r rfl rfl s
    | .cancel =>
      rw [serve, cancel_of_initiated r isOpen s initiated]
      -- The unit that is polled differs in a flag, which no lookup depends on.
      obtain ⟨kept, same⟩ := poll_gathers r (u := u) (v := { u with cancelRequested := true })
        rfl rfl (u.cancelTracked r.backend s)
      exact ⟨⟨kept.tasks, kept.groups⟩, same⟩
  | false =>
    obtain rfl := asks.eq_run initiated
    rw [serve, run_of_uninitiated r isOpen s initiated]
    by_cases notStarted : u.state = .notStarted
    · rw [start_of_notStarted r notStarted]
      exact launch_gathers r (u := u) (v := u.movedTo .running) rfl rfl initiated _ s
    · rw [start_of_started r notStarted]
      exact launch_gathers r rfl rfl initiated _ s

/-! ## What a call gathers -/

section Answered

variable {r : Remote σ} {u : WorkUnit} {q : Request} {s : σ}

/-- Without interruption the operation of a unit that is to start has answered with tasks. -/
theorem exists_response_of_answered (uninitiated : u.isInitiated = false)
    (answered : u.interruption r q s = none) :
    ∃ response s', r.operation.invoke s = (.ok response, s') ∧
      u.gathered r q s = ({ u with tasks := some response.tasks }.discover, s') := by
  unfold interruption at answered
  unfold gathered
  rw [if_neg (by rw [uninitiated]; decide)] at answered ⊢
  generalize r.operation.invoke s = outcome at answered ⊢
  obtain ⟨e | response, s'⟩ := outcome
  · cases answered
  · exact ⟨response, s', rfl, rfl⟩

/-- Lookups that all succeed interrupt nothing, and discovery follows them. -/
theorem gathered_of_found {found : WorkUnit} {s' : σ} (initiated : u.isInitiated = true)
    (looked : u.lookups r q s = (found, none, s')) :
    u.interruption r q s = none ∧ u.gathered r q s = (found.discover, s') := by
  unfold interruption gathered
  rw [if_pos initiated, if_pos initiated, looked]
  exact ⟨rfl, rfl⟩

/-- Without interruption all lookups for a unit that tracks tasks have succeeded. -/
theorem exists_found_of_answered (initiated : u.isInitiated = true)
    (answered : u.interruption r q s = none) :
    ∃ found s', u.lookups r q s = (found, none, s') ∧ u.gathered r q s = (found.discover, s') := by
  have succeeded : (u.lookups r q s).2.1 = none := (if_pos initiated).symm.trans answered
  rcases looked : u.lookups r q s with ⟨found, failure, s'⟩
  rw [looked] at succeeded
  obtain rfl : failure = none := succeeded
  exact ⟨found, s', rfl, (gathered_of_found initiated looked).2⟩

end Answered

/-- The remote is left as the lookups leave it. -/
theorem gathered_of_initiated (r : Remote σ) {u : WorkUnit} (initiated : u.isInitiated = true)
    (q : Request) (s : σ) :
    (u.gathered r q s).2 = (u.lookups r q s).2.2 := by
  unfold gathered
  rw [if_pos initiated]
  rcases u.lookups r q s with ⟨found, _ | e, s'⟩ <;> rfl

/-- The remote is left as the invocation leaves it. -/
theorem gathered_of_uninitiated (r : Remote σ) {u : WorkUnit} (uninitiated : u.isInitiated = false)
    (q : Request) (s : σ) :
    (u.gathered r q s).2 = (r.operation.invoke s).2 := by
  unfold gathered
  rw [if_neg (by rw [uninitiated]; decide)]
  rcases r.operation.invoke s with ⟨e | response, s'⟩ <;> rfl

/-- What lookups bring in is initiated if the unit is. -/
theorem gathered_isInitiated (r : Remote σ) {u : WorkUnit} (initiated : u.isInitiated = true)
    (q : Request) (s : σ) : (u.gathered r q s).1.isInitiated = true := by
  have looked : (u.lookups r q s).1.isInitiated = true := by
    cases q <;> exact (refresh_isInitiated r.backend u _).trans initiated
  unfold gathered
  rw [if_pos initiated]
  generalize u.lookups r q s = found at looked
  obtain ⟨v, _ | e, s'⟩ := found <;> exact looked

/-- Without interruption the operation has answered, in this call or before. -/
theorem gathered_isInitiated_of_answered {r : Remote σ} {u : WorkUnit} {q : Request} {s : σ}
    (answered : u.interruption r q s = none) : (u.gathered r q s).1.isInitiated = true := by
  cases initiated : u.isInitiated with
  | true => exact gathered_isInitiated r initiated q s
  | false =>
    obtain ⟨response, s', -, gathered⟩ := exists_response_of_answered initiated answered
    rw [gathered]
    rfl

/-- An operation that has answered once has answered for good. -/
theorem serve_isInitiated (r : Remote σ) {u : WorkUnit} (initiated : u.isInitiated = true)
    (q : Request) (s : σ) : (u.serve r q s).1.unit.isInitiated = true := by
  by_cases asks : u.Asks q
  · have kept := (serve_gathers r asks s).1.tasks
    exact (congrArg Option.isSome kept).trans (gathered_isInitiated r initiated q s)
  · have kept := (serve_of_idle r asks s).1.tasks
    exact (congrArg Option.isSome kept).trans initiated

end WorkUnit

end TaskOrchestration
