import TaskOrchestration.Proofs.WorkUnit.Counting
import TaskOrchestration.Proofs.WorkUnit.Discovery
import TaskOrchestration.Proofs.WorkUnit.PollCycle
import TaskOrchestration.Proofs.WorkUnit.Withheld

/-!
# How many transport errors are passed over

A transport error that ends a poll is passed over while fewer polls have been missed in a row than
the policy allows, and from then on it is reported. The counter is compared after it was raised, and
it cannot be raised past the greatest number of 32 bits (`saturatingSucc_le_iff`): under a policy
that allows that many no transport error is ever reported. `Arises.weathers` says what becomes of
the unit in either case, and that any other error stops it.
-/

namespace TaskOrchestration

/-- The greatest number of 32 bits, at which counting stops. -/
def countingLimit : UInt32 := UInt32.ofNat (UInt32.size - 1)

theorem countingLimit_toNat : countingLimit.toNat = UInt32.size - 1 := rfl

/-- One more is within the bound if the number itself is below it, and also where counting has
stopped and the bound is just there. -/
theorem saturatingSucc_le_iff (n bound : UInt32) :
    saturatingSucc n ≤ bound ↔ n < bound ∨ n = countingLimit ∧ bound = countingLimit := by
  have size : UInt32.size = 4294967296 := rfl
  have := n.toNat_lt
  have := bound.toNat_lt
  rw [UInt32.le_iff_toNat_le, toNat_saturatingSucc, UInt32.lt_iff_toNat_lt, ← UInt32.toNat_inj,
    ← UInt32.toNat_inj, countingLimit_toNat]
  omega

variable {σ : Type}

namespace WorkUnit

/-- The policy lets one more transport error pass. -/
def HasPatience (u : WorkUnit) : Prop :=
  u.polls.failed < u.policy.maxFailedPolls ∨
    u.polls.failed = countingLimit ∧ u.policy.maxFailedPolls = countingLimit

/-- What a transport error comes to for the unit whose poll it ends. -/
structure Weathers (u : WorkUnit) (e : OrchestrationError) (p : Phase Outcome) : Prop where
  suspended : p.unit.state = .suspended
  /-- No group is added. -/
  groupHrefs : p.unit.groupHrefs = u.groupHrefs
  failed : p.unit.polls.failed = saturatingSucc u.polls.failed
  /-- The error is passed over, and the host is told to wait. -/
  tolerated : (∃ delay, p.result = .ok (.suspend delay)) ↔ u.HasPatience
  /-- The error is reported as it is. -/
  surfaced : p.result = .error e ↔ ¬ u.HasPatience

/-- Whichever way a call ends that a transport error has cut short, the counter that it has raised
decides whether the error is passed over. -/
theorem Ending.of_retryable {w v : WorkUnit} {e : OrchestrationError}
    {answer : Except OrchestrationError Outcome} (ends : Ending w (some e) answer v)
    (retryable : e.isRetryable = true) (initiated : w.isInitiated = true) :
    v = w.movedTo .suspended ∧
      ((∃ delay, answer = .ok (.suspend delay)) ↔ w.polls.failed ≤ w.policy.maxFailedPolls) ∧
      (answer = .error e ↔ ¬ w.polls.failed ≤ w.policy.maxFailedPolls) := by
  cases ends with
  | tolerated _ _ few =>
    exact ⟨rfl, ⟨fun _ => few, fun _ => ⟨_, rfl⟩⟩, ⟨nofun, fun many => absurd few many⟩⟩
  | surfaced _ _ many =>
    exact ⟨rfl, ⟨nofun, fun few => absurd few many⟩, ⟨fun _ => many, fun _ => rfl⟩⟩
  | stopped fatal =>
    rw [fatal initiated] at retryable
    cases retryable

/-- A call that an error of another kind has cut short ends with that error. -/
theorem Ending.of_fatal {w v : WorkUnit} {e : OrchestrationError}
    {answer : Except OrchestrationError Outcome} (ends : Ending w (some e) answer v)
    (fatal : e.isRetryable = false) : answer = .error e ∧ v.state = .failed := by
  cases ends with
  | tolerated retryable | surfaced retryable =>
    rw [fatal] at retryable
    cases retryable
  | stopped => exact ⟨rfl, stoppedBy_state _ _⟩

/-- A poll that ends in a transport error is weathered. -/
theorem weathers_of_retryable (r : Remote σ) {u : WorkUnit} (initiated : u.isInitiated = true)
    (awaiting : u.state.awaitsBackend = true) {q : Request} (asks : u.Asks q) {s : σ}
    {e : OrchestrationError} (ended : (u.lookups r q s).2.1 = some e)
    (retryable : e.isRetryable = true) : u.Weathers e (u.serve r q s).1 := by
  have interrupted : u.interruption r q s = some e := (if_pos initiated).trans ended
  obtain ⟨w, judged, ends, -⟩ := serve_of_awaiting r initiated awaiting asks.notSkipped s
  rw [interrupted] at judged ends
  have before : (u.asked q).isInitiated = true := by
    cases q <;> exact initiated
  obtain ⟨left, tolerated, surfaced⟩ := ends.of_retryable retryable (judged.initiated before)
  have polled : u.pollEnd? r q s = some (some e) := by
    unfold pollEnd?
    rw [initiated, asks.isOpen, ended]
    exact if_pos (by simpa using asks.notSkipped)
  have counted := serve_counts r q u s
  rw [polled] at counted
  have failed : (u.serve r q s).1.unit.polls.failed = saturatingSucc u.polls.failed := by
    rw [counted.polls, Option.elim_some, PollCounters.afterPoll_failed, if_pos retryable]
  -- The counters and the policy of the unit that is judged are those of the unit that is left.
  have compared : w.polls.failed ≤ w.policy.maxFailedPolls ↔ u.HasPatience := by
    have wPolls : w.polls = (u.serve r q s).1.unit.polls := by rw [left]; rfl
    have wPolicy : w.policy = u.policy := by rw [← counted.policy, left]; rfl
    rw [wPolls, wPolicy, failed]
    exact saturatingSucc_le_iff _ _
  exact {
    suspended := by rw [left, movedTo_state]
    groupHrefs := serve_groupHrefs_of_unanswered fun h => by
      rw [interrupted] at h
      exact absurd h.2 nofun
    failed
    tolerated := tolerated.trans compared
    surfaced := surfaced.trans (not_congr compared) }

/-- A poll whose lookups all succeed leaves no failures counted. -/
theorem attend_failed_of_answered {r : Remote σ} {q : Request} {u : WorkUnit} {s : σ}
    (answered : u.pollEnd? r q s = some none) : (u.attend r q s).2.1.polls.failed = 0 := by
  have counted := (serve_counts r q u s).polls
  rw [answered] at counted
  rw [attend_unit, counted]
  rfl

/-- For every unit that calls make of a fresh one or of one taken up from any record, and every
policy: a run or a cancellation of initiated work whose lookups end in a transport error leaves the
unit suspended and tracking the same groups. The host is told to wait if fewer polls than the policy
allows were missed before, and is given the error if not; only a counter that cannot go on, under a
policy that allows just as many, lets the error pass all the same. Any later poll whose lookups all
succeed sets the failures back to none. An error of another kind is the answer, and stops the unit,
whatever the counters say. -/
theorem Arises.weathers {u : WorkUnit} (h : Arises u) (initiated : u.isInitiated = true)
    (isOpen : u.state.isFinal = false) (r : Remote σ) (q : Request) (asks : q ≠ .run .skip) {s : σ}
    {e : OrchestrationError} (ended : (u.lookups r q s).2.1 = some e) :
    (e.isRetryable = true → u.Weathers e (u.serve r q s).1 ∧
      ∀ past v, History (u.serve r q s).1.unit past v →
        ∀ {τ : Type} (r' : Remote τ) (q' : Request) (s' : τ),
          v.pollEnd? r' q' s' = some none → (v.attend r' q' s').2.1.polls.failed = 0) ∧
    (e.isRetryable = false →
      (u.serve r q s).1.result = .error e ∧ (u.serve r q s).1.unit.state = .failed) := by
  have awaiting := awaitsBackend_of_started isOpen (h.started initiated)
  refine ⟨fun retryable => ⟨?_, fun _ _ _ _ _ _ _ => attend_failed_of_answered⟩, fun fatal => ?_⟩
  · exact weathers_of_retryable r initiated awaiting
      (asks_of_initiated isOpen initiated asks) ended retryable
  · obtain ⟨w, -, ends, -⟩ := serve_of_awaiting r initiated awaiting asks s
    have interrupted : u.interruption r q s = some e := (if_pos initiated).trans ended
    rw [interrupted] at ends
    exact ends.of_fatal fatal

/-- A unit taken up with a task under way, after that many transport errors in a row and under a
policy that allows just as many. -/
def impatientUnit (failed : UInt32) : WorkUnit :=
  ofRecord { maxFailedPolls := failed }
    { tasks := some [{ href := "t2", state := some "running" }]
      pollCounters := { total := 7, failed }
      state := .suspended }

/-- After as many errors as are allowed the next one is reported, and the first poll that succeeds
after that leaves none counted. -/
theorem weathers_second_error :
    let u := impatientUnit 2
    let p := (u.serve halfSilentRemote (.run .execute) ()).1
    Arises u ∧ u.isInitiated = true ∧ u.state.isFinal = false ∧
      p.result = .error (.transport "get_task" "t2" "connection refused") ∧
      p.unit.polls.failed = 3 ∧
      (p.unit.attend secretiveRemote (.run .execute) ()).2.1.polls.failed = 0 := by
  intro u p
  have arises : Arises u := .ofRecord _ _
  have initiated : u.isInitiated = true := by decide +kernel
  have isOpen : u.state.isFinal = false := by decide +kernel
  have ended : (u.lookups halfSilentRemote (.run .execute) ()).2.1 =
      some (.transport "get_task" "t2" "connection refused") := by decide +kernel
  obtain ⟨weathered, recovers⟩ :=
    (arises.weathers initiated isOpen halfSilentRemote (.run .execute) nofun ended).1 rfl
  have impatient : ¬ u.HasPatience := by
    unfold HasPatience
    decide +kernel
  have counted : p.unit.polls.failed = 3 := by
    rw [weathered.failed]
    decide +kernel
  have answered : p.unit.pollEnd? secretiveRemote (.run .execute) () = some none := by
    decide +kernel
  exact ⟨arises, initiated, isOpen, weathered.surfaced.mpr impatient, counted,
    recovers [] p.unit .start secretiveRemote (.run .execute) () answered⟩

/-- Where counting has stopped, a policy that allows just as many errors lets yet another one pass,
although those that are allowed have been missed. -/
theorem weathers_without_end :
    let u := impatientUnit countingLimit
    let p := (u.serve halfSilentRemote (.run .execute) ()).1
    Arises u ∧ u.isInitiated = true ∧ u.state.isFinal = false ∧
      (u.lookups halfSilentRemote (.run .execute) ()).2.1 =
        some (.transport "get_task" "t2" "connection refused") ∧
      ¬ u.polls.failed < u.policy.maxFailedPolls ∧
      p.result.toOption = some (.suspend 1000) ∧ p.unit.polls = ⟨8, u.polls.failed⟩ := by
  intro u p
  exact ⟨.ofRecord _ _, by decide +kernel⟩

end WorkUnit

end TaskOrchestration
