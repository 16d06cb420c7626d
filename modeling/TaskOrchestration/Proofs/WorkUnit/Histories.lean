import TaskOrchestration.Proofs.WorkUnit.Coherence

/-!
# Properties along a history

`History.keeps` carries a property of units from the start of a history to its end, and
`History.all` gives what such a property says of every turn on the way; `History.of_final` does so
for a unit that has ended. A unit is always taken up from its own record (`eq_ofRecord_of_reload`),
and has that record again unless it tracks tasks without being started (`record_ofRecord_record`).
-/

namespace TaskOrchestration.WorkUnit

variable {σ : Type}

/-- A unit that has ended was started. -/
theorem ne_notStarted_of_final {u : WorkUnit} (ended : u.state.isFinal = true) :
    u.state ≠ .notStarted := by
  intro notStarted
  rw [notStarted] at ended
  cases ended

/-! ## Reloads -/

theorem eq_ofRecord_of_reload {u v : WorkUnit} {policy : Policy}
    (taken : ofRecordJson policy u.record.toJson = .ok v) : v = ofRecord policy u.record := by
  rw [ofRecordJson_toJson] at taken
  exact (Except.ok.inj taken).symm

/-- A unit that is not initiated without being started is taken up in its own state. -/
theorem ofRecord_record_state {u : WorkUnit}
    (started : u.isInitiated = true → u.state ≠ .notStarted) (policy : Policy) :
    (ofRecord policy u.record).state = u.state :=
  if_neg fun ⟨notStarted, initiated⟩ => started initiated notStarted

/-- A unit that is taken up from its record has that record again. -/
theorem record_ofRecord_record {u : WorkUnit}
    (started : u.isInitiated = true → u.state ≠ .notStarted) (policy : Policy) :
    (ofRecord policy u.record).record = u.record := by
  have state := ofRecord_record_state started policy
  have groups : (u.tasks.map fun _ => (u.tasks.map fun _ => u.groups).getD []) =
      u.tasks.map fun _ => u.groups := by
    cases u.tasks <;> rfl
  show ({ u.record with
    taskGroups := u.tasks.map fun _ => (u.tasks.map fun _ => u.groups).getD []
    state := (ofRecord policy u.record).state } : OutputRecord) = u.record
  rw [state, groups]
  rfl

/-- The record of a unit whose operation has answered holds its groups. -/
theorem groups_of_record {u v : WorkUnit} (same : v.record = u.record)
    (initiated : u.isInitiated = true) : v.groups = u.groups := by
  obtain ⟨tasks, known⟩ := Option.isSome_iff_exists.mp initiated
  have sameTasks : v.tasks = u.tasks := congrArg OutputRecord.tasks same
  have sameGroups : (v.tasks.map fun _ => v.groups) = u.tasks.map fun _ => u.groups :=
    congrArg OutputRecord.taskGroups same
  rw [sameTasks, known] at sameGroups
  exact Option.some.inj sameGroups

/-! ## Histories -/

namespace History

section Kept

variable {P : WorkUnit → Prop}
  (served : ∀ {σ : Type} (r : Remote σ) (q : Request) (s : σ) {v : WorkUnit},
    P v → P (v.serve r q s).1.unit)
  (taken : ∀ (policy : Policy) {v : WorkUnit}, P v → P (ofRecord policy v.record))

include served taken

/-- What calls and reloads keep holds at the end of a history if it holds at its start. -/
theorem keeps {u v : WorkUnit} {past : List (Request × Turn)} (h : History u past v)
    (start : P u) : P v := by
  induction h with
  | start => exact start
  | call r q s _ ih => exact served r.journaled q { state := s } ih
  | reload policy _ reloaded ih =>
    rw [eq_ofRecord_of_reload reloaded]
    exact taken policy ih

/-- What calls and reloads keep is known of the unit in every turn of a history. -/
theorem all {Q : Request × Turn → Prop}
    (turns : ∀ {σ : Type} (r : Remote σ) (q : Request) (s : σ) {v : WorkUnit},
      P v → Q (q, (v.attend r q s).1))
    {u v : WorkUnit} {past : List (Request × Turn)} (h : History u past v) (start : P u) :
    ∀ turn ∈ past, Q turn := by
  induction h with
  | start => exact fun _ member => absurd member List.not_mem_nil
  | call r q s before ih =>
    intro turn member
    rcases List.mem_append.mp member with earlier | last
    · exact ih turn earlier
    · rw [List.mem_singleton.mp last]
      exact turns r q s (keeps served taken before start)
  | reload _ _ _ ih => exact ih

end Kept

/-- A unit that has ended keeps its record along any history: nothing is asked of any remote, and no
call has an error for an answer but a run, which is refused. -/
theorem of_final {u v : WorkUnit} {past : List (Request × Turn)} (ended : u.state.isFinal = true)
    (h : History u past v) :
    v.record = u.record ∧ ∀ turn ∈ past, turn.2.contacts = [] ∧
      ∀ e, turn.2.answer = .error e → e = .invalidTransition u.state.name "execute" := by
  -- The record is what calls and reloads keep. The state is read off it, and a unit in that state
  -- answers every call without a change.
  have state {w : WorkUnit} (same : w.record = u.record) : w.state = u.state :=
    congrArg OutputRecord.state same
  have served : ∀ {σ : Type} (r : Remote σ) (q : Request) (s : σ) {w : WorkUnit},
      w.record = u.record → (w.serve r q s).1.unit.record = u.record := by
    intro σ r q s w same
    rw [serve_of_final r (by rw [state same]; exact ended)]
    exact same
  have taken : ∀ (policy : Policy) {w : WorkUnit},
      w.record = u.record → (ofRecord policy w.record).record = u.record := by
    intro policy w same
    have started : w.state ≠ .notStarted := ne_notStarted_of_final (by rw [state same]; exact ended)
    exact (record_ofRecord_record (fun _ => started) policy).trans same
  refine ⟨h.keeps served taken rfl, h.all served taken ?_ rfl⟩
  intro σ r q s w same
  unfold attend
  rw [serve_of_final r.journaled (by rw [state same]; exact ended), state same]
  refine ⟨rfl, fun e refused => ?_⟩
  match q with
  | .run .skip | .cancel => cases refused
  | .run .execute => exact (Except.error.inj refused).symm

/-- A unit at the end of a history that starts with a fresh one is reachable. -/
theorem reachable {u : WorkUnit} {policy : Policy} {past : List (Request × Turn)}
    (h : History { policy } past u) : Reachable u := by
  induction h with
  | start => exact .fresh policy
  | call r q s _ ih => exact .serve r.journaled q { state := s } ih
  | reload policy _ reloaded ih => exact .reload policy ih reloaded

end History

end TaskOrchestration.WorkUnit
