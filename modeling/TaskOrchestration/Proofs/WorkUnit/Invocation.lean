import TaskOrchestration.Proofs.WorkUnit.Contacts
import TaskOrchestration.Proofs.WorkUnit.Histories

/-!
# The operation is invoked at most once

A unit is `Spent` when its operation has answered or the unit has ended; a spent unit invokes
nothing, and stays spent over calls and reloads. The run that invokes the operation leaves a spent
unit whatever the answer is, and so does every call to cancel. `History.invoked_at_most_once` puts
this together for any sequence of calls and reloads.
-/

namespace TaskOrchestration

variable {σ : Type}

namespace WorkUnit

/-- The operation of the unit is not invoked any more: it has answered, or the unit has ended. -/
def Spent (u : WorkUnit) : Prop := u.isInitiated = true ∨ u.state.isFinal = true

/-! ## What spends a unit -/

/-- An invocation spends the unit, whether it succeeds or fails and with whatever error. -/
theorem launch_spent (r : Remote σ) {u : WorkUnit} (isOpen : u.state.isFinal = false) (s : σ) :
    (u.launch r s).1.unit.Spent := by
  unfold launch
  rcases r.operation.invoke s with ⟨e | response, s'⟩
  · refine .inr ?_
    dsimp only
    rw [fail_of_open isOpen]
    rfl
  · refine .inl ?_
    have kept := (review_moves r.operation.name { u with tasks := some response.tasks }).keeps
    exact congrArg Option.isSome kept.tasks

/-- A start spends the unit. -/
theorem start_spent (r : Remote σ) {u : WorkUnit} (isOpen : u.state.isFinal = false) (s : σ) :
    (u.start r s).1.unit.Spent := by
  by_cases notStarted : u.state = .notStarted
  · rw [start_of_notStarted r notStarted]
    exact launch_spent r rfl s
  · rw [start_of_started r notStarted]
    exact launch_spent r isOpen s

/-- A run spends the unit, unless it is to be skipped. -/
theorem run_spent (r : Remote σ) (u : WorkUnit) (s : σ) :
    (u.serve r (.run .execute) s).1.unit.Spent := by
  cases ended : u.state.isFinal with
  | true =>
    rw [serve_of_final r ended]
    exact .inr ended
  | false =>
    cases initiated : u.isInitiated with
    | true => exact .inl (serve_isInitiated r initiated _ s)
    | false =>
      rw [serve, run_of_uninitiated r ended s initiated]
      exact start_spent r ended s

/-- A call to cancel spends a coherent unit. -/
theorem Coherent.cancel_spent {u : WorkUnit} (h : Coherent u) (r : Remote σ) (s : σ) :
    (u.serve r .cancel s).1.unit.Spent := by
  cases ended : u.state.isFinal with
  | true =>
    rw [serve_of_final r ended]
    exact .inr ended
  | false =>
    cases initiated : u.isInitiated with
    | true => exact .inl (serve_isInitiated r initiated _ s)
    | false =>
      rw [cancel_of_notStarted r initiated (h.notStarted_of_uninitiated ended initiated)]
      exact .inr rfl

namespace Spent

variable {u : WorkUnit}

/-- A spent unit stays spent over a call. -/
theorem serve (h : u.Spent) (r : Remote σ) (q : Request) (s : σ) :
    (u.serve r q s).1.unit.Spent := by
  rcases h with initiated | ended
  · exact .inl (serve_isInitiated r initiated q s)
  · rw [serve_of_final r ended]
    exact .inr ended

/-- A spent unit stays spent when it is taken up from its record. -/
theorem ofRecord_record (h : u.Spent) (policy : Policy) : (ofRecord policy u.record).Spent := by
  rcases h with initiated | ended
  · exact .inl initiated
  · refine .inr ?_
    rw [ofRecord_record_state fun _ => ne_notStarted_of_final ended]
    exact ended

end Spent

/-- A call that invokes the operation is a run of a unit that is not spent, and asks for nothing
else. -/
theorem contacts_of_invocation {r : Remote σ} {u : WorkUnit} {q : Request} {s : σ}
    (invoked : .invocation ∈ (u.attend r q s).1.contacts) :
    q = .run .execute ∧ ¬ u.Spent ∧ (u.attend r q s).1.contacts = [.invocation] := by
  cases mayAsk_of_mem_contacts r invoked with
  | invocation uninitiated =>
    have isOpen : u.state.isFinal = false := by
      cases ended : u.state.isFinal with
      | false => rfl
      | true =>
        have idle : ¬ u.Asks (.run .execute) := fun asks => by
          rw [asks.isOpen] at ended
          cases ended
        rw [contacts_of_idle r idle] at invoked
        cases invoked
    refine ⟨rfl, ?_, contacts_of_start r isOpen uninitiated s⟩
    rintro (initiated | ended)
    · rw [uninitiated] at initiated
      cases initiated
    · rw [isOpen] at ended
      cases ended

/-! ## Histories -/

namespace History

variable {policy : Policy} {past : List (Request × Turn)} {u : WorkUnit}

/-- A unit that was called to cancel, or has invoked its operation, is spent. -/
theorem spent (h : History { policy } past u)
    (before : ∃ turn ∈ past, turn.1 = .cancel ∨ .invocation ∈ turn.2.contacts) : u.Spent := by
  induction h with
  | start =>
    obtain ⟨turn, member, -⟩ := before
    cases member
  | @call past v σ r q s earlier ih =>
    obtain ⟨turn, member, spending⟩ := before
    rcases List.mem_append.mp member with old | last
    · exact (ih ⟨turn, old, spending⟩).serve r.journaled q { state := s }
    · rw [List.mem_singleton.mp last] at spending
      rcases spending with cancelled | invoked
      · obtain rfl : q = .cancel := cancelled
        exact earlier.reachable.coherent.cancel_spent r.journaled { state := s }
      · obtain rfl := (contacts_of_invocation invoked).1
        exact run_spent r.journaled v { state := s }
  | reload policy _ reloaded ih =>
    rw [eq_ofRecord_of_reload reloaded]
    exact (ih before).ofRecord_record policy

/-- Along any sequence of calls and reloads of a fresh unit, with whatever answers of the remote:
the operation is invoked at most once in all; no call but a run that is not skipped invokes it; and
after a call to cancel, or after an invocation with any answer at all, no later call invokes it. -/
theorem invoked_at_most_once (h : History { policy } past u) :
    (past.flatMap fun turn => turn.2.contacts).count .invocation ≤ 1 ∧
      (∀ turn ∈ past, .invocation ∈ turn.2.contacts → turn.1 = .run .execute) ∧
      past.Pairwise fun turn later =>
        turn.1 = .cancel ∨ .invocation ∈ turn.2.contacts → .invocation ∉ later.2.contacts := by
  induction h with
  | start => exact ⟨Nat.zero_le 1, fun _ member => absurd member List.not_mem_nil, .nil⟩
  | @call past v σ r q s earlier ih =>
    obtain ⟨once, runs, ordered⟩ := ih
    refine ⟨?_, ?_, ?_⟩
    · rw [List.flatMap_append, List.count_append, List.flatMap_singleton]
      -- A call that invokes has found its unit unspent, so no call before it has invoked.
      by_cases invoked : .invocation ∈ (v.attend r q s).1.contacts
      · obtain ⟨-, fresh, only⟩ := contacts_of_invocation invoked
        have never : .invocation ∉ past.flatMap fun turn => turn.2.contacts := by
          intro member
          obtain ⟨turn, old, before⟩ := List.mem_flatMap.mp member
          exact fresh (earlier.spent ⟨turn, old, .inr before⟩)
        have now : (v.attend r q s).1.contacts.count .invocation = 1 :=
          (congrArg (List.count _) only).trans List.count_singleton_self
        rw [List.count_eq_zero_of_not_mem never, Nat.zero_add]
        exact Nat.le_of_eq now
      · rw [List.count_eq_zero_of_not_mem invoked]
        exact once
    · intro turn member invoked
      rcases List.mem_append.mp member with old | last
      · exact runs turn old invoked
      · rw [List.mem_singleton.mp last] at invoked ⊢
        exact (contacts_of_invocation invoked).1
    · rw [List.pairwise_append]
      refine ⟨ordered, List.pairwise_singleton _ _, fun turn old later last spending => ?_⟩
      rw [List.mem_singleton.mp last]
      intro invoked
      exact (contacts_of_invocation invoked).2.1 (earlier.spent ⟨turn, old, spending⟩)
  | reload _ _ _ ih => exact ih

end History

end WorkUnit

/-- The remote whose operation is not reached. -/
def Remote.unreachable : Remote Unit where
  backend := {
    task := fun href s => (.error (.transport "get_task" href "connection refused"), s)
    group := fun href s => (.error (.transport "get_task_group" href "connection refused"), s)
    members := fun href s =>
      (.error (.transport "get_task_group_members" href "connection refused"), s)
    cancel := fun href s => (.error (.transport "cancel_task" href "connection refused"), s) }
  operation := {
    name := "sync"
    invoke := fun s => (.error (.transport "sync" "/repositories/1/" "connection refused"), s) }

namespace WorkUnit

/-- A unit whose operation was not reached is taken up again, run and cancelled, and does not try
once more. -/
theorem invoked_once_unreachable :
    let r := Remote.unreachable
    let first := ({} : WorkUnit).attend r (.run .execute) ()
    let u := ofRecord {} first.2.1.record
    let second := u.attend r (.run .execute) ()
    let third := second.2.1.attend r .cancel ()
    let past := [(Request.run .execute, first.1), (.run .execute, second.1), (.cancel, third.1)]
    History {} past third.2.1 ∧
      (past.flatMap fun turn => turn.2.contacts).count .invocation ≤ 1 ∧
      first.1.contacts = [.invocation] ∧ second.1.contacts = [] ∧ third.1.contacts = [] := by
  intro r first u second third past
  have history : History {} past third.2.1 :=
    .call r .cancel () <| .call r (.run .execute) () <|
      .reload {} (.call r (.run .execute) () .start) (ofRecordJson_toJson {} _)
  exact ⟨history, history.invoked_at_most_once.1, by decide +kernel, by decide +kernel,
    by decide +kernel⟩

end WorkUnit

end TaskOrchestration
