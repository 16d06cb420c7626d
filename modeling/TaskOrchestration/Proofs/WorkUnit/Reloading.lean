import TaskOrchestration.Proofs.WorkUnit.Coherence
import TaskOrchestration.Proofs.WorkUnit.Likeness

/-!
# Reloads go unnoticed

A unit may be let go between any two calls and taken up again from its record. `life_eq_session`
says that nobody can tell: the answers, what is asked of the remote, the log and the record after
every call are those of the unit that is never let go. What a reload forgets is the message of a
failure, on which no call depends.
-/

namespace TaskOrchestration.WorkUnit

variable {σ : Type}

/-- A coherent unit can be taken up from its own record, and the new unit is like it. -/
theorem Coherent.reload_alike {u : WorkUnit} (h : Coherent u) :
    ∃ v, u.reload = .ok v ∧ Alike u v ∧ Coherent v := by
  have taken := h.ofRecordJson_record u.policy
  exact ⟨_, taken, ⟨rfl, rfl, rfl, rfl, rfl, rfl⟩, h.reload taken⟩

/-- A call with all that is seen of it leaves a coherent unit coherent. -/
theorem Coherent.attend {u : WorkUnit} (h : Coherent u) (r : Remote σ) (q : Request) (s : σ) :
    Coherent (u.attend r q s).2.1 :=
  h.serve r.journaled q _

/-- A session goes on with the unit and the remote that its first call leaves. -/
theorem session_cons (r : Remote σ) (q : Request) (rest : List Request) (u : WorkUnit) (s : σ) :
    session r (q :: rest) u s =
      ((u.attend r q s).1 :: (session r rest (u.attend r q s).2.1 (u.attend r q s).2.2).1,
        (session r rest (u.attend r q s).2.1 (u.attend r q s).2.2).2) := rfl

/-- A life goes on with the unit that is taken up. -/
theorem life_reload (r : Remote σ) (rest : List HostStep) {u v : WorkUnit} (s : σ)
    (taken : u.reload = .ok v) : life r (.reload :: rest) u s = life r rest v s := by
  rw [life, taken]
  rfl

/-- A life goes on with the unit and the remote that a call leaves. -/
theorem life_request (r : Remote σ) (q : Request) {rest : List HostStep} {u v : WorkUnit}
    {s s' : σ} {turns : List Turn}
    (lived : life r rest (u.attend r q s).2.1 (u.attend r q s).2.2 = .ok (turns, v, s')) :
    life r (.request q :: rest) u s = .ok ((u.attend r q s).1 :: turns, v, s') := by
  rw [life]
  dsimp only
  rw [lived]
  rfl

/-- A life with reloads shows the same turns as the session of its calls, for units that are
alike. -/
theorem Alike.life {u v : WorkUnit} (h : Alike u v) (coherent : Coherent v) (r : Remote σ)
    (steps : List HostStep) (s : σ) :
    ∃ v', life r steps v s =
        .ok ((session r (steps.filterMap HostStep.request?) u s).1, v',
          (session r (steps.filterMap HostStep.request?) u s).2.2) ∧
      Alike (session r (steps.filterMap HostStep.request?) u s).2.1 v' := by
  induction steps generalizing u v s with
  | nil => exact ⟨v, rfl, h⟩
  | cons step rest ih =>
    cases step with
    | reload =>
      rw [List.filterMap_cons_none rfl]
      obtain ⟨w, taken, alike, coherent'⟩ := coherent.reload_alike
      rw [life_reload r rest s taken]
      exact ih (h.trans alike) coherent' s
    | request q =>
      rw [List.filterMap_cons_some (show (HostStep.request q).request? = some q from rfl),
        session_cons]
      obtain ⟨turn, alike, same⟩ := h.attend r q s
      obtain ⟨v', lived, last⟩ := ih alike (coherent.attend r q s) (u.attend r q s).2.2
      rw [same] at lived
      refine ⟨v', ?_, last⟩
      rw [life_request r q lived, turn, same]

/-- Whatever the remote answers, and wherever a fresh unit is let go and taken up again from its
record, the host meets no fault, and every answer, every contact with the remote, every record and
the state of the remote are those of the unit that is never let go. -/
theorem life_eq_session (policy : Policy) (r : Remote σ) (steps : List HostStep) (s : σ) :
    ∃ v, life r steps { policy } s =
        .ok ((session r (steps.filterMap HostStep.request?) { policy } s).1, v,
          (session r (steps.filterMap HostStep.request?) { policy } s).2.2) ∧
      v.record = (session r (steps.filterMap HostStep.request?) { policy } s).2.1.record := by
  obtain ⟨v, lived, alike⟩ := (Alike.refl { policy }).life (.fresh policy) r steps s
  exact ⟨v, lived, alike.record.symm⟩

end TaskOrchestration.WorkUnit
