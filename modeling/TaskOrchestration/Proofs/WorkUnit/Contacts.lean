import TaskOrchestration.Proofs.WorkUnit.Gathering

/-!
# What a call asks of the remote

`MayAsk` lists what a unit may ask in a call: of each tracked task and group to be looked up, in a
call to cancel also of each tracked task and member to be cancelled, and before the operation has
answered nothing but that. `mayAsk_of_mem_contacts` says that a call asks nothing else, and
`contacts_of_start` that the run that starts the work invokes the operation once.
-/

namespace TaskOrchestration

variable {σ : Type}

namespace Journal

/-- The second journal holds, after what is in the first one, only contacts of a certain kind. -/
def Adds (P : Contact → Prop) (j j' : Journal σ) : Prop :=
  ∃ added, j'.contacts = j.contacts ++ added ∧ ∀ c ∈ added, P c

namespace Adds

variable {P Q : Contact → Prop} {j j' j'' : Journal σ}

theorem refl (j : Journal σ) : Adds P j j :=
  ⟨[], (List.append_nil _).symm, fun _ h => absurd h List.not_mem_nil⟩

theorem trans (h : Adds P j j') (h' : Adds P j' j'') : Adds P j j'' := by
  obtain ⟨added, extended, fit⟩ := h
  obtain ⟨added', extended', fit'⟩ := h'
  refine ⟨added ++ added', by rw [extended', extended, List.append_assoc], fun c hc => ?_⟩
  exact (List.mem_append.mp hc).elim (fit c) (fit' c)

/-- One answer adds one contact. -/
theorem answer {α : Type} {contact : Contact} (fits : P contact) (ask : σ → Answer σ α)
    (j : Journal σ) : Adds P j (Journal.answer contact ask j).2 :=
  ⟨[contact], rfl, fun c hc => by rw [List.mem_singleton.mp hc]; exact fits⟩

end Adds

end Journal

/-- The calls on the backend among what was asked in a call of the host. -/
def Turn.calls (turn : Turn) : List Call :=
  turn.contacts.filterMap fun
    | .call call => some call
    | .invocation => none

/-- If nothing but calls on the backend was asked, these are the calls. -/
theorem Turn.calls_of_contacts {turn : Turn} {calls : List Call}
    (contacts : turn.contacts = calls.map .call) : turn.calls = calls := by
  unfold Turn.calls
  rw [contacts, List.filterMap_map]
  exact List.filterMap_some

open Journal (Adds)

variable {P : Contact → Prop} (r : Remote σ)

/-! ## Lookups and requests to cancel -/

theorem TaskReport.refresh_adds (t : TaskReport) (fits : P (.call (.task t.href)))
    (j : Journal σ) : Adds P j (t.refresh r.journaled.backend j).2 := by
  have asked : Adds P j (r.journaled.backend.task t.href j).2 := .answer fits _ j
  unfold TaskReport.refresh
  split
  · exact .refl j
  · split <;> next answered => rwa [answered] at asked

theorem TrackedGroup.refresh_adds (g : TrackedGroup) (fits : P (.call (.group g.href)))
    (fits' : P (.call (.members g.href))) (j : Journal σ) :
    Adds P j (g.refresh r.journaled.backend j).2 := by
  have asked : Adds P j (r.journaled.backend.group g.href j).2 := .answer fits _ j
  unfold TrackedGroup.refresh
  split
  · exact .refl j
  · split
    · next answered => rwa [answered] at asked
    · next report j' answered =>
      rw [answered] at asked
      have askedMembers : Adds P j' (r.journaled.backend.members g.href j').2 := .answer fits' _ j'
      split <;> next answered' =>
        rw [answered'] at askedMembers
        exact asked.trans askedMembers

/-- A sweep adds what its steps add. -/
theorem sweep_adds {α : Type} {step : α → Journal σ → Except OrchestrationError α × Journal σ}
    {items : List α} (steps : ∀ a ∈ items, ∀ j, Adds P j (step a j).2) (j : Journal σ) :
    Adds P j (sweep step items j).2.2 := by
  induction items generalizing j with
  | nil => exact .refl j
  | cons a rest ih =>
    have first := steps a List.mem_cons_self j
    unfold sweep
    split
    · next failed => rwa [failed] at first
    · next stepped =>
      rw [stepped] at first
      exact first.trans (ih (fun b hb => steps b (List.mem_cons_of_mem _ hb)) _)

theorem TaskReport.cancelAll_adds {tasks : List TaskReport}
    (fits : ∀ t ∈ tasks, P (.call (.cancel t.href))) (j : Journal σ) :
    Adds P j (TaskReport.cancelAll r.journaled.backend tasks j) := by
  induction tasks generalizing j with
  | nil => exact .refl j
  | cons t rest ih =>
    have first : Adds P j (t.cancel r.journaled.backend j) :=
      Adds.answer (fits t List.mem_cons_self) (r.backend.cancel t.href) j
    exact first.trans (ih (fun t' ht => fits t' (List.mem_cons_of_mem _ ht)) _)

theorem TrackedGroup.cancelAll_adds {groups : List TrackedGroup}
    (fits : ∀ g ∈ groups, ∀ m ∈ g.members, P (.call (.cancel m.href))) (j : Journal σ) :
    Adds P j (TrackedGroup.cancelAll r.journaled.backend groups j) := by
  induction groups generalizing j with
  | nil => exact .refl j
  | cons g rest ih =>
    have first : Adds P j (g.cancel r.journaled.backend j) :=
      TaskReport.cancelAll_adds r (fits g List.mem_cons_self) j
    exact first.trans (ih (fun g' hg => fits g' (List.mem_cons_of_mem _ hg)) _)

namespace WorkUnit

/-! ## Calls of the host -/

/-- What a unit may ask of its remote in a call of the host. -/
inductive MayAsk (u : WorkUnit) : Request → Contact → Prop
  /-- To start the work, if that was not done yet. -/
  | invocation (uninitiated : u.isInitiated = false) : MayAsk u (.run .execute) .invocation
  /-- The state of a tracked task. -/
  | task {q : Request} {t : TaskReport} (tracked : t ∈ u.knownTasks) :
      MayAsk u q (.call (.task t.href))
  /-- The state of a tracked group. -/
  | group {q : Request} {g : TrackedGroup} (tracked : g ∈ u.groups) :
      MayAsk u q (.call (.group g.href))
  /-- The states of the members of a tracked group. -/
  | members {q : Request} {g : TrackedGroup} (tracked : g ∈ u.groups) :
      MayAsk u q (.call (.members g.href))
  /-- The end of a tracked task. -/
  | cancelTask {t : TaskReport} (tracked : t ∈ u.knownTasks) :
      MayAsk u .cancel (.call (.cancel t.href))
  /-- The end of a member of a tracked group. -/
  | cancelMember {g : TrackedGroup} {m : TaskReport} (tracked : g ∈ u.groups)
      (member : m ∈ g.members) : MayAsk u .cancel (.call (.cancel m.href))

variable {u : WorkUnit}

/-- A refresh looks up tracked tasks and groups. -/
theorem refresh_adds (u : WorkUnit) (q : Request) (j : Journal σ) :
    Adds (u.MayAsk q) j (u.refresh r.journaled.backend j).2.2 := by
  have tasks : Adds (u.MayAsk q) j
      (sweep (TaskReport.refresh r.journaled.backend) u.knownTasks j).2.2 :=
    sweep_adds (fun t ht => t.refresh_adds r (.task ht)) j
  rcases swept : sweep (TaskReport.refresh r.journaled.backend) u.knownTasks j with
    ⟨found, _ | e, j'⟩ <;> rw [swept] at tasks
  · rw [refresh_of_tasks_ok swept]
    exact tasks.trans <|
      sweep_adds (fun g hg => g.refresh_adds r (MayAsk.group (q := q) hg) (.members hg)) j'
  · rw [refresh_of_task_error swept]
    exact tasks

/-- The lookups of a call, and the requests to cancel before them, are about what is tracked. -/
theorem lookups_adds (u : WorkUnit) (q : Request) (j : Journal σ) :
    Adds (u.MayAsk q) j (u.lookups r.journaled q j).2.2 := by
  match q with
  | .run _ => exact refresh_adds r u _ j
  | .cancel =>
    have tasks : Adds (u.MayAsk .cancel) j
        (TaskReport.cancelAll r.journaled.backend u.knownTasks j) :=
      TaskReport.cancelAll_adds r (fun t ht => .cancelTask ht) j
    have groups (j' : Journal σ) : Adds (u.MayAsk .cancel) j'
        (TrackedGroup.cancelAll r.journaled.backend u.groups j') :=
      TrackedGroup.cancelAll_adds r (fun g hg m hm => .cancelMember hg hm) j'
    exact (tasks.trans (groups _)).trans (refresh_adds r u _ _)

/-- The run that starts the work invokes the operation and asks nothing else. -/
theorem contacts_of_start (isOpen : u.state.isFinal = false) (uninitiated : u.isInitiated = false)
    (s : σ) : (u.attend r (.run .execute) s).1.contacts = [.invocation] := by
  have left := (serve_gathers r.journaled (asks_of_run isOpen) { state := s }).2
  rw [gathered_of_uninitiated r.journaled uninitiated] at left
  exact congrArg Journal.contacts left

theorem contacts_of_idle {q : Request} (idle : ¬ u.Asks q) (s : σ) :
    (u.attend r q s).1.contacts = [] :=
  congrArg Journal.contacts (serve_of_idle r.journaled idle { state := s }).2

/-- A unit asks nothing in a call but what it may ask. -/
theorem mayAsk_of_mem_contacts {q : Request} {s : σ} {c : Contact}
    (h : c ∈ (u.attend r q s).1.contacts) : u.MayAsk q c := by
  by_cases asks : u.Asks q
  · cases initiated : u.isInitiated with
    | true =>
      have left := (serve_gathers r.journaled asks { state := s }).2
      rw [gathered_of_initiated r.journaled initiated] at left
      obtain ⟨added, extended, fit⟩ := lookups_adds r u q { state := s }
      have contacts : (u.attend r q s).1.contacts = added :=
        (congrArg Journal.contacts left).trans extended
      exact fit c (contacts ▸ h)
    | false =>
      obtain rfl := asks.eq_run initiated
      rw [contacts_of_start r asks.isOpen initiated] at h
      rw [List.mem_singleton.mp h]
      exact .invocation initiated
  · rw [contacts_of_idle r asks] at h
    cases h

end WorkUnit

end TaskOrchestration
