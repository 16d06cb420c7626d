import TaskOrchestration.Proofs.Group.Members
import TaskOrchestration.Proofs.WorkUnit.Journaling

/-!
# The calls of a poll

A poll looks up one task after the other and then one group after the other, and ends with the first
call that fails. `Swept` says so of one list: which calls are made, which items are refreshed, and
that the item whose lookup fails stays as it is with all behind it. `PollCycle` puts the two lists
together, and `attend_polls` says that the lookups of every call on an initiated unit are such a
cycle, behind the requests to cancel if the call is one to cancel.
-/

namespace TaskOrchestration

variable {σ : Type}

/-! ## Lookups -/

/-- The calls of a lookup of the task that succeeds. -/
def TaskReport.dueCalls (t : TaskReport) : List Call := if t.isDone then [] else [.task t.href]

/-- The calls of a lookup of the group that succeeds. -/
def TrackedGroup.dueCalls (g : TrackedGroup) : List Call :=
  if g.isDone then [] else [.group g.href, .members g.href]

/-- The lookup of a task fails: the calls it made, the error, and the backend after them. -/
inductive TaskReport.LookupFails (b : Backend σ) (t : TaskReport) (s : σ) :
    List Call → OrchestrationError → σ → Prop
  | task {e : OrchestrationError} {s' : σ} (pending : t.isDone = false)
      (failed : b.task t.href s = (.error e, s')) : LookupFails b t s [.task t.href] e s'

/-- The lookup of a group fails at the first or at the second of its calls. -/
inductive TrackedGroup.LookupFails (b : Backend σ) (g : TrackedGroup) (s : σ) :
    List Call → OrchestrationError → σ → Prop
  | group {e : OrchestrationError} {s' : σ} (pending : g.isDone = false)
      (failed : b.group g.href s = (.error e, s')) : LookupFails b g s [.group g.href] e s'
  | members {report : GroupReport} {e : OrchestrationError} {s' s'' : σ}
      (pending : g.isDone = false) (answered : b.group g.href s = (.ok report, s'))
      (failed : b.members g.href s' = (.error e, s'')) :
      LookupFails b g s [.group g.href, .members g.href] e s''

/-! ## Lists of lookups -/

section Lists

variable {α : Type}

/-- Steps on all items succeed, each taken where the one before it has left the backend. -/
inductive InTurn (step : α → σ → Except OrchestrationError α × σ) :
    List α → σ → List α → σ → Prop
  | nil (s : σ) : InTurn step [] s [] s
  | cons {a a' : α} {rest rest' : List α} {s s' s'' : σ} (stepped : step a s = (.ok a', s')) :
      InTurn step rest s' rest' s'' → InTurn step (a :: rest) s (a' :: rest') s''

/-- How a sweep over items goes: the calls made, what it leaves of the items, the error that ended
it, and the backend after it. `due` are the calls of a step that succeeds, and `Fails` says with
which calls a step fails. -/
inductive Swept (step : α → σ → Except OrchestrationError α × σ) (due : α → List Call)
    (Fails : α → σ → List Call → OrchestrationError → σ → Prop) (items : List α) (s : σ) :
    List Call → List α → Option OrchestrationError → σ → Prop
  /-- Every item is refreshed. -/
  | all {items' : List α} {s' : σ} (refreshed : InTurn step items s items' s') :
      Swept step due Fails items s (items.flatMap due) items' none s'
  /-- The items before the one whose step fails are refreshed; that one and all behind it are as
  they were, and nothing is asked any more. -/
  | upTo {before before' after : List α} {a : α} {calls : List Call} {e : OrchestrationError}
      {s₁ s' : σ} (split : items = before ++ a :: after)
      (refreshed : InTurn step before s before' s₁) (failed : Fails a s₁ calls e s') :
      Swept step due Fails items s (before.flatMap due ++ calls) (before' ++ a :: after) (some e) s'

variable {step : α → σ → Except OrchestrationError α × σ} {due : α → List Call}
  {Fails : α → σ → List Call → OrchestrationError → σ → Prop}

/-- A step that succeeds comes before the sweep over the other items. -/
theorem Swept.cons {a a' : α} {rest rest' : List α} {s s₁ s' : σ} {calls : List Call}
    {failure : Option OrchestrationError} (stepped : step a s = (.ok a', s₁))
    (swept : Swept step due Fails rest s₁ calls rest' failure s') :
    Swept step due Fails (a :: rest) s (due a ++ calls) (a' :: rest') failure s' := by
  cases swept with
  | all refreshed => exact .all (.cons stepped refreshed)
  | upTo split refreshed failed =>
    rw [← List.append_assoc]
    exact .upTo (congrArg (a :: ·) split) (.cons stepped refreshed) failed

/-- A step with a journal is a step without it, and what is noted are its calls. -/
def Noted (step : α → σ → Except OrchestrationError α × σ) (due : α → List Call)
    (Fails : α → σ → List Call → OrchestrationError → σ → Prop) (a : α) (j : Journal σ)
    (outcome : Except OrchestrationError α × Journal σ) : Prop :=
  (∃ a' s', step a j.state = (.ok a', s') ∧
    outcome = (.ok a', ⟨s', j.contacts ++ (due a).map .call⟩)) ∨
  ∃ calls e s', Fails a j.state calls e s' ∧
    outcome = (.error e, ⟨s', j.contacts ++ calls.map .call⟩)

/-- A sweep notes the calls of its steps, up to the one that fails. -/
theorem exists_swept {step' : α → Journal σ → Except OrchestrationError α × Journal σ}
    (noted : ∀ a j, Noted step due Fails a j (step' a j)) (items : List α) (j : Journal σ) :
    ∃ calls items' failure s', Swept step due Fails items j.state calls items' failure s' ∧
      sweep step' items j = (items', failure, ⟨s', j.contacts ++ calls.map .call⟩) := by
  induction items generalizing j with
  | nil =>
    refine ⟨[], [], none, j.state, .all (.nil _), ?_⟩
    rw [List.map_nil, List.append_nil]
    rfl
  | cons a rest ih =>
    unfold sweep
    rcases noted a j with ⟨a', s₁, stepped, outcome⟩ | ⟨calls, e, s', failed, outcome⟩
    · obtain ⟨calls, rest', failure, s', swept, rested⟩ :=
        ih ⟨s₁, j.contacts ++ (due a).map .call⟩
      refine ⟨_, _, _, _, swept.cons stepped, ?_⟩
      rw [outcome]
      dsimp only
      rw [rested, List.map_append, List.append_assoc]
    · have split : a :: rest = [] ++ a :: rest := rfl
      refine ⟨_, _, _, _, .upTo split (.nil _) failed, ?_⟩
      rw [outcome]
      rfl

end Lists

/-! ## What is noted of a lookup -/

variable (r : Remote σ)

theorem TaskReport.refresh_noted (t : TaskReport) (j : Journal σ) :
    Noted (TaskReport.refresh r.backend) dueCalls (LookupFails r.backend) t j
      (t.refresh r.journaled.backend j) := by
  have asked : r.journaled.backend.task t.href j = ((r.backend.task t.href j.state).1,
    ⟨(r.backend.task t.href j.state).2, j.contacts ++ [.call (.task t.href)]⟩) := rfl
  unfold Noted dueCalls
  cases done : t.isDone with
  | true =>
    refine .inl ⟨t, j.state, refresh_of_isDone _ done _, ?_⟩
    rw [refresh_of_isDone _ done, if_pos rfl, List.map_nil, List.append_nil]
  | false =>
    have pending : ¬ t.isDone = true := by rw [done]; decide
    unfold refresh
    rw [if_neg pending, if_neg pending, asked, if_neg (by decide)]
    rcases answer : r.backend.task t.href j.state with ⟨e | fresh, s'⟩
    · exact .inr ⟨_, e, s', .task done answer, rfl⟩
    · exact .inl ⟨_, s', rfl, rfl⟩

theorem TrackedGroup.refresh_noted (g : TrackedGroup) (j : Journal σ) :
    Noted (TrackedGroup.refresh r.backend) dueCalls (LookupFails r.backend) g j
      (g.refresh r.journaled.backend j) := by
  have asked : r.journaled.backend.group g.href j = ((r.backend.group g.href j.state).1,
    ⟨(r.backend.group g.href j.state).2, j.contacts ++ [.call (.group g.href)]⟩) := rfl
  have askedMembers (j : Journal σ) :
      r.journaled.backend.members g.href j = ((r.backend.members g.href j.state).1,
        ⟨(r.backend.members g.href j.state).2, j.contacts ++ [.call (.members g.href)]⟩) := rfl
  unfold Noted dueCalls
  cases done : g.isDone with
  | true =>
    refine .inl ⟨g, j.state, refresh_of_isDone _ done _, ?_⟩
    rw [refresh_of_isDone _ done, if_pos rfl, List.map_nil, List.append_nil]
  | false =>
    have pending : ¬ g.isDone = true := by rw [done]; decide
    unfold refresh
    rw [if_neg pending, if_neg pending, asked, if_neg (by decide)]
    rcases answer : r.backend.group g.href j.state with ⟨e | report, s'⟩
    · exact .inr ⟨_, e, s', .group done answer, rfl⟩
    · dsimp only
      rw [askedMembers, List.append_assoc]
      rcases list : r.backend.members g.href s' with ⟨e | members, s''⟩
      · exact .inr ⟨_, e, s'', .members done answer list, rfl⟩
      · exact .inl ⟨_, s'', rfl, rfl⟩

/-- The requests to cancel tasks are noted one after the other. -/
theorem TaskReport.cancelAll_noted (tasks : List TaskReport) (j : Journal σ) :
    TaskReport.cancelAll r.journaled.backend tasks j =
      ⟨TaskReport.cancelAll r.backend tasks j.state,
        j.contacts ++ tasks.map fun t => .call (.cancel t.href)⟩ := by
  induction tasks generalizing j with
  | nil =>
    rw [List.map_nil, List.append_nil]
    rfl
  | cons t rest ih =>
    have first : t.cancel r.journaled.backend j =
      ⟨t.cancel r.backend j.state, j.contacts ++ [.call (.cancel t.href)]⟩ := rfl
    show TaskReport.cancelAll r.journaled.backend rest (t.cancel r.journaled.backend j) = _
    rw [first, ih, List.append_assoc]
    rfl

theorem TrackedGroup.cancelAll_noted (groups : List TrackedGroup) (j : Journal σ) :
    TrackedGroup.cancelAll r.journaled.backend groups j =
      ⟨TrackedGroup.cancelAll r.backend groups j.state,
        j.contacts ++ (groups.flatMap members).map fun t => .call (.cancel t.href)⟩ := by
  induction groups generalizing j with
  | nil =>
    rw [List.flatMap_nil, List.map_nil, List.append_nil]
    rfl
  | cons g rest ih =>
    have first : g.cancel r.journaled.backend j = _ :=
      TaskReport.cancelAll_noted r g.members j
    show TrackedGroup.cancelAll r.journaled.backend rest (g.cancel r.journaled.backend j) = _
    rw [first, ih, List.flatMap_cons, List.map_append, List.append_assoc]
    rfl

namespace WorkUnit

/-! ## Calls -/

/-- One poll of the unit: the calls it makes, the tasks and the groups it leaves, the error that
ended it, and the backend after it. -/
inductive PollCycle (b : Backend σ) (u : WorkUnit) (s : σ) :
    List Call → List TaskReport → List TrackedGroup → Option OrchestrationError → σ → Prop
  /-- The lookup of a task fails, and no group is looked up. -/
  | tasks {calls : List Call} {tasks : List TaskReport} {e : OrchestrationError} {s' : σ}
      (swept : Swept (TaskReport.refresh b) TaskReport.dueCalls (TaskReport.LookupFails b)
        u.knownTasks s calls tasks (some e) s') : PollCycle b u s calls tasks u.groups (some e) s'
  /-- All tasks are refreshed, and then the groups, up to the first whose lookup fails. -/
  | groups {calls calls' : List Call} {tasks : List TaskReport} {groups : List TrackedGroup}
      {failure : Option OrchestrationError} {s₁ s' : σ}
      (sweptTasks : Swept (TaskReport.refresh b) TaskReport.dueCalls (TaskReport.LookupFails b)
        u.knownTasks s calls tasks none s₁)
      (swept : Swept (TrackedGroup.refresh b) TrackedGroup.dueCalls (TrackedGroup.LookupFails b)
        u.groups s₁ calls' groups failure s') :
      PollCycle b u s (calls ++ calls') tasks groups failure s'

/-- What is asked to be cancelled when the unit is: every task, and every member of every group. -/
def cancelCalls (u : WorkUnit) : List Call :=
  (u.knownTasks ++ u.groups.flatMap TrackedGroup.members).map fun t => .cancel t.href

/-- The requests to cancel with which a call begins. -/
def requests : Request → WorkUnit → List Call
  | .run _, _ => []
  | .cancel, u => u.cancelCalls

/-- The remote after the requests to cancel with which a call begins. -/
def requested (r : Remote σ) : Request → WorkUnit → σ → σ
  | .run _, _, s => s
  | .cancel, u, s => u.cancelTracked r.backend s

theorem cancelTracked_noted (u : WorkUnit) (j : Journal σ) :
    u.cancelTracked r.journaled.backend j =
      ⟨u.cancelTracked r.backend j.state, j.contacts ++ u.cancelCalls.map .call⟩ := by
  unfold cancelTracked cancelCalls
  rw [TaskReport.cancelAll_noted, TrackedGroup.cancelAll_noted, List.append_assoc, List.map_map,
    List.map_append]
  rfl

theorem requested_noted (q : Request) (u : WorkUnit) (j : Journal σ) :
    u.requested r.journaled q j =
      ⟨u.requested r q j.state, j.contacts ++ (u.requests q).map .call⟩ := by
  match q with
  | .run _ =>
    unfold requests
    rw [List.map_nil, List.append_nil]
    rfl
  | .cancel => exact cancelTracked_noted r u j

theorem lookups_eq (q : Request) (u : WorkUnit) (s : σ) :
    u.lookups r q s = u.refresh r.backend (u.requested r q s) := by
  cases q <;> rfl

/-- A refresh of an initiated unit is one cycle. -/
theorem refresh_noted {u : WorkUnit} (initiated : u.isInitiated = true) (j : Journal σ) :
    ∃ calls tasks groups failure s',
      PollCycle r.backend u j.state calls tasks groups failure s' ∧
      u.refresh r.journaled.backend j =
        ({ u with tasks := some tasks, groups }, failure,
          ⟨s', j.contacts ++ calls.map .call⟩) := by
  obtain ⟨known, hknown⟩ := Option.isSome_iff_exists.mp initiated
  have kept (tasks : List TaskReport) : (u.tasks.map fun _ => tasks) = some tasks := by
    rw [hknown]
    rfl
  obtain ⟨calls, tasks, failure, s₁, sweptTasks, tasksLeft⟩ :=
    exists_swept (TaskReport.refresh_noted r) u.knownTasks j
  cases failure with
  | some e =>
    refine ⟨calls, tasks, u.groups, some e, s₁, .tasks sweptTasks, ?_⟩
    rw [refresh_of_task_error tasksLeft, kept]
  | none =>
    obtain ⟨calls', groups, failure, s', swept, groupsLeft⟩ :=
      exists_swept (TrackedGroup.refresh_noted r) u.groups ⟨s₁, j.contacts ++ calls.map .call⟩
    refine ⟨calls ++ calls', tasks, groups, failure, s', .groups sweptTasks swept, ?_⟩
    rw [refresh_of_tasks_ok tasksLeft, groupsLeft, kept, List.map_append, List.append_assoc]

/-- A poll neither asks the unit to cancel nor takes that back. -/
theorem poll_cancelRequested (u : WorkUnit) (s : σ) :
    (u.poll r s).1.unit.cancelRequested = u.cancelRequested := by
  have awake : u.awake.cancelRequested = u.cancelRequested := by
    unfold awake
    split <;> rfl
  have frame : (({ u.awake with polls := u.awake.polls.countPoll } : WorkUnit).refresh
      r.backend s).1.cancelRequested = u.cancelRequested :=
    (congrArg cancelRequested (refresh_frame r.backend _ s)).trans awake
  rw [poll_eq]
  generalize ({ u.awake with polls := u.awake.polls.countPoll } : WorkUnit).refresh
    r.backend s = outcome at frame
  obtain ⟨found, _ | e, s'⟩ := outcome
  · obtain ⟨_, moved⟩ :=
      review_moves r.operation.name { found with polls := found.polls.countSuccess }
    dsimp only
    rw [moved]
    exact frame
  · obtain ⟨_, moved⟩ := takeFailure_moves r.operation.name e found
    dsimp only
    rw [moved]
    unfold countedFailure
    split <;> exact frame

/-- What a call that asks something notes of the request to cancel. -/
theorem serve_cancelRequested {u : WorkUnit} (initiated : u.isInitiated = true) {q : Request}
    (asks : u.Asks q) (s : σ) :
    (u.serve r q s).1.unit.cancelRequested = (u.asked q).cancelRequested := by
  match q with
  | .run .skip => exact absurd rfl asks.notSkipped
  | .run .execute =>
    rw [serve, run_of_initiated r asks.isOpen s initiated]
    exact poll_cancelRequested r u s
  | .cancel =>
    rw [serve, cancel_of_initiated r asks.isOpen s initiated]
    exact poll_cancelRequested r (u.asked .cancel) _

/-- What lookups bring in has the tasks that they have left, and the groups behind which bare ones
are added if no error cut the lookups short. -/
theorem broughtIn_tracked (v : WorkUnit) (failure : Option OrchestrationError) (s : σ) :
    (broughtIn (v, failure, s)).1.tasks = v.tasks ∧
      ∃ hrefs, (broughtIn (v, failure, s)).1.groups = v.groups ++ hrefs.map .ofHref ∧
        (failure.isSome = true → hrefs = []) := by
  cases failure with
  | none => exact ⟨rfl, _, discover_groups v, nofun⟩
  | some e => exact ⟨rfl, [], (List.append_nil _).symm, fun _ => rfl⟩

/-- A call on an initiated unit, if it asks anything, makes the requests to cancel that it is for,
and then one cycle. It leaves the tasks and the groups of the cycle, and adds groups only if no
error has ended the cycle. -/
theorem attend_polls {u : WorkUnit} (initiated : u.isInitiated = true) {q : Request}
    (asks : u.Asks q) (s : σ) :
    ∃ calls tasks groups failure s',
      PollCycle r.backend u (u.requested r q s) calls tasks groups failure s' ∧
      (u.attend r q s).1.contacts = (u.requests q ++ calls).map .call ∧
      (u.attend r q s).2.2 = s' ∧ (u.attend r q s).2.1.tasks = some tasks ∧
      (∃ hrefs, (u.attend r q s).2.1.groups = groups ++ hrefs.map .ofHref ∧
        (failure.isSome = true → hrefs = [])) ∧
      (u.attend r q s).2.1.cancelRequested = (u.asked q).cancelRequested := by
  obtain ⟨calls, tasks, groups, failure, s', cycle, refreshed⟩ :=
    refresh_noted r initiated (u.requested r.journaled q { state := s })
  have looked : u.lookups r.journaled q { state := s } = _ :=
    (lookups_eq r.journaled q u _).trans refreshed
  rw [requested_noted] at cycle looked
  have left := serve_gathers r.journaled asks { state := s }
  have gathered : u.gathered r.journaled q { state := s } = _ := if_pos initiated
  rw [gathered, looked] at left
  obtain ⟨tasksKept, hrefs, groupsKept, added⟩ := broughtIn_tracked
    { u with tasks := some tasks, groups } failure
    (⟨s', ([] ++ (u.requests q).map .call) ++ calls.map .call⟩ : Journal σ)
  refine ⟨calls, tasks, groups, failure, s', cycle, ?_, ?_, left.1.tasks.trans tasksKept,
    ⟨hrefs, left.1.groups.trans groupsKept, added⟩,
    serve_cancelRequested r.journaled initiated asks _⟩
  · rw [List.map_append]
    cases failure <;> exact congrArg Journal.contacts left.2
  · cases failure <;> exact congrArg Journal.state left.2

/-- For every unit whose operation has answered and that has not ended, and whatever the remote
answers, the calls of a run are those of one cycle: the lookups of the tasks that are not done and
then of the groups that are not done, in order, up to the first call that fails. The unit is left
with the tasks and groups of the cycle, so that nothing has changed from the failed lookup on. If a
lookup failed no group is added, and whether the unit was asked to cancel stays as it was. -/
theorem run_polls_once {u : WorkUnit} (initiated : u.isInitiated = true)
    (isOpen : u.state.isFinal = false) (s : σ) :
    ∃ calls tasks groups failure s', PollCycle r.backend u s calls tasks groups failure s' ∧
      (u.attend r (.run .execute) s).1.contacts = calls.map .call ∧
      (u.attend r (.run .execute) s).2.2 = s' ∧
      (u.attend r (.run .execute) s).2.1.tasks = some tasks ∧
      (∃ hrefs, (u.attend r (.run .execute) s).2.1.groups = groups ++ hrefs.map .ofHref ∧
        (failure.isSome = true → hrefs = [])) ∧
      (u.attend r (.run .execute) s).2.1.cancelRequested = u.cancelRequested :=
  attend_polls r initiated (asks_of_run isOpen) s

/-- A remote for which every task is completed, and that does not tell the members of groups. -/
def secretiveRemote : Remote Unit where
  backend := {
    task := fun href s => (.ok { href, state := some "completed" }, s)
    group := fun href s => (.ok { href, memberHrefs := ["/tasks/3/"] }, s)
    members := fun href s => (.error (.transport "get_task_group_members" href "timed out"), s)
    cancel := fun _ s => (.ok (), s) }
  operation := { name := "sync", invoke := fun s => (.ok .empty, s) }

/-- A unit with a task that is done and one that is not, a group that is done and two that are
not. -/
def halfDoneUnit : WorkUnit where
  tasks := some [{ href := "/tasks/1/", state := some "completed" }, { href := "/tasks/2/" }]
  groups := [
    { href := "/groups/1/", members := [{ href := "/tasks/1/", done := some true }]
      resolved := true },
    .ofHref "/groups/2/", .ofHref "/groups/3/"]
  lifecycle := .ofState .suspended

/-- A run looks up what is not done, up to the members that it is not told. -/
theorem half_done_unit_polls_once :
    let calls : List Call := [.task "/tasks/2/", .group "/groups/2/", .members "/groups/2/"]
    let v := (halfDoneUnit.attend secretiveRemote (.run .execute) ()).2.1
    halfDoneUnit.isInitiated = true ∧ halfDoneUnit.state.isFinal = false ∧
      v.groups = halfDoneUnit.groups ∧
      ∃ tasks groups failure, v.tasks = some tasks ∧
        PollCycle secretiveRemote.backend halfDoneUnit () calls tasks groups failure () := by
  intro calls v
  have initiated : halfDoneUnit.isInitiated = true := by decide +kernel
  have isOpen : halfDoneUnit.state.isFinal = false := by decide +kernel
  have contacts : (halfDoneUnit.attend secretiveRemote (.run .execute) ()).1.contacts =
      calls.map .call := by decide +kernel
  obtain ⟨made, tasks, groups, failure, _, cycle, noted, -, tasksLeft, -⟩ :=
    run_polls_once secretiveRemote initiated isOpen ()
  obtain rfl : made = calls :=
    (List.map_inj_right fun _ _ same => Contact.call.inj same).mp (noted.symm.trans contacts)
  exact ⟨initiated, isOpen, by decide +kernel, tasks, groups, failure, tasksLeft, cycle⟩

end WorkUnit

end TaskOrchestration
