import TaskOrchestration.Proofs.WorkUnit.Completion
import TaskOrchestration.Proofs.WorkUnit.Discovery
import TaskOrchestration.Proofs.WorkUnit.Permanence

/-!
# A settled backend ends the unit within two polls

A backend is `Settled` when, from now on, everything it is asked about is over and went well. One
poll then leaves every task and every group that was tracked before done, whatever was known of
them (`refresh_of_settled`); the unit goes on only if the tasks have revealed a group that was not
tracked. The next poll finds the tasks as they are, so it reveals nothing more, and the unit ends.
`ends_within_two_runs` also says when the first poll is enough.
-/

namespace TaskOrchestration

variable {σ : Type}

/-- The task is over and went well. -/
structure TaskReport.Succeeded (t : TaskReport) : Prop where
  isDone : t.isDone = true
  clean : t.errorMessage? = none

/-- The group is over and went well. -/
structure TrackedGroup.Succeeded (g : TrackedGroup) : Prop where
  isDone : g.isDone = true
  clean : g.errorMessage? = none

/-! ## Settled backends -/

/-- What is reported of a group that is over: all of its tasks were dispatched, and its members are
over and went well, with every task that it names among them. -/
structure GroupReport.Concluded (report : GroupReport) (members : List TaskReport) : Prop where
  dispatched : report.allTasksDispatched ≠ some false
  nonempty : members ≠ []
  succeeded : ∀ m ∈ members, m.Succeeded
  named : ∀ href ∈ report.memberHrefs, ∃ m ∈ members, m.href = href

namespace Backend

/-- The states to which lookups lead from a state. -/
inductive Reaches (b : Backend σ) (s : σ) : σ → Prop
  | here : Reaches b s s
  | task {s' : σ} (href : String) : Reaches b s s' → Reaches b s (b.task href s').2
  | group {s' : σ} (href : String) : Reaches b s s' → Reaches b s (b.group href s').2
  | members {s' : σ} (href : String) : Reaches b s s' → Reaches b s (b.members href s').2

theorem Reaches.trans {b : Backend σ} {s s' s'' : σ} (h : b.Reaches s s')
    (h' : b.Reaches s' s'') : b.Reaches s s'' := by
  induction h' with
  | here => exact h
  | task href _ ih => exact ih.task href
  | group href _ ih => exact ih.group href
  | members href _ ih => exact ih.members href

/-- From this state on, whatever is looked up before, every task that is looked up is over and went
well, and so is every group whose members are looked up after it. -/
structure Settled (b : Backend σ) (s : σ) : Prop where
  task : ∀ s', b.Reaches s s' → ∀ href, ∃ t s₁, b.task href s' = (.ok t, s₁) ∧ t.Succeeded
  group : ∀ s', b.Reaches s s' → ∀ href, ∃ report members s₁ s₂,
    b.group href s' = (.ok report, s₁) ∧ b.members href s₁ = (.ok members, s₂) ∧
      report.Concluded members

/-- A settled backend stays so. -/
theorem Settled.later {b : Backend σ} {s s' : σ} (h : b.Settled s) (reaches : b.Reaches s s') :
    b.Settled s' where
  task s'' reaches' := h.task s'' (reaches.trans reaches')
  group s'' reaches' := h.group s'' (reaches.trans reaches')

end Backend

/-! ## Lookups -/

/-- What is known of a task without an error has succeeded once a success is reported of it. -/
theorem TaskReport.absorb_succeeded {known fresh : TaskReport} (clean : known.errorMessage? = none)
    (succeeded : fresh.Succeeded) : (known.absorb fresh).Succeeded := by
  unfold absorb
  split
  · next done => exact ⟨done, clean⟩
  -- A merge takes state, flag and error from the report.
  · exact ⟨succeeded.isDone, succeeded.clean⟩

theorem TaskReport.refresh_of_settled {b : Backend σ} {s : σ} (settled : b.Settled s)
    {t : TaskReport} (clean : t.errorMessage? = none) :
    ∃ t' s', t.refresh b s = (.ok t', s') ∧ t'.Succeeded ∧ b.Settled s' := by
  cases done : t.isDone with
  | true => exact ⟨t, s, t.refresh_of_isDone b done s, ⟨done, clean⟩, settled⟩
  | false =>
    obtain ⟨fresh, s', answered, succeeded⟩ := settled.task s .here t.href
    have reaches : b.Reaches s s' := by
      have looked := Backend.Reaches.here (b := b) (s := s) |>.task t.href
      rwa [answered] at looked
    refine ⟨t.absorb fresh, s', ?_, absorb_succeeded clean succeeded, settled.later reaches⟩
    unfold refresh
    rw [if_neg (by rw [done]; decide), answered]

namespace TrackedGroup

theorem absorbMember_succeeded {g : TrackedGroup} (clean : g.errorMessage? = none) {m : TaskReport}
    (succeeded : m.Succeeded) : (g.absorbMember m).Succeeded := by
  unfold absorbMember
  split
  · next known found =>
    have quiet := g.errorMessage?_eq_none_iff.mp clean known (member?_mem found).1
    exact TaskReport.absorb_succeeded quiet succeeded
  · exact succeeded

/-- What is known of a group without an error has succeeded once that is reported of it, whatever
was known of its members. -/
theorem absorb_succeeded {g : TrackedGroup} (clean : g.errorMessage? = none) {report : GroupReport}
    {members : List TaskReport} (concluded : report.Concluded members) :
    (g.absorb report members).Succeeded := by
  have succeeded : ∀ m ∈ (g.absorb report members).members, m.Succeeded := by
    intro m member
    obtain ⟨reported, among, rfl⟩ := List.mem_map.mp member
    exact absorbMember_succeeded clean (concluded.succeeded reported among)
  constructor
  · rw [isDone_iff]
    obtain ⟨first, among⟩ := List.exists_mem_of_ne_nil members concluded.nonempty
    refine ⟨rfl, ⟨_, List.mem_map_of_mem among⟩, concluded.dispatched,
      fun m member => (succeeded m member).isDone, fun href named => ?_⟩
    obtain ⟨m, member, same⟩ := concluded.named href named
    exact ⟨_, List.mem_map_of_mem member, (g.absorbMember_href m).trans same⟩
  · rw [errorMessage?_eq_none_iff]
    exact fun m member => (succeeded m member).clean

theorem refresh_of_settled {b : Backend σ} {s : σ} (settled : b.Settled s) {g : TrackedGroup}
    (clean : g.errorMessage? = none) :
    ∃ g' s', g.refresh b s = (.ok g', s') ∧ g'.Succeeded ∧ b.Settled s' := by
  cases done : g.isDone with
  | true => exact ⟨g, s, refresh_of_isDone b done s, ⟨done, clean⟩, settled⟩
  | false =>
    obtain ⟨report, members, s₁, s₂, answered, named, concluded⟩ := settled.group s .here g.href
    have reaches : b.Reaches s s₂ := by
      have looked := Backend.Reaches.here (b := b) (s := s) |>.group g.href |>.members g.href
      rwa [answered, named] at looked
    refine ⟨g.absorb report members, s₂, ?_, absorb_succeeded clean concluded,
      settled.later reaches⟩
    unfold refresh
    rw [if_neg (by rw [done]; decide), answered]
    dsimp only
    rw [named]

end TrackedGroup

namespace WorkUnit

/-- A refresh with a settled backend meets no error, and leaves everything that is tracked over and
well. -/
theorem refresh_of_settled {b : Backend σ} {u : WorkUnit} {s : σ} (settled : b.Settled s)
    (clean : u.watchlist.reportedError? = none) :
    ∃ found s', u.refresh b s = (found, none, s') ∧ (∀ t ∈ found.knownTasks, t.Succeeded) ∧
      (∀ g ∈ found.groups, g.Succeeded) ∧ b.Settled s' := by
  obtain ⟨tasksClean, groupsClean⟩ := u.reportedError?_eq_none_iff.mp clean
  obtain ⟨tasks, s₁, swept, tasksSucceeded, settled₁⟩ :=
    sweep_ok (P := fun t => TaskReport.errorMessage? t = none)
      (fun _ _ quiet settled => TaskReport.refresh_of_settled settled quiet) tasksClean settled
  obtain ⟨groups, s₂, sweptGroups, groupsSucceeded, settled₂⟩ :=
    sweep_ok (P := fun g => TrackedGroup.errorMessage? g = none)
      (fun _ _ quiet settled => TrackedGroup.refresh_of_settled settled quiet) groupsClean settled₁
  refine ⟨_, s₂, by rw [refresh_of_tasks_ok swept, sweptGroups], fun t known => ?_,
    groupsSucceeded, settled₂⟩
  cases before : u.tasks with
  | none => rw [knownTasks, before] at known; exact absurd known List.not_mem_nil
  | some old => rw [knownTasks, before] at known; exact tasksSucceeded t known

/-! ## Runs -/

/-- When all that is tracked is over, the unit is done after discovery unless a group is new. -/
theorem isDone_discover_iff {u : WorkUnit} (initiated : u.isInitiated = true)
    (tasks : ∀ t ∈ u.knownTasks, t.Succeeded) (groups : ∀ g ∈ u.groups, g.Succeeded) :
    u.discover.isDone = true ↔ ∀ href ∈ u.revealed, href ∈ u.groupHrefs := by
  constructor
  · intro done href revealed
    refine Classical.byContradiction fun fresh => ?_
    have added : .ofHref href ∈ u.discover.groups := by
      rw [discover_groups]
      exact List.mem_append_right _ (List.mem_map_of_mem (mem_unknownAmong.mpr ⟨revealed, fresh⟩))
    rw [isDone_of_bare_group added] at done
    cases done
  · intro known
    have none : unknownAmong u.groupHrefs u.revealed = [] :=
      List.eq_nil_iff_forall_not_mem.mpr fun href added =>
        (mem_unknownAmong.mp added).2 (known href (mem_unknownAmong.mp added).1)
    rw [isDone_iff]
    refine ⟨initiated, fun t ht => (tasks t ht).isDone, fun g hg => ?_⟩
    rw [discover_groups, none, List.map_nil, List.append_nil] at hg
    exact (groups g hg).isDone

/-- A call that nothing interrupts and that leaves no error says whether the unit is done, and
suspends it if not. -/
theorem Ending.of_clean {w v : WorkUnit} {answer : Except OrchestrationError Outcome}
    (ends : Ending w none answer v) (clean : v.watchlist.reportedError? = none) :
    (answer = .ok .done ∧ v.isDone = true) ∨
      ((∃ delay, answer = .ok (.suspend delay)) ∧ v.isDone = false ∧ v.state = .suspended) := by
  cases ends with
  | reported found =>
    rw [stoppedBy_watchlist, found] at clean
    cases clean
  | done _ isDone => exact .inl ⟨rfl, isDone⟩
  | waiting _ notDone => exact .inr ⟨⟨_, rfl⟩, notDone, rfl⟩

/-- What a run leaves of a unit whose backend is settled. -/
structure Advanced (u v : WorkUnit) : Prop where
  initiated : v.isInitiated = true
  tasks : ∀ t ∈ v.knownTasks, t.Succeeded
  clean : v.watchlist.reportedError? = none
  /-- Every group that a task names is tracked. -/
  tracked : ∀ href ∈ v.revealed, href ∈ v.groupHrefs
  /-- There is something left to wait for only if one of these groups is new. -/
  isDone_iff : v.isDone = true ↔ ∀ href ∈ v.revealed, href ∈ u.groupHrefs

/-- Discovery after lookups that leave everything over and well advances the unit. -/
theorem Advanced.of_found {u found v : WorkUnit} (initiated : found.isInitiated = true)
    (groupHrefs : found.groupHrefs = u.groupHrefs) (tasks : ∀ t ∈ found.knownTasks, t.Succeeded)
    (groups : ∀ g ∈ found.groups, g.Succeeded) (sameTasks : v.tasks = found.tasks)
    (sameGroups : v.groups = found.discover.groups) : Advanced u v := by
  have knownTasks := knownTasks_congr sameTasks
  have revealed : v.revealed = found.revealed :=
    congrArg (List.filterMap TaskReport.taskGroupHref) knownTasks
  constructor
  · exact (congrArg Option.isSome sameTasks).trans initiated
  · rw [knownTasks]
    exact tasks
  · rw [reportedError?_eq_none_iff, knownTasks, sameGroups, discover_groups]
    refine ⟨fun t ht => (tasks t ht).clean, fun g hg => ?_⟩
    rcases List.mem_append.mp hg with old | new
    · exact (groups g old).clean
    · obtain ⟨href, -, rfl⟩ := List.mem_map.mp new
      rfl
  · intro href named
    rw [revealed] at named
    rw [groupHrefs_congr sameGroups]
    exact mem_discover_groupHrefs named
  · rw [isDone_congr (v := found.discover) sameTasks sameGroups, revealed, ← groupHrefs]
    exact isDone_discover_iff initiated tasks groups

/-- A run with a settled backend advances the unit and says whether it is done. -/
theorem run_of_settled {r : Remote σ} {u : WorkUnit} {s : σ} (settled : r.backend.Settled s)
    (initiated : u.isInitiated = true) (awaiting : u.state.awaitsBackend = true)
    (clean : u.watchlist.reportedError? = none) :
    let ran := u.serve r (.run .execute) s
    Advanced u ran.1.unit ∧ r.backend.Settled ran.2 ∧
      ((ran.1.result = .ok .done ∧ ran.1.unit.isDone = true) ∨
        ((∃ delay, ran.1.result = .ok (.suspend delay)) ∧ ran.1.unit.isDone = false ∧
          ran.1.unit.state = .suspended)) := by
  intro ran
  obtain ⟨found, s', looked, tasks, groups, settled'⟩ := refresh_of_settled settled clean
  obtain ⟨answered, gathered⟩ := gathered_of_found (q := .run .execute) initiated looked
  have foundInitiated := refresh_isInitiated r.backend u s
  have groupHrefs := refresh_groupHrefs r.backend u s
  rw [looked] at foundInitiated groupHrefs
  obtain ⟨kept, left⟩ := serve_gathers r (asks_of_run (isFinal_of_awaiting awaiting)) s
  obtain ⟨w, -, ends, -⟩ := serve_of_awaiting r initiated awaiting (q := .run .execute) nofun s
  rw [gathered] at kept left
  rw [answered] at ends
  have advanced : Advanced u ran.1.unit :=
    .of_found (foundInitiated.trans initiated) groupHrefs tasks groups kept.tasks kept.groups
  exact ⟨advanced, left ▸ settled', ends.of_clean advanced.clean⟩

/-- A run with a settled backend ends a unit whose tasks are done and name only tracked groups. -/
theorem run_ends_of_settled {r : Remote σ} {u : WorkUnit} {s : σ} (settled : r.backend.Settled s)
    (initiated : u.isInitiated = true) (awaiting : u.state.awaitsBackend = true)
    (clean : u.watchlist.reportedError? = none) (tasksDone : ∀ t ∈ u.knownTasks, t.isDone = true)
    (tracked : ∀ href ∈ u.revealed, href ∈ u.groupHrefs) :
    (u.serve r (.run .execute) s).1.result = .ok .done := by
  obtain ⟨advanced, -, ends⟩ := run_of_settled settled initiated awaiting clean
  -- The run finds the tasks as they are, so they name no other groups than before.
  have kept := KeepsFinished.serve r (.run .execute) u s
  have same := kept.tasks.eq_of_done (kept.count initiated) tasksDone
  have revealed : (u.serve r (.run .execute) s).1.unit.revealed = u.revealed :=
    congrArg (List.filterMap TaskReport.taskGroupHref) same
  have isDone := advanced.isDone_iff.mpr (revealed ▸ tracked)
  rcases ends with ⟨done, -⟩ | ⟨-, notDone, -⟩
  · exact done
  · rw [isDone] at notDone
    cases notDone

/-- For every unit that tracks tasks, is suspended or at work, and knows of no error, whatever else
was known of its tasks and groups and however often it has polled: once the backend is settled, a
run says that the unit is done, or suspends it and the next run says so. The first run is enough
exactly when its tasks then name no group that was not tracked before. -/
theorem ends_within_two_runs {r : Remote σ} {u : WorkUnit} {s : σ} (settled : r.backend.Settled s)
    (initiated : u.isInitiated = true) (awaiting : u.state = .running ∨ u.state = .suspended)
    (clean : u.watchlist.reportedError? = none) :
    let first := u.serve r (.run .execute) s
    let second := first.1.unit.serve r (.run .execute) first.2
    (first.1.result = .ok .done ∨
      (∃ delay, first.1.result = .ok (.suspend delay)) ∧ second.1.result = .ok .done) ∧
    (first.1.result = .ok .done ↔ ∀ t ∈ first.1.unit.knownTasks, ∀ href,
      t.taskGroupHref = some href → ∃ g ∈ u.groups, g.href = href) := by
  intro first second
  obtain ⟨advanced, settled', ends⟩ :=
    run_of_settled settled initiated (awaitsBackend_iff.mpr awaiting) clean
  have named : (∀ href ∈ first.1.unit.revealed, href ∈ u.groupHrefs) ↔
      ∀ t ∈ first.1.unit.knownTasks, ∀ href, t.taskGroupHref = some href →
        ∃ g ∈ u.groups, g.href = href := by
    simp only [revealed, groupHrefs, List.mem_filterMap, List.mem_map]
    constructor
    · exact fun known t ht href names => known href ⟨t, ht, names⟩
    · rintro known href ⟨t, ht, names⟩
      exact known t ht href names
  rw [← named, ← advanced.isDone_iff]
  rcases ends with ⟨done, isDone⟩ | ⟨⟨delay, suspended⟩, notDone, state⟩
  · exact ⟨.inl done, fun _ => isDone, fun _ => done⟩
  · have later : second.1.result = .ok .done :=
      run_ends_of_settled settled' advanced.initiated (awaitsBackend_iff.mpr (.inr state))
        advanced.clean (fun t ht => (advanced.tasks t ht).isDone) advanced.tracked
    refine ⟨.inr ⟨⟨delay, suspended⟩, later⟩, fun done => ?_, fun isDone => ?_⟩
    · rw [suspended] at done
      cases done
    · rw [notDone] at isDone
      cases isDone

end WorkUnit

/-- The remote on which every task is completed. Each task belongs to one group of one member. -/
def Remote.finished : Remote Unit where
  backend := {
    task := fun href s =>
      (.ok { href, state := some "completed", taskGroupHref := some "/groups/2/" }, s)
    group := fun href s => (.ok { href, memberHrefs := ["/tasks/3/"] }, s)
    members := fun _ s => (.ok [{ href := "/tasks/3/", state := some "completed" }], s)
    cancel := fun _ s => (.ok (), s) }
  operation := { name := "import", invoke := fun s => (.ok .empty, s) }

/-- It is settled from the start. -/
theorem Remote.finished_settled : Remote.finished.backend.Settled () where
  task _ _ href := ⟨_, (), rfl, ⟨rfl, rfl⟩⟩
  group _ _ href := by
    refine ⟨{ href, memberHrefs := ["/tasks/3/"] },
      [{ href := "/tasks/3/", state := some "completed" }], (), (), rfl, rfl, nofun, nofun,
      fun m member => ?_, fun named among => ?_⟩
    · rw [List.mem_singleton.mp member]
      exact ⟨rfl, rfl⟩
    · exact ⟨_, List.mem_singleton_self _, (List.mem_singleton.mp among).symm⟩

namespace WorkUnit

/-- A unit that was told of a running task and of a group with a member that has vanished since
needs both runs, because its task belongs to another group. -/
theorem ends_within_two_runs_outdated :
    let r := Remote.finished
    let u : WorkUnit := {
      tasks := some [{ href := "/tasks/1/", state := some "running" }]
      groups := [{
        href := "/groups/1/", memberHrefs := ["/tasks/2/"], allTasksDispatched := some false
        members := [{ href := "/tasks/2/", done := some false }], resolved := true }]
      polls := { total := 4294967295, failed := 9 }, lifecycle := .ofState .running }
    let first := u.serve r (.run .execute) ()
    let second := first.1.unit.serve r (.run .execute) first.2
    r.backend.Settled () ∧ u.isInitiated = true ∧ u.state = .running ∧
      u.watchlist.reportedError? = none ∧
      (∃ delay, first.1.result = .ok (.suspend delay)) ∧ second.1.result = .ok .done := by
  intro r u first second
  let task : TaskReport := {
    href := "/tasks/1/", state := some "completed", taskGroupHref := some "/groups/2/" }
  have initiated : u.isInitiated = true := rfl
  have running : u.state = .running := rfl
  have clean : u.watchlist.reportedError? = none := by decide +kernel
  have untracked : ∀ g ∈ u.groups, g.href ≠ "/groups/2/" := by decide +kernel
  have found : task ∈ first.1.unit.knownTasks := by decide +kernel
  -- From here on it does not matter which unit this is.
  clear_value u
  obtain ⟨ended, enough⟩ :=
    ends_within_two_runs Remote.finished_settled initiated (.inl running) clean
  have unfinished : first.1.result ≠ .ok .done := by
    intro done
    obtain ⟨g, tracked, same⟩ := enough.mp done task found "/groups/2/" rfl
    exact untracked g tracked same
  exact ⟨Remote.finished_settled, initiated, running, clean, ended.resolve_left unfinished⟩

end WorkUnit

end TaskOrchestration
