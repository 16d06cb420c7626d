import TaskOrchestration.Proofs.Backend.Scripted
import TaskOrchestration.Proofs.WorkUnit.Chronicles
import TaskOrchestration.Proofs.WorkUnit.Settling

/-!
# A cancellation that is honoured is confirmed at once

A call to cancel asks for the end of every task before it looks any of them up. When the backend
honours that, each lookup finds its task over (`sweep_of_confirmed`), so the same call ends the unit
(`cancel_honored`). The hypotheses are on what is scripted for each task alone: what one request or
lookup does has no effect on the other tasks.
-/

namespace TaskOrchestration

open ScriptedBackend (Confirms Spares)

/-- What is known of a plain task is plain and over once a plain report says that it is over. -/
theorem TaskReport.Plain.absorb {known fresh : TaskReport} (h : known.Plain) (plain : fresh.Plain)
    (isDone : fresh.isDone = true) :
    (known.absorb fresh).isDone = true ∧ (known.absorb fresh).Plain := by
  have succeeded := absorb_succeeded h.clean ⟨isDone, plain.clean⟩
  refine ⟨succeeded.isDone, succeeded.clean, ?_⟩
  unfold TaskReport.absorb
  split
  · exact h.ungrouped
  · show (fresh.taskGroupHref <|> known.taskGroupHref) = none
    rw [plain.ungrouped, h.ungrouped]
    rfl

/-- A refresh of a task that is over at the backend finds it so, without effect on others. -/
theorem TaskReport.refresh_of_confirmed {t : TaskReport} {s : Recorded ScriptedBackend}
    (plain : t.Plain) (confirmed : s.state.Confirms t.href) :
    ∃ t' s', t.refresh ScriptedBackend.backend.recorded s = (.ok t', s') ∧
      (t'.isDone = true ∧ t'.Plain) ∧
      ∀ other, other ≠ t.href → Spares other s.state s'.state := by
  cases done : t.isDone with
  | true =>
    exact ⟨t, s, t.refresh_of_isDone _ done s, ⟨done, plain⟩, fun other _ => .refl other s.state⟩
  | false =>
    obtain ⟨fresh, s', answered, isDone, freshPlain, spares⟩ := confirmed.task
    refine ⟨t.absorb fresh, ⟨s', s.calls ++ [.task t.href]⟩, ?_, plain.absorb freshPlain isDone,
      spares⟩
    have asked : ScriptedBackend.backend.recorded.task t.href s =
        ((s.state.task t.href).1, ⟨(s.state.task t.href).2, s.calls ++ [.task t.href]⟩) := rfl
    unfold refresh
    rw [if_neg (by rw [done]; decide), asked, answered]

/-- Lookups of different tasks, each of which is over at the backend, find them all so. -/
theorem sweep_of_confirmed {tasks : List TaskReport} {s : Recorded ScriptedBackend}
    (distinct : (tasks.map TaskReport.href).Nodup) (plain : ∀ t ∈ tasks, t.Plain)
    (confirmed : ∀ t ∈ tasks, s.state.Confirms t.href) :
    ∃ tasks' s', sweep (TaskReport.refresh ScriptedBackend.backend.recorded) tasks s =
      (tasks', none, s') ∧ ∀ t ∈ tasks', t.isDone = true ∧ t.Plain := by
  induction tasks generalizing s with
  | nil => exact ⟨[], s, rfl, fun _ member => absurd member List.not_mem_nil⟩
  | cons t rest ih =>
    obtain ⟨fresh, distinct⟩ := List.nodup_cons.mp distinct
    obtain ⟨firstPlain, plain⟩ := List.forall_mem_cons.mp plain
    obtain ⟨first, others⟩ := List.forall_mem_cons.mp confirmed
    obtain ⟨t', s₁, refreshed, ended, spares⟩ := t.refresh_of_confirmed firstPlain first
    have still : ∀ t' ∈ rest, s₁.state.Confirms t'.href := fun t' member =>
      have another : t'.href ≠ t.href := fun same => fresh (same ▸ List.mem_map_of_mem member)
      (others t' member).spared (spares t'.href another)
    obtain ⟨rest', s₂, swept, allEnded⟩ := ih distinct plain still
    refine ⟨t' :: rest', s₂, ?_, List.forall_mem_cons.mpr ⟨ended, allEnded⟩⟩
    unfold sweep
    rw [refreshed]
    dsimp only
    rw [swept]

namespace WorkUnit

section Plain

variable {u : WorkUnit} {tasks : List TaskReport}

/-- Tasks that name no group reveal nothing. -/
theorem discover_of_plain (known : u.tasks = some tasks) (plain : ∀ t ∈ tasks, t.Plain) :
    u.discover = u := by
  have knownTasks := knownTasks_of_some known
  have nothing : u.knownTasks.filterMap TaskReport.taskGroupHref = [] := by
    rw [knownTasks]
    exact List.filterMap_eq_nil_iff.mpr fun t member => (plain t member).ungrouped
  unfold discover
  rw [nothing]
  rfl

/-- A unit that tracks no groups is done and knows of no error if its tasks are over and plain. -/
theorem finished_of_plain (known : u.tasks = some tasks) (noGroups : u.groups = [])
    (ended : ∀ t ∈ tasks, t.isDone = true ∧ t.Plain) :
    u.isDone = true ∧ u.watchlist.reportedError? = none := by
  have knownTasks := knownTasks_of_some known
  rw [isDone_iff, reportedError?_eq_none_iff, knownTasks, noGroups]
  exact ⟨⟨congrArg Option.isSome known, fun t member => (ended t member).1,
    fun _ member => absurd member List.not_mem_nil⟩,
    fun t member => (ended t member).2.clean, fun _ member => absurd member List.not_mem_nil⟩

end Plain

variable {u : WorkUnit} {s : Recorded ScriptedBackend} {tasks : List TaskReport}

/-- The lookups of a call to cancel find every task over when the backend honours the requests
before them. -/
theorem lookups_of_honored (r : Remote (Recorded ScriptedBackend))
    (scripted : r.backend = ScriptedBackend.backend.recorded) (known : u.tasks = some tasks)
    (noGroups : u.groups = []) (distinct : (tasks.map TaskReport.href).Nodup)
    (plain : ∀ t ∈ tasks, t.Plain) (honors : s.state.honorsCancel = true)
    (cancellable : ∀ t ∈ tasks, s.state.Cancellable t.href) :
    ∃ tasks' s', u.lookups r .cancel s = ({ u with tasks := some tasks' }, none, s') ∧
      ∀ t ∈ tasks', t.isDone = true ∧ t.Plain := by
  have knownTasks := knownTasks_of_some known
  have asked : u.cancelTracked r.backend s =
      TaskReport.cancelAll ScriptedBackend.backend.recorded u.knownTasks s := by
    unfold cancelTracked
    rw [scripted, noGroups]
    rfl
  obtain ⟨tasks', s', swept, ended⟩ := sweep_of_confirmed distinct plain
    (ScriptedBackend.cancelAll_confirms honors distinct cancellable)
  rw [← knownTasks] at swept
  refine ⟨tasks', s', ?_, ended⟩
  rw [lookups, asked, scripted, refresh_of_tasks_ok swept, known, noGroups]
  rfl

/-- For every unit that is suspended, tracks no groups, and knows of no error and no group of its
tasks, which have different references: when each of them has a script without errors and groups on
a scripted backend that honours requests to cancel, and none of these requests is refused and none
of the lookups is set to fail, then a call to cancel says that all is done. It leaves the unit
cancelled with all of its tasks done, and nothing that is done with the unit later calls the
backend. -/
theorem cancel_honored (operation : ExternalOperation (Recorded ScriptedBackend))
    (suspended : u.state = .suspended) (known : u.tasks = some tasks) (noGroups : u.groups = [])
    (distinct : (tasks.map TaskReport.href).Nodup) (plain : ∀ t ∈ tasks, t.Plain)
    (honors : s.state.honorsCancel = true)
    (cancellable : ∀ t ∈ tasks, s.state.Cancellable t.href) :
    let r : Remote _ := { backend := ScriptedBackend.backend.recorded, operation }
    let ended := u.serve r .cancel s
    ended.1.result = .ok .done ∧ ended.1.unit.state = .cancelled ∧
      ended.1.unit.knownTasks.length = tasks.length ∧
      (∀ t ∈ ended.1.unit.knownTasks, t.isDone = true) ∧
      ∀ moves, ∃ episodes v, chronicle r moves ended.1.unit ended.2 = .ok (episodes, v, ended.2) := by
  intro r ended
  have initiated : u.isInitiated = true := congrArg Option.isSome known
  have awaiting : u.state.awaitsBackend = true := by rw [suspended]; rfl
  have asks : u.Asks .cancel :=
    asks_of_initiated (isFinal_of_awaiting awaiting) initiated nofun
  obtain ⟨tasks', s', looked, finished⟩ :=
    lookups_of_honored r rfl known noGroups distinct plain honors cancellable
  obtain ⟨answered, gathered⟩ := gathered_of_found initiated looked
  have undiscovered : ({ u with tasks := some tasks' } : WorkUnit).discover = _ :=
    discover_of_plain rfl fun t member => (finished t member).2
  rw [undiscovered] at gathered
  have kept := (serve_gathers r asks s).1
  rw [gathered] at kept
  obtain ⟨isDone, clean⟩ := finished_of_plain kept.tasks (kept.groups.trans noGroups) finished
  obtain ⟨w, judged, ends, -⟩ := serve_of_awaiting r initiated awaiting asks.notSkipped s
  rw [answered] at ends
  have done : ended.1.result = .ok .done := by
    rcases ends.of_clean clean with ⟨done, -⟩ | ⟨-, notDone, -⟩
    · exact done
    · rw [isDone] at notDone
      cases notDone
  have requested : ended.1.unit.cancelRequested = true :=
    ends.cancelRequested.trans judged.cancelRequested
  have state : ended.1.unit.state = .cancelled := by
    rw [ends.state_of_done done, requested]
    rfl
  have count := (KeepsFinished.serve r .cancel u s).count initiated
  rw [knownTasks_of_some known] at count
  refine ⟨done, state, count, ((isDone_iff _).mp isDone).2.1, fun moves => ?_⟩
  obtain ⟨episodes, v, told, -⟩ := chronicle_of_final r moves (by rw [state]; rfl) ended.2
  exact ⟨episodes, v, told⟩

/-- Three tasks that are cancelled in the same call: one would have gone on for a while, nothing is
scripted for another, and the third is over at the backend, which the unit does not know yet. -/
theorem cancel_honored_in_all_ways :
    let tasks : List TaskReport := [{ href := "/tasks/1/" }, { href := "/tasks/2/" },
      { href := "/tasks/3/", state := some "running" }]
    let running : TaskReport := { href := "/tasks/1/", state := some "running" }
    let completed : TaskReport := { href := "/tasks/3/", state := some "completed" }
    let scripted : ScriptedBackend := ({ honorsCancel := true } : ScriptedBackend)
      |>.setTask "/tasks/1/" [running, running, running]
      |>.setTask "/tasks/2/" []
      |>.setTask "/tasks/3/" [completed, running]
    let u := ofRecord {} { tasks := some tasks, state := .suspended }
    let s : Recorded ScriptedBackend := { state := scripted }
    let operation : ExternalOperation (Recorded ScriptedBackend) :=
      { name := "import", invoke := fun s => (.ok (.many []), s) }
    let r : Remote _ := { backend := ScriptedBackend.backend.recorded, operation }
    let ended := u.serve r .cancel s
    (u.state = .suspended ∧ u.tasks = some tasks ∧ u.groups = [] ∧
      (tasks.map TaskReport.href).Nodup ∧ (∀ t ∈ tasks, t.Plain) ∧ s.state.honorsCancel = true ∧
      ∀ t ∈ tasks, s.state.Cancellable t.href) ∧
    ended.1.result = .ok .done ∧ ended.1.unit.state = .cancelled ∧
      ended.1.unit.knownTasks.length = 3 ∧ (∀ t ∈ ended.1.unit.knownTasks, t.isDone = true) ∧
      ∀ moves, ∃ episodes v, chronicle r moves ended.1.unit ended.2 = .ok (episodes, v, ended.2) := by
  intro tasks running completed scripted u s operation r ended
  have distinct : (tasks.map TaskReport.href).Nodup := by decide
  have none (t : TaskReport) (member : t ∈ []) : t.Plain := absurd member List.not_mem_nil
  have plain : ∀ t ∈ tasks, t.Plain := by
    simp only [tasks, List.forall_mem_cons]
    exact ⟨⟨rfl, rfl⟩, ⟨rfl, rfl⟩, ⟨rfl, rfl⟩, none⟩
  have first : s.state.Cancellable "/tasks/1/" := by
    refine ⟨nofun, rfl, [running, running, running], rfl, ?_⟩
    simp only [List.forall_mem_cons]
    exact ⟨⟨rfl, rfl⟩, ⟨rfl, rfl⟩, ⟨rfl, rfl⟩, none⟩
  have second : s.state.Cancellable "/tasks/2/" := ⟨nofun, rfl, [], rfl, none⟩
  have third : s.state.Cancellable "/tasks/3/" := by
    refine ⟨nofun, rfl, [completed, running], rfl, ?_⟩
    simp only [List.forall_mem_cons]
    exact ⟨⟨rfl, rfl⟩, ⟨rfl, rfl⟩, none⟩
  have cancellable : ∀ t ∈ tasks, s.state.Cancellable t.href := by
    simp only [tasks, List.forall_mem_cons]
    exact ⟨first, second, third, fun _ member => absurd member List.not_mem_nil⟩
  have suspended : u.state = .suspended := rfl
  have known : u.tasks = some tasks := rfl
  have noGroups : u.groups = [] := rfl
  have honors : s.state.honorsCancel = true := rfl
  -- From here on it does not matter which unit and which scripts these are.
  clear_value u s
  exact ⟨⟨suspended, known, noGroups, distinct, plain, honors, cancellable⟩,
    cancel_honored operation suspended known noGroups distinct plain honors cancellable⟩

end WorkUnit

end TaskOrchestration
