import TaskOrchestration.Backend.Scripted
import TaskOrchestration.Task.Tracking

/-!
# What the scripted backend makes of requests to cancel

A backend that honours requests to cancel has, after one for a task with a harmless script, nothing
to say of that task but that it is over (`Cancellable.cancel`), and later requests change nothing
of that (`Confirms.cancel`). As no request and no lookup touches what is scripted for another task
(`cancel_spares`, `Confirms.task`), this goes for any number of tasks at once
(`cancelAll_confirms`).
-/

namespace TaskOrchestration

namespace TaskReport

/-- The report has no error message and names no group. -/
structure Plain (t : TaskReport) : Prop where
  clean : t.errorMessage? = none
  ungrouped : t.taskGroupHref = none

/-- A plain report stays so when its task is cancelled. -/
theorem Plain.canceled {t : TaskReport} (h : t.Plain) :
    ({ t with state := some TaskState.canceled, done := some true } : TaskReport).Plain where
  clean := by
    have clean := h.clean
    unfold errorMessage? at clean ⊢
    dsimp only
    cases described : t.error.bind TaskError.description? with
    | none => rfl
    | some message => rw [described] at clean; cases clean
  ungrouped := h.ungrouped

end TaskReport

theorem takeNext_cons {α : Type} (a : α) (rest : List α) :
    ∃ left, takeNext (a :: rest) = some (a, left) := by
  cases rest with
  | nil => exact ⟨[a], rfl⟩
  | cons b rest => exact ⟨b :: rest, rfl⟩

namespace ScriptedBackend

/-- No lookup of the reference is set to fail. -/
def Online (s : ScriptedBackend) (href : String) : Prop :=
  ∀ n, s.outages.get? href = some n → n = 0

/-- The next lookup of the task succeeds and says that the task is over and nothing else. -/
structure Confirms (s : ScriptedBackend) (href : String) : Prop where
  online : s.Online href
  script : ∃ report rest, s.taskScripts.get? href = some (report :: rest) ∧
    report.isDone = true ∧ report.Plain

/-- A request to cancel the task is not refused, and there is no harm in its script. -/
structure Cancellable (s : ScriptedBackend) (href : String) : Prop where
  online : s.Online href
  accepted : s.refusals.get? href = none
  script : ∃ script, s.taskScripts.get? href = some script ∧ ∀ report ∈ script, report.Plain

/-- Nothing that concerns the task has changed. -/
structure Spares (href : String) (s s' : ScriptedBackend) : Prop where
  script : s'.taskScripts.get? href = s.taskScripts.get? href
  outage : s'.outages.get? href = s.outages.get? href
  refusal : s'.refusals.get? href = s.refusals.get? href

variable {s s' : ScriptedBackend} {href other : String}

theorem Spares.refl (href : String) (s : ScriptedBackend) : Spares href s s := ⟨rfl, rfl, rfl⟩

theorem Confirms.spared (h : s.Confirms href) (spares : Spares href s s') : s'.Confirms href where
  online := by
    unfold Online
    rw [spares.outage]
    exact h.online
  script := by
    rw [spares.script]
    exact h.script

theorem Cancellable.spared (h : s.Cancellable href) (spares : Spares href s s') :
    s'.Cancellable href where
  online := by
    unfold Online
    rw [spares.outage]
    exact h.online
  accepted := by
    rw [spares.refusal]
    exact h.accepted
  script := by
    rw [spares.script]
    exact h.script

/-- Another script for one task leaves all others as they are. -/
theorem setTask_spares (s : ScriptedBackend) (states : List TaskReport) (another : href ≠ other) :
    Spares href s (s.setTask other states) where
  script := by
    show (s.taskScripts.insert other states).get? href = _
    rw [Dictionary.get?_insert, if_neg another]
  outage := rfl
  refusal := rfl

/-! ## Requests to cancel -/

theorem settleCancelled_spares (s : ScriptedBackend) (another : href ≠ other) :
    Spares href s (s.settleCancelled other) := by
  unfold settleCancelled
  split
  · exact .refl href s
  · dsimp only
    split
    · exact .refl href s
    · exact setTask_spares s _ another

theorem cancel_spares (s : ScriptedBackend) (another : href ≠ other) :
    Spares href s (s.cancel other).2 := by
  unfold cancel
  split
  · exact .refl href s
  · dsimp only
    split
    · exact settleCancelled_spares s another
    · exact .refl href s

theorem cancel_honorsCancel (s : ScriptedBackend) (href : String) :
    (s.cancel href).2.honorsCancel = s.honorsCancel := by
  unfold cancel settleCancelled
  dsimp only
  repeat' split
  all_goals rfl

/-- A request that is honoured leaves its task over, whatever the script had in store. -/
theorem Cancellable.cancel (h : s.Cancellable href) (honors : s.honorsCancel = true) :
    (s.cancel href).2.Confirms href := by
  obtain ⟨script, scripted, plain⟩ := h.script
  have settled : (s.cancel href).2 = s.settleCancelled href := by
    unfold ScriptedBackend.cancel
    rw [h.accepted, honors]
    rfl
  rw [settled]
  unfold settleCancelled
  rw [scripted]
  dsimp only
  split
  · next isDone =>
    -- Only a task with a next state is done already; an empty script stands for one that is not.
    cases script with
    | nil => cases isDone
    | cons report rest =>
      exact ⟨h.online, report, rest, scripted, isDone, plain report List.mem_cons_self⟩
  · have current : (script.head?.getD { href }).Plain := by
      cases script with
      | nil => exact ⟨rfl, rfl⟩
      | cons report rest => exact plain report List.mem_cons_self
    refine ⟨h.online, _, [], ?_, rfl, current.canceled⟩
    show (s.taskScripts.insert href _).get? href = _
    rw [Dictionary.get?_insert, if_pos rfl]

/-- No request to cancel changes what is to be said of a task that is over. -/
theorem Confirms.cancel (h : s.Confirms href) (other : String) :
    (s.cancel other).2.Confirms href := by
  by_cases same : href = other
  · subst same
    obtain ⟨report, rest, scripted, isDone, -⟩ := h.script
    have settled : s.settleCancelled href = s := by
      unfold settleCancelled
      rw [scripted]
      exact if_pos isDone
    unfold ScriptedBackend.cancel
    rw [settled, ite_self]
    split <;> exact h
  · exact h.spared (cancel_spares s same)

theorem cancelAll_keeps {s : Recorded ScriptedBackend} (h : s.state.Confirms href)
    (tasks : List TaskReport) :
    (TaskReport.cancelAll backend.recorded tasks s).state.Confirms href := by
  induction tasks generalizing s with
  | nil => exact h
  | cons t rest ih => exact ih (s := t.cancel backend.recorded s) (h.cancel t.href)

/-- Requests to cancel different tasks leave each of them over. -/
theorem cancelAll_confirms {tasks : List TaskReport} {s : Recorded ScriptedBackend}
    (honors : s.state.honorsCancel = true) (distinct : (tasks.map TaskReport.href).Nodup)
    (cancellable : ∀ t ∈ tasks, s.state.Cancellable t.href) :
    ∀ t ∈ tasks, (TaskReport.cancelAll backend.recorded tasks s).state.Confirms t.href := by
  induction tasks generalizing s with
  | nil => exact fun _ member => absurd member List.not_mem_nil
  | cons t rest ih =>
    obtain ⟨fresh, distinct⟩ := List.nodup_cons.mp distinct
    obtain ⟨first, others⟩ := List.forall_mem_cons.mp cancellable
    let s₁ := t.cancel backend.recorded s
    have confirmed : s₁.state.Confirms t.href := first.cancel honors
    refine List.forall_mem_cons.mpr ⟨cancelAll_keeps confirmed rest, ?_⟩
    -- The others are as cancellable as before, since their references are different.
    refine ih (s := s₁) ((cancel_honorsCancel s.state t.href).trans honors) distinct
      fun t' member => ?_
    have another : t'.href ≠ t.href := fun same => fresh (same ▸ List.mem_map_of_mem member)
    exact (others t' member).spared (cancel_spares s.state another)

/-! ## Lookups -/

/-- A lookup of a task that is over says so, and takes nothing from the scripts of others. -/
theorem Confirms.task (h : s.Confirms href) :
    ∃ report s', s.task href = (.ok report, s') ∧ report.isDone = true ∧ report.Plain ∧
      ∀ other, other ≠ href → Spares other s s' := by
  obtain ⟨report, rest, scripted, isDone, plain⟩ := h.script
  obtain ⟨left, taken⟩ := takeNext_cons report rest
  have online : s.checkOutage "get_task" href = (.ok (), s) := by
    unfold checkOutage
    split
    · next n outage =>
      rw [h.online n outage]
      rfl
    · rfl
  refine ⟨report, s.setTask href left, ?_, isDone, plain,
    fun other another => setTask_spares s left another⟩
  unfold ScriptedBackend.task serveTask
  rw [online]
  dsimp only
  rw [scripted]
  dsimp only
  rw [taken]

end ScriptedBackend

end TaskOrchestration
