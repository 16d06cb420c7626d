import TaskOrchestration.WorkUnit

/-!
# Refreshing and discovery

One poll looks up every task and then every group that is not done, and stops at the first lookup
that fails: what was refreshed before stays refreshed, the rest is as it was. After that the groups
revealed by the tasks are tracked too, each once, in the order in which the tasks reveal them.
-/

namespace TaskOrchestration

/-- Takes a step on each item in turn up to the first that fails. The items before that one are
replaced, the others stay; the error comes back. -/
def sweep {σ α : Type} (step : α → σ → Except OrchestrationError α × σ) :
    List α → σ → List α × Option OrchestrationError × σ
  | [], s => ([], none, s)
  | a :: rest, s =>
    match step a s with
    | (.error e, s) => (a :: rest, some e, s)
    | (.ok a', s) =>
      let (rest', e, s) := sweep step rest s
      (a' :: rest', e, s)

namespace WorkUnit

variable {σ : Type}

/-- Refreshes the tasks and then the groups up to the first lookup that fails. -/
def refresh (b : Backend σ) (u : WorkUnit) (s : σ) :
    WorkUnit × Option OrchestrationError × σ :=
  let (tasks, failure, s) := sweep (TaskReport.refresh b) u.knownTasks s
  let u := { u with tasks := u.tasks.map fun _ => tasks }
  match failure with
  | some e => (u, some e, s)
  | none =>
    let (groups, failure, s) := sweep (TrackedGroup.refresh b) u.groups s
    ({ u with groups }, failure, s)

/-- Tracks a group unless one of this reference is tracked already. -/
def addGroup (groups : List TrackedGroup) (href : String) : List TrackedGroup :=
  if groups.any fun g => g.href == href then groups else groups ++ [.ofHref href]

/-- Tracks the groups that the tasks reveal. -/
def discover (u : WorkUnit) : WorkUnit :=
  { u with groups := (u.knownTasks.filterMap TaskReport.taskGroupHref).foldl addGroup u.groups }

/-- Asks to cancel every task and every member of every group; refusals do not count. -/
def cancelTracked (b : Backend σ) (u : WorkUnit) (s : σ) : σ :=
  TrackedGroup.cancelAll b u.groups (TaskReport.cancelAll b u.knownTasks s)

end WorkUnit

end TaskOrchestration
