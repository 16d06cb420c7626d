import TaskOrchestration.Backend

/-!
# Tracking a task

A tracked task is what is known of it: the merge of all reports so far. A report replaces what is
known, except that the reference and the labels stay when the report leaves them out, and that a
task that is done takes no report any more.
-/

namespace TaskOrchestration.TaskReport

variable {σ : Type}

/-- How the task is called: by its name, else by its description. -/
def title (d : TaskReport) : Option String := d.name <|> d.description

/-- What is known after a report, as long as the task is not done. -/
def merge (known fresh : TaskReport) : TaskReport :=
  { fresh with
    href := if fresh.href.isEmpty then known.href else fresh.href
    name := fresh.name <|> known.name
    description := fresh.description <|> known.description
    taskGroupHref := fresh.taskGroupHref <|> known.taskGroupHref }

/-- What is known after a report. -/
def absorb (known fresh : TaskReport) : TaskReport :=
  if known.isDone then known else known.merge fresh

/-- A task that is done takes no report. -/
theorem absorb_of_isDone {known : TaskReport} (h : known.isDone = true) (fresh : TaskReport) :
    known.absorb fresh = known := by simp [absorb, h]

/-- Looks the task up unless it is done. If the lookup fails, what is known stays. -/
def refresh (b : Backend σ) (d : TaskReport) (s : σ) :
    Except OrchestrationError TaskReport × σ :=
  if d.isDone then (.ok d, s)
  else
    match b.task d.href s with
    | (.ok fresh, s) => (.ok (d.absorb fresh), s)
    | (.error e, s) => (.error e, s)

/-- A task that is done is not looked up. -/
theorem refresh_of_isDone (b : Backend σ) {d : TaskReport} (h : d.isDone = true) (s : σ) :
    d.refresh b s = (.ok d, s) := by simp [refresh, h]

/-- Asks to cancel the task; nothing comes of a refusal. -/
def cancel (b : Backend σ) (d : TaskReport) (s : σ) : σ := (b.cancel d.href s).2

/-- Asks to cancel tasks one after the other. -/
def cancelAll (b : Backend σ) (tasks : List TaskReport) (s : σ) : σ :=
  tasks.foldl (fun s d => d.cancel b s) s

end TaskOrchestration.TaskReport
