import TaskOrchestration.Error
import TaskOrchestration.Json.Printer
import TaskOrchestration.Task.Report

/-!
# Answers of an operation

An operation that starts remote work answers with nothing, with one task or with a list of tasks;
`tasks` reduces the three to a list. In JSON these are `null`, an object and a list.
-/

namespace TaskOrchestration

/-- What an operation that starts remote work answers. -/
inductive StartedWork
  /-- There is nothing to wait for. -/
  | empty
  /-- One task. -/
  | single (task : TaskReport)
  /-- Any number of tasks. -/
  | many (tasks : List TaskReport)
  deriving DecidableEq

namespace StartedWork

/-- The tasks of an answer, in their order. -/
def tasks : StartedWork → List TaskReport
  | .empty => []
  | .single task => [task]
  | .many tasks => tasks

/-- The answer of an operation that starts at most one task. -/
def ofOption : Option TaskReport → StartedWork
  | some task => .single task
  | none => .empty

/-- The answer of an operation that starts any number of tasks. -/
def ofList (tasks : List TaskReport) : StartedWork := .many tasks

/-- Reads an answer: `null`, an object, or a list of values that are each a task. -/
def ofJson : Json → Except OrchestrationError StartedWork
  | .null => .ok .empty
  | .list items => decoded (.many <$> items.mapM TaskReport.ofJson)
  | .object fields => decoded (.single <$> TaskReport.ofJson (.object fields))
  | v => .error (.serialization
      ("expected null, a task object, or a list of tasks, got " ++ v.render))

end StartedWork

end TaskOrchestration
