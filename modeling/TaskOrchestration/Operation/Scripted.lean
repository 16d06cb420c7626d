import TaskOrchestration.Operation

/-!
# The scripted operation

An operation with its answers written down beforehand: each invocation takes the next one and the
last one repeats. Without any answer it starts nothing.
-/

namespace TaskOrchestration

/-- The answers of an operation and how often it was invoked. -/
structure ScriptedOperation where
  /-- The answers, the first one first. -/
  answers : List (Except OrchestrationError StartedWork) := []
  /-- The number of invocations so far. -/
  invocations : Nat := 0

namespace ScriptedOperation

/-- The answer to the next invocation. -/
def nextAnswer (s : ScriptedOperation) : Except OrchestrationError StartedWork :=
  match s.answers[s.invocations]? with
  | some answer => answer
  | none => s.answers.getLast?.getD (.ok .empty)

/-- The operation of a given name. -/
def operation (name : String) : ExternalOperation ScriptedOperation where
  name := name
  invoke s := (s.nextAnswer, { s with invocations := s.invocations + 1 })

end ScriptedOperation

end TaskOrchestration
