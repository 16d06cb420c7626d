import TaskOrchestration.Json.Decode

/-!
# The host of a unit

What the workflow engine that hosts a unit tells it and hears from it.
-/

namespace TaskOrchestration

/-- Why the host runs a unit. -/
inductive RunRequest
  /-- To start the work, or to look after it. -/
  | execute
  /-- The step is skipped; nothing is to happen. -/
  | skip
  deriving DecidableEq, Repr

/-- Reads the reason of a run. -/
def RunRequest.ofJson (v : Json) : Except DecodeError RunRequest :=
  Json.toChoice? [("execute", .execute), ("skip", .skip)] v

/-- What the host is doing with the step of a unit; only progress texts depend on it. -/
inductive HostMode
  | running
  | suspended
  deriving DecidableEq, Repr

/-- Reads the state of a host. -/
def HostMode.ofJson (v : Json) : Except DecodeError HostMode :=
  Json.toChoice? [("running", .running), ("suspended", .suspended)] v

/-- What the host is to do after a call. -/
inductive Outcome
  /-- Everything is done. -/
  | done
  /-- The unit is to be resumed, best after so many milliseconds. -/
  | suspend (resumeAfterMs : UInt64)
  /-- Nothing happened. -/
  | skipped
  deriving DecidableEq, Repr

end TaskOrchestration
