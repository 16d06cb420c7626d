import TaskOrchestration.Json.Decode

/-!
# Errors of an orchestration

What can go wrong while remote work is started, watched or cancelled. A remote error carries the
message meant for the user, a transport error enough for the host to decide on another attempt.
-/

namespace TaskOrchestration

/-- Why a call on a unit, a backend or the settings did not succeed. -/
inductive OrchestrationError
  /-- A tracked task or group reported an error. -/
  | remoteOperation (href message : String)
  /-- The backend could not be reached or did not answer the question. -/
  | transport (operation href message : String)
  /-- The external operation failed before there was any task. -/
  | invocation (operation message : String)
  /-- A value does not have the form it should have. -/
  | serialization (message : String)
  /-- The settings cannot be used. -/
  | configuration (message : String)
  /-- A lifecycle in state `origin` does not accept `event`. -/
  | invalidTransition (origin event : String)
  deriving DecidableEq, Repr

namespace OrchestrationError

/-- The wording of an error. -/
def message : OrchestrationError → String
  | .remoteOperation _ message => message
  | .transport operation href message =>
    "Transport error during " ++ operation ++ " for " ++ href ++ ": " ++ message
  | .invocation operation message => "Operation invocation failed: " ++ operation ++ ": " ++ message
  | .serialization message => "Serialization error: " ++ message
  | .configuration message => "Configuration error: " ++ message
  | .invalidTransition origin event => "Invalid unit transition from " ++ origin ++ " on " ++ event

/-- Whether a task or group itself reported the error. -/
def isRemoteOperation : OrchestrationError → Bool
  | .remoteOperation .. => true
  | _ => false

/-- Whether another attempt may succeed. -/
def isRetryable : OrchestrationError → Bool
  | .transport .. => true
  | _ => false

end OrchestrationError

/-- What was read could not be decoded. -/
def DecodeError.toOrchestrationError (e : DecodeError) : OrchestrationError :=
  .serialization e.message

/-- Reads a value where a fault is an error of the orchestration. -/
def decoded {α : Type} : Except DecodeError α → Except OrchestrationError α
  | .ok a => .ok a
  | .error e => .error e.toOrchestrationError

end TaskOrchestration
