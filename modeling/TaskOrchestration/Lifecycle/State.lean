import TaskOrchestration.Json.Decode

/-!
# States of a unit

Where a unit stands between two calls of its host, with the names of the states in records and
messages.
-/

namespace TaskOrchestration.Lifecycle

/-- The state of a unit. -/
inductive State
  /-- The operation has not been invoked. -/
  | notStarted
  /-- A call is going on. -/
  | running
  /-- The unit waits for the host to resume it. -/
  | suspended
  /-- Everything tracked is done. -/
  | completed
  /-- An error stopped the unit. -/
  | failed
  /-- Everything tracked is done, after a request to cancel. -/
  | cancelled
  deriving DecidableEq, Repr

namespace State

/-- The name of a state. -/
def name : State → String
  | .notStarted => "not_started"
  | .running => "running"
  | .suspended => "suspended"
  | .completed => "completed"
  | .failed => "failed"
  | .cancelled => "cancelled"

/-- All states in the order in which messages list them. -/
def all : List State := [.notStarted, .running, .suspended, .completed, .failed, .cancelled]

/-- Whether a unit never leaves the state. -/
def isFinal : State → Bool
  | .completed | .failed | .cancelled => true
  | _ => false

/-- Whether remote work is going on. -/
def awaitsBackend : State → Bool
  | .running | .suspended => true
  | _ => false

/-- The state of a name. -/
def ofName? (text : String) : Option State := all.find? fun s => s.name == text

/-- What is said of a name that no state has. -/
def unknownName (text : String) : String := "Invalid unit state: " ++ text

/-- The JSON form: the name. -/
def toJson (s : State) : Json := .string s.name

/-- Reads a state. -/
def ofJson (v : Json) : Except DecodeError State :=
  Json.toChoice? (all.map fun s => (s.name, s)) v

end State

end TaskOrchestration.Lifecycle
