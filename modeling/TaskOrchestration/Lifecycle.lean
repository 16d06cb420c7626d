import TaskOrchestration.Error
import TaskOrchestration.Lifecycle.Event
import TaskOrchestration.Lifecycle.State

/-!
# The lifecycle of a unit

Which event leads from which state to which. A unit is started, runs and is suspended in turn, and
ends completed, failed or cancelled; from there no event leads on. An event that the state does not
accept changes nothing.
-/

namespace TaskOrchestration

/-- The state of a unit and the message of the failure that ended it. -/
structure Lifecycle where
  /-- The state. -/
  state : Lifecycle.State := .notStarted
  /-- The message of the failure that led to `failed`. -/
  failure : Option String := none
  deriving DecidableEq, Repr

namespace Lifecycle

/-- The state to which an event leads, if the state accepts it. -/
def State.target? : State → EventKind → Option State
  | .notStarted, .start => some .running
  | .running, .suspend => some .suspended
  | .suspended, .resume => some .running
  | .running, .complete => some .completed
  | .notStarted, .cancel => some .cancelled
  | .running, .cancel => some .cancelled
  | .notStarted, .fail => some .failed
  | .running, .fail => some .failed
  | .suspended, .fail => some .failed
  | _, _ => none

/-- No event leads out of a final state. -/
theorem State.target?_eq_none {s : State} (h : s.isFinal = true) (k : EventKind) :
    s.target? k = none := by
  cases s <;> cases k <;> simp_all [State.isFinal, State.target?]

/-- The state to which an event leads, or the complaint that the state does not accept it. -/
def State.target (s : State) (event : Event) : Except OrchestrationError State :=
  match s.target? event.kind with
  | some t => .ok t
  | none => .error (.invalidTransition s.name event.kind.name)

/-- The lifecycle of a unit found in a state. -/
def ofState (state : State) : Lifecycle := { state }

/-- The lifecycle after an event. A failure leaves its message. -/
def accept (l : Lifecycle) (event : Event) : Except OrchestrationError Lifecycle :=
  match l.state.target event with
  | .ok state => .ok { state, failure := event.errorMessage? <|> l.failure }
  | .error e => .error e

end Lifecycle

end TaskOrchestration
