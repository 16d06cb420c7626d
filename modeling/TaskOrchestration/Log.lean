import TaskOrchestration.Json

/-!
# Log events

The two kinds of event a unit logs: a step of its life, and an error with its context.
-/

namespace TaskOrchestration

/-- An event in the log. -/
inductive LogEvent
  /-- A step in the life of a unit. -/
  | step (operation state : String) (tasks groups : Nat) (details : Option String)
  /-- An error of a component. -/
  | error (component operation message : String) (context : Option String)
  deriving DecidableEq, Repr

/-- The JSON form: the fields of the event, its level and its kind. -/
def LogEvent.toJson : LogEvent → Json
  | .step operation state tasks groups details =>
    .object <|
      Json.presentField "details" .string details ++
      [("group_count", .ofNat groups), ("level", .string "INFO"),
        ("message", .string "UNIT_OPERATION"), ("operation", .string operation),
        ("state", .string state), ("task_count", .ofNat tasks)]
  | .error component operation message context =>
    .object <|
      [("component", .string component)] ++
      Json.presentField "context" .string context ++
      [("error", .string message), ("level", .string "ERROR"), ("message", .string "ERROR"),
        ("operation", .string operation)]

end TaskOrchestration
