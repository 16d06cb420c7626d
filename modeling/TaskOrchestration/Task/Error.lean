import TaskOrchestration.Json.Decode
import TaskOrchestration.Text.Blank

/-!
# Task errors

What a backend attaches to a task that went wrong: a bare message, or an object with a description
and a traceback. Only a description that is not blank says anything.
-/

namespace TaskOrchestration

/-- The error a backend reports with a task. -/
inductive TaskError
  /-- A bare message. -/
  | message (text : String)
  /-- A description and a traceback, either of which may be absent. -/
  | structured (description traceback : Option String)
  deriving DecidableEq, Repr

namespace TaskError

/-- The message of the error, unless it is absent or blank. -/
def description? (p : TaskError) : Option String :=
  let text := match p with
    | .message text => some text
    | .structured description _ => description
  text.filter fun t => !Text.allBlank t

/-- The JSON form: a text, or an object with both fields. -/
def toJson : TaskError → Json
  | .message text => .string text
  | .structured description traceback =>
    .object [("description", .ofString? description), ("traceback", .ofString? traceback)]

/-- A text or an absent one in a field that may be left out. -/
def textField? (name : String) (fields : List (String × Json)) : Option (Option String) :=
  match fields.lookup name with
  | none => some none
  | some .null => some none
  | some (.string s) => some (some s)
  | some _ => none

/-- Reads an error: a text, or an object whose two fields, as far as they are there, are texts or
`null`. -/
def ofJson (v : Json) : Except DecodeError TaskError :=
  let read : Option TaskError := match v with
    | .string s => some (.message s)
    | .object fields => do
      let description ← textField? "description" fields
      let traceback ← textField? "traceback" fields
      return .structured description traceback
    | _ => none
  match read with
  | some p => .ok p
  | none => .error (.noForm "TaskErrorPayload")

end TaskError

end TaskOrchestration
