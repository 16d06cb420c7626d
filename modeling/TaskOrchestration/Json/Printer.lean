import TaskOrchestration.Json
import TaskOrchestration.Number.Shortest
import TaskOrchestration.Text.Quoted

/-!
# JSON text

The compact text of a JSON value: no space anywhere, doubles in the shortest decimal that reads
back, and in strings only what JSON forbids is escaped.
-/

namespace TaskOrchestration.Json

mutual

/-- The compact text of a value. -/
def render : Json → String
  | .null => "null"
  | .boolean true => "true"
  | .boolean false => "false"
  | .integer i => Text.signedDecimal i
  | .float x => x.text Binary64.jsonStyle
  | .string s => Text.jsonQuoted s
  | .list items => "[" ++ ",".intercalate (renderItems items) ++ "]"
  | .object fields => "\x7b" ++ ",".intercalate (renderFields fields) ++ "\x7d"

/-- The texts of the items of a list. -/
def renderItems : List Json → List String
  | [] => []
  | v :: vs => render v :: renderItems vs

/-- The texts of the fields of an object. -/
def renderFields : List (String × Json) → List String
  | [] => []
  | (k, v) :: rest => (Text.jsonQuoted k ++ ":" ++ render v) :: renderFields rest

end

end TaskOrchestration.Json
