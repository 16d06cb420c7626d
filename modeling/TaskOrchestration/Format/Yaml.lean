import TaskOrchestration.Format.Yaml.Layout
import TaskOrchestration.Format.Yaml.Node

/-!
# Reading YAML

The value of a YAML text with one document at most: its characters are read as tokens, these as
nodes, and the nodes become a value. A text that is not understood gives nothing.
-/

namespace TaskOrchestration.Yaml

/-- The value of a text. Without a document it is an empty object. -/
def parse? (text : List Char) : Option Json := do
  match ← document? (← tokens? text) with
  | none => return .object []
  | some n => n.toJson?

end TaskOrchestration.Yaml
