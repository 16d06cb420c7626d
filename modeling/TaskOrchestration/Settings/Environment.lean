import TaskOrchestration.Number.Reading
import TaskOrchestration.Settings.Path
import TaskOrchestration.Text.Segment

/-!
# Settings from the environment

A variable whose name starts with `REMOTE_TASK_`, in any case, is a setting: the rest of the name in
lower case is the key, with a double underscore between its parts. Its value is taken for what it
looks like: a truth value, an integer, a double, for the key of the intervals a list with commas,
and else a text.
-/

namespace TaskOrchestration.Environment

/-- What complaints call the environment. -/
def origin : String := "the environment"

/-- The start of the names of settings. -/
def namePrefix : List Char := "remote_task_".toList

/-- The key whose value may be a list. -/
def listKey : String := "polling.intervals_ms"

/-- A name with a point in place of each double underscore. -/
def withPoints : List Char → List Char
  | '_' :: '_' :: r => '.' :: withPoints r
  | c :: r => c :: withPoints r
  | [] => []

/-- The key of a variable, if it is a setting. -/
def key? (name : String) : Option String :=
  let cs := name.toList.map Text.lowerChar
  if namePrefix.isPrefixOf cs then
    some (String.ofList (withPoints (cs.drop namePrefix.length)))
  else none

/-- A text, as a setting from the environment. -/
def textSetting (cs : List Char) : Setting := .scalar (.text (String.ofList cs)) (some origin)

/-- The value of a variable that is a setting. -/
def value (key text : String) : Setting :=
  let cs := text.toList
  match Text.lower text with
  | "true" => .scalar (.boolean true) (some origin)
  | "false" => .scalar (.boolean false) (some origin)
  | _ =>
    match Text.signed? (Nat.pow 2 63) cs, Binary64.ofText? cs with
    | some i, _ => .scalar (.integer i) (some origin)
    | none, some x => .scalar (.float x) (some origin)
    | none, none =>
      if key == listKey then .list ((Text.splitOn ',' cs).map textSetting) (some origin)
      else textSetting cs

/-- The settings among variables. -/
def layer (assignments : List (String × String)) : Layer :=
  Fields.ofList <| assignments.filterMap fun (name, text) =>
    (key? name).map fun key => (key, value key text)

end TaskOrchestration.Environment
