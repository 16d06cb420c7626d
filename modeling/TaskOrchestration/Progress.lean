import TaskOrchestration.Host
import TaskOrchestration.Text.Segment
import TaskOrchestration.Watchlist

/-!
# Progress texts

One line for the operator on what a unit is waiting for. A task is named by the last part of its
dotted name and by the last part of its reference, without the slash at the end.
-/

namespace TaskOrchestration

/-- The label of a task: its name behind the last `.`, and its reference behind the last `-` less
the last character. An absent name or reference counts as empty. -/
def shortLabel (name href : Option String) : String :=
  let name := Text.afterLast '.' (name.getD "").toList
  let id := (Text.afterLast '-' (href.getD "").toList).dropLast
  String.ofList name ++ " (ID: " ++ String.ofList id ++ ")"

/-- The label of a member. -/
def Tracked.label (m : Tracked) : String := shortLabel m.title (some m.href)

/-- What a unit is doing, for the operator. -/
def Watchlist.progressText (v : Watchlist) (initiated : Bool) (host : HostMode) : String :=
  if !initiated then "initiating remote task"
  else if v.isEmpty || v.allDone then "remote tasks finished"
  else
    match host with
    | .running => "checking remote task status"
    | .suspended =>
      match v.runningMember?, v.waitingMember? with
      | some m, _ => "waiting for task to finish: " ++ m.label
      | none, some m => "waiting for task to start: " ++ m.label
      | none, none => "checking remote task status"

end TaskOrchestration
