import TaskOrchestration.Group.Tracking
import TaskOrchestration.Lifecycle.State
import TaskOrchestration.Polling

/-!
# The record of a unit

All that is left of a unit between two calls: a record the host keeps as JSON. The tasks are absent
until the operation has answered.
-/

namespace TaskOrchestration

namespace PollCounters

/-- The JSON form. -/
def toJson (c : PollCounters) : Json :=
  .object [("failed", .ofNat c.failed.toNat), ("total", .ofNat c.total.toNat)]

/-- What has been read of the counters. -/
structure Draft where
  total : Option UInt32 := none
  failed : Option UInt32 := none

/-- The reader of counters. -/
def reader : RecordReader Draft PollCounters where
  name := "PollAttempts"
  fields := ["total", "failed"]
  empty := {}
  visit d name v :=
    match name with
    | "total" => do return { d with total := ← fillOnce "total" d.total Json.toUInt32? v }
    | "failed" => do return { d with failed := ← fillOnce "failed" d.failed Json.toUInt32? v }
    | _ => .ok d
  finish d := do
    let total ← require "total" d.total
    let failed ← require "failed" d.failed
    return { total, failed }

end PollCounters

/-- What the host keeps of a unit. -/
structure OutputRecord where
  /-- The tracked tasks, once the operation has answered. -/
  tasks : Option (List TaskReport) := none
  /-- The tracked groups. -/
  taskGroups : Option (List TrackedGroup) := none
  /-- The counters of polls. -/
  pollCounters : PollCounters := {}
  /-- Whether the unit was asked to cancel. -/
  cancelRequested : Bool := false
  /-- The state of the unit. -/
  state : Lifecycle.State := .notStarted
  deriving DecidableEq

namespace OutputRecord

/-- A list, or `null` when it is absent. -/
def listOrNull {α : Type} (write : α → Json) : Option (List α) → Json
  | some items => .list (items.map write)
  | none => .null

/-- The JSON form: all fields, always. -/
def toJson (r : OutputRecord) : Json :=
  .object [("cancel_requested", .boolean r.cancelRequested),
    ("poll_attempts", r.pollCounters.toJson), ("state", r.state.toJson),
    ("task_groups", listOrNull TrackedGroup.toJson r.taskGroups),
    ("tasks", listOrNull TaskReport.toJson r.tasks)]

/-- What has been read of a record. -/
structure Draft where
  tasks : Option (Option (List TaskReport)) := none
  taskGroups : Option (Option (List TrackedGroup)) := none
  pollCounters : Option PollCounters := none
  cancelRequested : Option Bool := none
  state : Option Lifecycle.State := none

/-- Takes in the value of a field. -/
def Draft.visit (d : Draft) (name : String) (v : Json) : Except DecodeError Draft :=
  match name with
  | "tasks" => do
    let read := Json.toOption? (Json.toList? TaskReport.ofJson)
    return { d with tasks := ← fillOnce "tasks" d.tasks read v }
  | "task_groups" => do
    let read := Json.toOption? (Json.toList? TrackedGroup.ofJson)
    return { d with taskGroups := ← fillOnce "task_groups" d.taskGroups read v }
  | "poll_attempts" => do
    let read := PollCounters.reader.read
    return { d with pollCounters := ← fillOnce "poll_attempts" d.pollCounters read v }
  | "cancel_requested" => do
    return { d with
      cancelRequested := ← fillOnce "cancel_requested" d.cancelRequested Json.toBool? v }
  | "state" => do return { d with state := ← fillOnce "state" d.state Lifecycle.State.ofJson v }
  | _ => .ok d

/-- The record, all of it being read; whatever is left out is as in a fresh record. -/
def Draft.finish (d : Draft) : Except DecodeError OutputRecord :=
  .ok {
    tasks := d.tasks.join, taskGroups := d.taskGroups.join,
    pollCounters := d.pollCounters.getD {}, cancelRequested := d.cancelRequested.getD false,
    state := d.state.getD .notStarted }

/-- The reader of records. -/
def reader : RecordReader Draft OutputRecord where
  name := "OutputState"
  fields := ["tasks", "task_groups", "poll_attempts", "cancel_requested", "state"]
  empty := {}
  visit := Draft.visit
  finish := Draft.finish

/-- Reads a record. -/
def ofJson (v : Json) : Except DecodeError OutputRecord := reader.read v

end OutputRecord

end TaskOrchestration
