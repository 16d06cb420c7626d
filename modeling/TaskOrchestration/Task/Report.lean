import TaskOrchestration.Task.Error

/-!
# Task reports

What a backend reports of one task. Whether the task is done or started, and with which error, is
derived: an explicit flag wins over the start time and the state, and a failed task without a usable
error message still has one, so that it never passes for a success.
-/

namespace TaskOrchestration

/-! ## States of a task -/

namespace TaskState

/-- The state of a task the backend has not picked up. -/
def waiting : String := "waiting"

/-- The state of a task that went wrong. -/
def failed : String := "failed"

/-- The state of a task that was cancelled. -/
def canceled : String := "canceled"

/-- The states a task never leaves. -/
def finished : List String := ["completed", failed, canceled, "skipped"]

/-- Whether a task in this state is over. -/
def isFinal (state : String) : Bool := finished.contains state

end TaskState

/-- The message of a failed task whose report has none of its own. -/
def unexplainedFailure : String := "Remote task failed"

/-- One task as the backend reports it. -/
structure TaskReport where
  /-- The reference by which the backend knows the task. -/
  href : String
  /-- The name of the job. -/
  name : Option String := none
  /-- What the job does. -/
  description : Option String := none
  /-- The state, as the backend words it. -/
  state : Option String := none
  /-- Whether the task was picked up, if the backend says so. -/
  started : Option Bool := none
  /-- Whether the task is over, if the backend says so. -/
  done : Option Bool := none
  /-- The error of the task. -/
  error : Option TaskError := none
  /-- The group the task belongs to. -/
  taskGroupHref : Option String := none
  /-- When the task was picked up. -/
  startedAt : Option Instant := none
  /-- When the task was over. -/
  finishedAt : Option Instant := none
  deriving DecidableEq

namespace TaskReport

/-- Whether the task is over: what the flag says, else whether its state is final. -/
def isDone (d : TaskReport) : Bool :=
  match d.done with
  | some done => done
  | none =>
    match d.state with
    | some state => TaskState.isFinal state
    | none => false

/-- Whether the backend picked the task up: what the flag says, else whether there is a start time,
else whether its state is another than waiting. -/
def isStarted (d : TaskReport) : Bool :=
  match d.started with
  | some started => started
  | none =>
    if d.startedAt.isSome then true
    else
      match d.state with
      | some state => state != TaskState.waiting
      | none => false

/-- The error message of the task: the one it carries, else a generic one if it failed. -/
def errorMessage? (d : TaskReport) : Option String :=
  match d.error.bind TaskError.description? with
  | some message => some message
  | none => if d.state == some TaskState.failed then some unexplainedFailure else none

/-! ## JSON form -/

/-- The JSON form: the reference always, every other field as far as it is present. -/
def toJson (d : TaskReport) : Json :=
  .object <|
    Json.presentField "description" .string d.description ++
    Json.presentField "done" .boolean d.done ++
    Json.presentField "error" TaskError.toJson d.error ++
    Json.presentField "finished_at" (fun i : Instant => .string i.text) d.finishedAt ++
    [("href", .string d.href)] ++
    Json.presentField "name" .string d.name ++
    Json.presentField "started" .boolean d.started ++
    Json.presentField "started_at" (fun i : Instant => .string i.text) d.startedAt ++
    Json.presentField "state" .string d.state ++
    Json.presentField "task_group_href" .string d.taskGroupHref

/-- What has been read of a report. -/
structure Draft where
  href : Option String := none
  name : Option (Option String) := none
  description : Option (Option String) := none
  state : Option (Option String) := none
  started : Option (Option Bool) := none
  done : Option (Option Bool) := none
  error : Option (Option TaskError) := none
  taskGroupHref : Option (Option String) := none
  startedAt : Option (Option Instant) := none
  finishedAt : Option (Option Instant) := none

/-- Takes in the value of a field. -/
def Draft.visit (d : Draft) (name : String) (v : Json) : Except DecodeError Draft :=
  let text := Json.toOption? Json.toString?
  let flag := Json.toOption? Json.toBool?
  let instant := Json.toOption? Json.toInstant?
  match name with
  | "href" | "pulp_href" => do
    return { d with href := ← fillOnce "href" d.href Json.toString? v }
  | "name" => do return { d with name := ← fillOnce "name" d.name text v }
  | "description" => do
    return { d with description := ← fillOnce "description" d.description text v }
  | "state" => do return { d with state := ← fillOnce "state" d.state text v }
  | "started" => do return { d with started := ← fillOnce "started" d.started flag v }
  | "done" => do return { d with done := ← fillOnce "done" d.done flag v }
  | "error" => do
    return { d with error := ← fillOnce "error" d.error (Json.toOption? TaskError.ofJson) v }
  | "task_group_href" | "task_group" => do
    return { d with taskGroupHref := ← fillOnce "task_group_href" d.taskGroupHref text v }
  | "started_at" => do
    return { d with startedAt := ← fillOnce "started_at" d.startedAt instant v }
  | "finished_at" => do
    return { d with finishedAt := ← fillOnce "finished_at" d.finishedAt instant v }
  | _ => .ok d

/-- The report, all of it being read. -/
def Draft.finish (d : Draft) : Except DecodeError TaskReport := do
  let href ← require "href" d.href
  return {
    href, name := d.name.join, description := d.description.join, state := d.state.join,
    started := d.started.join, done := d.done.join, error := d.error.join,
    taskGroupHref := d.taskGroupHref.join, startedAt := d.startedAt.join,
    finishedAt := d.finishedAt.join }

/-- The reader of reports. -/
def reader : RecordReader Draft TaskReport where
  name := "TaskDescriptor"
  fields := ["href", "name", "description", "state", "started", "done", "error",
    "task_group_href", "started_at", "finished_at"]
  empty := {}
  visit := Draft.visit
  finish := Draft.finish

/-- Reads a report. -/
def ofJson (v : Json) : Except DecodeError TaskReport := reader.read v

end TaskReport

end TaskOrchestration
