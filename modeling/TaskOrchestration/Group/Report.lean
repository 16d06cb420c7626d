import TaskOrchestration.Task.Report

/-!
# Group reports

What a backend reports of a group of tasks: its name and the references of its members. The state it
claims is passed on and never used to judge whether the group is done.
-/

namespace TaskOrchestration

/-- One group of tasks as the backend reports it. -/
structure GroupReport where
  /-- The reference by which the backend knows the group. -/
  href : String
  /-- The name of the group. -/
  name : Option String := none
  /-- The references of the members. -/
  memberHrefs : List String := []
  /-- False while the backend still adds members. -/
  allTasksDispatched : Option Bool := none
  /-- The state the backend claims for the whole group. -/
  state : Option String := none
  deriving DecidableEq, Repr

namespace GroupReport

/-- The JSON form: reference, members and name always, the other fields as far as present. -/
def toJson (d : GroupReport) : Json :=
  .object <|
    Json.presentField "all_tasks_dispatched" .boolean d.allTasksDispatched ++
    [("href", .string d.href), ("member_hrefs", .ofStrings d.memberHrefs),
      ("name", .ofString? d.name)] ++
    Json.presentField "state" .string d.state

/-- What has been read of a report. -/
structure Draft where
  href : Option String := none
  name : Option (Option String) := none
  memberHrefs : Option (List String) := none
  allTasksDispatched : Option (Option Bool) := none
  state : Option (Option String) := none

/-- Takes in the value of a field. -/
def Draft.visit (d : Draft) (name : String) (v : Json) : Except DecodeError Draft :=
  let text := Json.toOption? Json.toString?
  match name with
  | "href" | "pulp_href" => do
    return { d with href := ← fillOnce "href" d.href Json.toString? v }
  | "name" | "description" => do return { d with name := ← fillOnce "name" d.name text v }
  | "member_hrefs" | "tasks" => do
    let read := Json.toList? Json.toString?
    return { d with memberHrefs := ← fillOnce "member_hrefs" d.memberHrefs read v }
  | "all_tasks_dispatched" => do
    let read := Json.toOption? Json.toBool?
    return { d with
      allTasksDispatched := ← fillOnce "all_tasks_dispatched" d.allTasksDispatched read v }
  | "state" => do return { d with state := ← fillOnce "state" d.state text v }
  | _ => .ok d

/-- The report, all of it being read. -/
def Draft.finish (d : Draft) : Except DecodeError GroupReport := do
  let href ← require "href" d.href
  return {
    href, name := d.name.join, memberHrefs := d.memberHrefs.getD [],
    allTasksDispatched := d.allTasksDispatched.join, state := d.state.join }

/-- The reader of reports. -/
def reader : RecordReader Draft GroupReport where
  name := "TaskGroupDescriptor"
  fields := ["href", "name", "member_hrefs", "all_tasks_dispatched", "state"]
  empty := {}
  visit := Draft.visit
  finish := Draft.finish

/-- Reads a report. -/
def ofJson (v : Json) : Except DecodeError GroupReport := reader.read v

end GroupReport

end TaskOrchestration
