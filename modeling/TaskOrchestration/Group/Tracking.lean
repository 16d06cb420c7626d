import TaskOrchestration.Task.Tracking

/-!
# Tracking a group

A tracked group starts as a bare reference. A refresh asks for the group and then for its members,
and takes in both answers or neither. A group is done when it was resolved, all its tasks were
dispatched, and it holds members, all of them done and among them all the group names; whatever
state the backend claims for the group as a whole does not count.
-/

namespace TaskOrchestration

/-- What is known of a group. -/
structure TrackedGroup where
  /-- The reference by which the backend knows the group. -/
  href : String
  /-- The name of the group. -/
  name : Option String := none
  /-- The references of the members the group names. -/
  memberHrefs : List String := []
  /-- False while the backend still adds members. -/
  allTasksDispatched : Option Bool := none
  /-- The members as they are known. -/
  members : List TaskReport := []
  /-- Whether the group was looked up with success at least once. -/
  resolved : Bool := false
  deriving DecidableEq

namespace TrackedGroup

variable {σ : Type}

/-- A group of which only the reference is known. -/
def ofHref (href : String) : TrackedGroup := { href }

/-- How the group is called. -/
def title (g : TrackedGroup) : Option String := g.name

/-- The first known member with a reference. -/
def member? (g : TrackedGroup) (href : String) : Option TaskReport :=
  g.members.find? fun m => m.href == href

/-- A group is started as soon as one of its members is. -/
def isStarted (g : TrackedGroup) : Bool := g.members.any TaskReport.isStarted

/-- Whether the whole group is done. -/
def isDone (g : TrackedGroup) : Bool :=
  g.resolved && !g.members.isEmpty && g.allTasksDispatched != some false
    && g.members.all TaskReport.isDone
    && g.memberHrefs.all fun href => (g.member? href).isSome

/-- The error message of the first member that has one. -/
def errorMessage? (g : TrackedGroup) : Option String :=
  g.members.findSome? TaskReport.errorMessage?

/-- A reported member merged with the member of that reference, if there is one. -/
def absorbMember (g : TrackedGroup) (report : TaskReport) : TaskReport :=
  match g.member? report.href with
  | some known => known.absorb report
  | none => report

/-- What is known after a report of the group and of its members. -/
def absorb (g : TrackedGroup) (report : GroupReport) (members : List TaskReport) :
    TrackedGroup where
  href := g.href
  name := report.name <|> g.name
  memberHrefs := report.memberHrefs
  allTasksDispatched := report.allTasksDispatched
  members := members.map g.absorbMember
  resolved := true

/-- Looks the group and its members up unless the group is done. If either lookup fails, what is
known stays. -/
def refresh (b : Backend σ) (g : TrackedGroup) (s : σ) :
    Except OrchestrationError TrackedGroup × σ :=
  if g.isDone then (.ok g, s)
  else
    match b.group g.href s with
    | (.error e, s) => (.error e, s)
    | (.ok report, s) =>
      match b.members g.href s with
      | (.error e, s) => (.error e, s)
      | (.ok members, s) => (.ok (g.absorb report members), s)

/-- Asks to cancel every member. -/
def cancel (b : Backend σ) (g : TrackedGroup) (s : σ) : σ := TaskReport.cancelAll b g.members s

/-- Asks to cancel the members of groups one after the other. -/
def cancelAll (b : Backend σ) (groups : List TrackedGroup) (s : σ) : σ :=
  groups.foldl (fun s g => g.cancel b s) s

/-! ## JSON form -/

/-- The JSON form: name and dispatch flag as far as present, every other field always. -/
def toJson (g : TrackedGroup) : Json :=
  .object <|
    Json.presentField "all_tasks_dispatched" .boolean g.allTasksDispatched ++
    [("href", .string g.href), ("member_hrefs", .ofStrings g.memberHrefs),
      ("members", .list (g.members.map TaskReport.toJson))] ++
    Json.presentField "name" .string g.name ++
    [("resolved", .boolean g.resolved)]

/-- What has been read of a group. -/
structure Draft where
  href : Option String := none
  name : Option (Option String) := none
  memberHrefs : Option (List String) := none
  allTasksDispatched : Option (Option Bool) := none
  members : Option (List TaskReport) := none
  resolved : Option Bool := none

/-- Takes in the value of a field. -/
def Draft.visit (d : Draft) (name : String) (v : Json) : Except DecodeError Draft :=
  match name with
  | "href" => do return { d with href := ← fillOnce "href" d.href Json.toString? v }
  | "name" => do
    return { d with name := ← fillOnce "name" d.name (Json.toOption? Json.toString?) v }
  | "member_hrefs" => do
    let read := Json.toList? Json.toString?
    return { d with memberHrefs := ← fillOnce "member_hrefs" d.memberHrefs read v }
  | "all_tasks_dispatched" => do
    let read := Json.toOption? Json.toBool?
    return { d with
      allTasksDispatched := ← fillOnce "all_tasks_dispatched" d.allTasksDispatched read v }
  | "members" => do
    let read := Json.toList? TaskReport.ofJson
    return { d with members := ← fillOnce "members" d.members read v }
  | "resolved" => do
    return { d with resolved := ← fillOnce "resolved" d.resolved Json.toBool? v }
  | _ => .ok d

/-- The group, all of it being read. -/
def Draft.finish (d : Draft) : Except DecodeError TrackedGroup := do
  let href ← require "href" d.href
  return {
    href, name := d.name.join, memberHrefs := d.memberHrefs.getD [],
    allTasksDispatched := d.allTasksDispatched.join, members := d.members.getD [],
    resolved := d.resolved.getD false }

/-- The reader of tracked groups. -/
def reader : RecordReader Draft TrackedGroup where
  name := "RemoteTaskGroup"
  fields := ["href", "name", "member_hrefs", "all_tasks_dispatched", "members", "resolved"]
  empty := {}
  visit := Draft.visit
  finish := Draft.finish

/-- Reads a tracked group. -/
def ofJson (v : Json) : Except DecodeError TrackedGroup := reader.read v

end TrackedGroup

end TaskOrchestration
