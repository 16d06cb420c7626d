import TaskOrchestration.Backend
import TaskOrchestration.Dictionary
import TaskOrchestration.Text.Quoted

/-!
# The scripted backend

A backend that replays states written down beforehand. Every lookup of a task or group takes the
next state of its script, and the last state repeats for ever. Lookups can be made to fail a number
of times, and cancel requests can be refused or honoured. The members of a group are those of the
state that was served last, and each of them is looked up in its own script.
-/

namespace TaskOrchestration

/-- The states that are left to serve, with the refusals that are set. -/
structure ScriptedBackend where
  /-- The states of each task, the next one first. -/
  taskScripts : Dictionary String (List TaskReport) := .empty
  /-- The states of each group, the next one first. -/
  groupScripts : Dictionary String (List GroupReport) := .empty
  /-- The state of each group that was served last. -/
  served : Dictionary String GroupReport := .empty
  /-- How many lookups of a reference still fail. -/
  outages : Dictionary String UInt32 := .empty
  /-- The tasks whose cancel requests are refused, each with the reason. -/
  refusals : Dictionary String String := .empty
  /-- Whether a cancel request settles the task at once. -/
  honorsCancel : Bool := false

/-- The next state of a script and what is left of it: the last state stays. -/
def takeNext {α : Type} : List α → Option (α × List α)
  | [] => none
  | [a] => some (a, [a])
  | a :: b :: rest => some (a, b :: rest)

namespace ScriptedBackend

/-! ## Writing the script -/

/-- Sets the states of a task. -/
def setTask (href : String) (states : List TaskReport) (s : ScriptedBackend) :
    ScriptedBackend :=
  { s with taskScripts := s.taskScripts.insert href states }

/-- Sets the states of a group. -/
def setGroup (href : String) (states : List GroupReport) (s : ScriptedBackend) :
    ScriptedBackend :=
  { s with groupScripts := s.groupScripts.insert href states }

/-- Lets the next `count` lookups of a reference fail. -/
def breakLookups (href : String) (count : UInt32) (s : ScriptedBackend) : ScriptedBackend :=
  { s with outages := s.outages.insert href count }

/-- Refuses every request to cancel a task. -/
def refuseCancel (href message : String) (s : ScriptedBackend) : ScriptedBackend :=
  { s with refusals := s.refusals.insert href message }

/-- The `n`-th reference a new task can get: a path that ends in a number of 32 hexadecimal digits
in five groups. -/
def freshHref (n : Nat) : String :=
  let ds := Text.hexDigits (n % Nat.pow 16 12)
  "/pulp/api/v3/tasks/00000000-0000-4000-8000-"
    ++ String.ofList (List.replicate (12 - ds.length) '0' ++ ds) ++ "/"

/-- Adds a new task that waits; its reference is the `n`-th. -/
def addWaitingTask (n : Nat) (name : String) (s : ScriptedBackend) : TaskReport × ScriptedBackend :=
  let task : TaskReport :=
    { href := freshHref n, name := some name, state := some TaskState.waiting }
  (task, s.setTask task.href [task])

/-! ## Answering calls -/

/-- Fails if an outage is set for the reference, and counts it down. -/
def checkOutage (operation href : String) (s : ScriptedBackend) : Answer ScriptedBackend Unit :=
  match s.outages.get? href with
  | some n =>
    if 0 < n then
      (.error (.transport operation href "simulated backend outage"),
        { s with outages := s.outages.insert href (n - 1) })
    else (.ok (), s)
  | none => (.ok (), s)

/-- Takes the next state of a task. -/
def serveTask (href : String) (s : ScriptedBackend) : Answer ScriptedBackend TaskReport :=
  match s.taskScripts.get? href with
  | none => (.error (.transport "get_task" href "404 task not found"), s)
  | some script =>
    match takeNext script with
    | none => (.error (.transport "get_task" href "task has no scripted state"), s)
    | some (state, rest) => (.ok state, s.setTask href rest)

/-- Takes the next state of a group and remembers it as served. -/
def serveGroup (href : String) (s : ScriptedBackend) : Answer ScriptedBackend GroupReport :=
  match s.groupScripts.get? href with
  | none => (.error (.transport "get_task_group" href "404 task group not found"), s)
  | some script =>
    match takeNext script with
    | none => (.error (.transport "get_task_group" href "task group has no scripted state"), s)
    | some (state, rest) =>
      (.ok state, { s.setGroup href rest with served := s.served.insert href state })

/-- The state of a group that was served last, else the first of its script. -/
def lastServed? (href : String) (s : ScriptedBackend) : Option GroupReport :=
  match s.served.get? href with
  | some state => some state
  | none => (s.groupScripts.get? href).bind List.head?

/-- Takes the next state of each task up to the first that has none. -/
def serveTasks : List String → ScriptedBackend → Answer ScriptedBackend (List TaskReport)
  | [], s => (.ok [], s)
  | href :: hrefs, s =>
    match s.serveTask href with
    | (.error e, s) => (.error e, s)
    | (.ok state, s) =>
      match serveTasks hrefs s with
      | (.error e, s) => (.error e, s)
      | (.ok states, s) => (.ok (state :: states), s)

/-- Looks up a task. -/
def task (href : String) (s : ScriptedBackend) : Answer ScriptedBackend TaskReport :=
  match s.checkOutage "get_task" href with
  | (.error e, s) => (.error e, s)
  | (.ok (), s) => s.serveTask href

/-- Looks up a group. -/
def group (href : String) (s : ScriptedBackend) : Answer ScriptedBackend GroupReport :=
  match s.checkOutage "get_task_group" href with
  | (.error e, s) => (.error e, s)
  | (.ok (), s) => s.serveGroup href

/-- Looks up the members of a group. -/
def members (href : String) (s : ScriptedBackend) :
    Answer ScriptedBackend (List TaskReport) :=
  match s.lastServed? href with
  | some group => s.serveTasks group.memberHrefs
  | none => (.error (.transport "get_task_group_members" href "404 task group not found"), s)

/-- Settles a task as cancelled unless it is done or unknown. -/
def settleCancelled (href : String) (s : ScriptedBackend) : ScriptedBackend :=
  match s.taskScripts.get? href with
  | none => s
  | some script =>
    let current := script.head?.getD { href }
    if current.isDone then s
    else s.setTask href [{ current with state := some TaskState.canceled, done := some true }]

/-- Takes a cancel request. -/
def cancel (href : String) (s : ScriptedBackend) : Answer ScriptedBackend Unit :=
  match s.refusals.get? href with
  | some message => (.error (.transport "cancel_task" href message), s)
  | none => (.ok (), if s.honorsCancel then s.settleCancelled href else s)

/-- The scripted backend. -/
def backend : Backend ScriptedBackend where
  task := task
  group := group
  members := members
  cancel := cancel

/-! ## Use -/

/-- One thing done with a scripted backend: a call on it, or a change of what it is set to do. -/
inductive Action
  | call (c : Call)
  | setTask (href : String) (states : List TaskReport)
  | setGroup (href : String) (states : List GroupReport)
  | breakLookups (href : String) (count : UInt32)
  | refuseCancel (href message : String)

/-- The backend after an action. -/
def after (s : ScriptedBackend) : Action → ScriptedBackend
  | .call (.task href) => (s.task href).2
  | .call (.group href) => (s.group href).2
  | .call (.members href) => (s.members href).2
  | .call (.cancel href) => (s.cancel href).2
  | .setTask href states => s.setTask href states
  | .setGroup href states => s.setGroup href states
  | .breakLookups href count => s.breakLookups href count
  | .refuseCancel href message => s.refuseCancel href message

/-- The backend after actions, one after the other. -/
def afterAll (s : ScriptedBackend) (actions : List Action) : ScriptedBackend :=
  actions.foldl after s

end ScriptedBackend

end TaskOrchestration
