import TaskOrchestration.Error
import TaskOrchestration.Group.Report

/-!
# Backends

A backend answers four kinds of call: the state of a task, the state of a group, the states of the
members of a group, and the request to cancel a task. It is a state `σ` of any kind and four
functions on it, so an answer may depend on everything that was asked before. `Backend.recorded`
keeps a list of the calls a backend receives, and changes none of its answers.
-/

namespace TaskOrchestration

/-- A call on a backend. -/
inductive Call
  | task (href : String)
  | group (href : String)
  | members (href : String)
  | cancel (href : String)
  deriving DecidableEq, Repr

namespace Call

/-- The task or group a call is about. -/
def href : Call → String
  | .task href | .group href | .members href | .cancel href => href

/-- The name of the kind of call. -/
def name : Call → String
  | .task _ => "get_task"
  | .group _ => "get_task_group"
  | .members _ => "get_task_group_members"
  | .cancel _ => "cancel_task"

/-- The call of the kind `name` about `href`. -/
def ofName? (name href : String) : Option Call :=
  [task href, group href, members href, cancel href].find?
    fun c => c.name == name

/-- The reference of the task that a call asks to cancel. -/
def cancelledHref? : Call → Option String
  | .cancel href => some href
  | _ => none

end Call

/-- What a call answers, and the state after it. -/
abbrev Answer (σ α : Type) := Except OrchestrationError α × σ

/-- A backend with states of type `σ`. -/
structure Backend (σ : Type) where
  /-- The present state of a task. -/
  task : String → σ → Answer σ TaskReport
  /-- The present state of a group. -/
  group : String → σ → Answer σ GroupReport
  /-- The present states of the members of a group. -/
  members : String → σ → Answer σ (List TaskReport)
  /-- The request to cancel a task, without waiting for the effect. -/
  cancel : String → σ → Answer σ Unit

/-- A state together with the calls received so far. -/
structure Recorded (σ : Type) where
  /-- The state. -/
  state : σ
  /-- The calls, the first one first. -/
  calls : List Call := []

namespace Recorded

variable {σ : Type}

/-- The calls about one task or group. -/
def callsFor (r : Recorded σ) (href : String) : List Call :=
  r.calls.filter fun c => c.href == href

/-- The references of the tasks that were asked to be cancelled, one for each request. -/
def cancelledHrefs (r : Recorded σ) : List String := r.calls.filterMap Call.cancelledHref?

/-- Answers a call and records it, whatever the answer is. -/
def answer {α : Type} (call : Call) (ask : σ → Answer σ α) (r : Recorded σ) :
    Answer (Recorded σ) α :=
  let (a, state) := ask r.state
  (a, { state, calls := r.calls ++ [call] })

end Recorded

/-- The backend that records the calls it receives. -/
def Backend.recorded {σ : Type} (b : Backend σ) : Backend (Recorded σ) where
  task href := Recorded.answer (.task href) (b.task href)
  group href := Recorded.answer (.group href) (b.group href)
  members href := Recorded.answer (.members href) (b.members href)
  cancel href := Recorded.answer (.cancel href) (b.cancel href)

end TaskOrchestration
