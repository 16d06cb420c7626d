import TaskOrchestration.Backend
import TaskOrchestration.StartedWork

/-!
# External operations

The call that starts the remote work. A `Remote` is all a unit deals with: a backend and an
operation over one common state, so each of them may answer in view of all that happened to both.
-/

namespace TaskOrchestration

/-- A call that starts remote work. -/
structure ExternalOperation (σ : Type) where
  /-- The name of the operation in messages. -/
  name : String
  /-- Starts the work and answers with the tasks to wait for. -/
  invoke : σ → Answer σ StartedWork

/-- The backend and the operation of a unit. -/
structure Remote (σ : Type) where
  /-- Where tasks and groups are looked up. -/
  backend : Backend σ
  /-- What starts the tasks. -/
  operation : ExternalOperation σ

/-- Passes a call on to the first of two states. -/
def Answer.onFirst {σ τ α : Type} (ask : σ → Answer σ α) (s : σ × τ) : Answer (σ × τ) α :=
  let (a, first) := ask s.1
  (a, (first, s.2))

/-- Passes a call on to the second of two states. -/
def Answer.onSecond {σ τ α : Type} (ask : τ → Answer τ α) (s : σ × τ) : Answer (σ × τ) α :=
  let (a, second) := ask s.2
  (a, (s.1, second))

/-- A backend and an operation that know nothing of each other. -/
def Remote.ofIndependent {σ τ : Type} (b : Backend σ) (o : ExternalOperation τ) :
    Remote (σ × τ) where
  backend := {
    task := fun href => Answer.onFirst (b.task href)
    group := fun href => Answer.onFirst (b.group href)
    members := fun href => Answer.onFirst (b.members href)
    cancel := fun href => Answer.onFirst (b.cancel href) }
  operation := { name := o.name, invoke := Answer.onSecond o.invoke }

end TaskOrchestration
