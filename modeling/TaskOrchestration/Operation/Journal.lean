import TaskOrchestration.Operation

/-!
# The journal of a remote

All that a unit asks of its remote, calls on the backend and invocations of the operation, in one
list. Keeping the journal changes none of the answers.
-/

namespace TaskOrchestration

/-- Something a unit asks of its remote. -/
inductive Contact
  /-- A call on the backend. -/
  | call (call : Call)
  /-- An invocation of the operation. -/
  | invocation
  deriving DecidableEq, Repr

/-- A state together with all that was asked so far. -/
structure Journal (σ : Type) where
  /-- The state. -/
  state : σ
  /-- What was asked, the first one first. -/
  contacts : List Contact := []
  deriving DecidableEq, Repr

namespace Journal

variable {σ : Type}

/-- Answers and notes what was asked, whatever the answer is. -/
def answer {α : Type} (contact : Contact) (ask : σ → Answer σ α) (j : Journal σ) :
    Answer (Journal σ) α :=
  let (a, state) := ask j.state
  (a, { state, contacts := j.contacts ++ [contact] })

end Journal

/-- The remote that keeps a journal. -/
def Remote.journaled {σ : Type} (r : Remote σ) : Remote (Journal σ) where
  backend := {
    task := fun href => Journal.answer (.call (.task href)) (r.backend.task href)
    group := fun href => Journal.answer (.call (.group href)) (r.backend.group href)
    members := fun href => Journal.answer (.call (.members href)) (r.backend.members href)
    cancel := fun href => Journal.answer (.call (.cancel href)) (r.backend.cancel href) }
  operation := {
    name := r.operation.name
    invoke := Journal.answer .invocation r.operation.invoke }

end TaskOrchestration
