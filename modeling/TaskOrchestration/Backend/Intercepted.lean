import TaskOrchestration.Backend
import TaskOrchestration.Dictionary

/-!
# Intercepted calls

Single calls of a backend can be made to fail with any error. An intercepted call does not reach the
backend; every other call does.
-/

namespace TaskOrchestration

/-- A state together with the calls that fail. -/
structure Intercepted (σ : Type) where
  /-- The state of the backend behind. -/
  state : σ
  /-- The calls that fail, each with its error. -/
  faults : Dictionary Call OrchestrationError := .empty

namespace Intercepted

variable {σ : Type}

/-- Lets a call fail from now on, or, without an error, no longer. -/
def intercept (call : Call) (error : Option OrchestrationError) (i : Intercepted σ) :
    Intercepted σ :=
  match error with
  | some e => { i with faults := i.faults.insert call e }
  | none => { i with faults := i.faults.erase call }

/-- Fails with the error set for the call, or passes it on. -/
def answer {α : Type} (call : Call) (ask : σ → Answer σ α) (i : Intercepted σ) :
    Answer (Intercepted σ) α :=
  match i.faults.get? call with
  | some e => (.error e, i)
  | none =>
    let (a, state) := ask i.state
    (a, { i with state })

end Intercepted

/-- The backend some of whose calls are intercepted. -/
def Backend.intercepted {σ : Type} (b : Backend σ) : Backend (Intercepted σ) where
  task href := Intercepted.answer (.task href) (b.task href)
  group href := Intercepted.answer (.group href) (b.group href)
  members href :=
    Intercepted.answer (.members href) (b.members href)
  cancel href := Intercepted.answer (.cancel href) (b.cancel href)

end TaskOrchestration
