import TaskOrchestration.Operation
import TaskOrchestration.WorkUnit.Phase

/-!
# Running and cancelling a unit

The two calls a host makes on a unit. The first run starts the remote work; every later run, and
every request to cancel work that goes on, is one poll. A unit that has ended answers without any
remote call.
-/

namespace TaskOrchestration.WorkUnit

variable {σ : Type}

/-- Starts the remote work and tracks the tasks it answers with. -/
def start (r : Remote σ) (u : WorkUnit) (s : σ) : Phase Outcome × σ :=
  -- A unit may also be found running or suspended before its operation has answered.
  let started : Phase Unit :=
    if u.state = .notStarted then u.advance .start else { result := .ok (), unit := u }
  match started.result with
  | .error e => ({ result := .error e, unit := started.unit }, s)
  | .ok () =>
    let u := started.unit
    match r.operation.invoke s with
    | (.error e, s) => (u.fail r.operation.name e, s)
    | (.ok response, s) =>
      let u := { u with tasks := some response.tasks }
      let event := .step "initiate" u.state.name u.knownTasks.length 0 none
      ((u.review r.operation.name).after event, s)

/-- Refreshes everything once, and settles, suspends or fails. -/
def poll (r : Remote σ) (u : WorkUnit) (s : σ) : Phase Outcome × σ :=
  let resumed : Phase Unit :=
    if u.state = .suspended then u.advance .resume else { result := .ok (), unit := u }
  match resumed.result with
  | .error e => ({ result := .error e, unit := resumed.unit }, s)
  | .ok () =>
    let u := { resumed.unit with polls := resumed.unit.polls.countPoll }
    match u.refresh r.backend s with
    | (u, none, s) => ({ u with polls := u.polls.countSuccess }.review r.operation.name, s)
    | (u, some e, s) => (u.takeFailure r.operation.name e, s)

/-- Runs the unit for its host. -/
def run (r : Remote σ) (event : RunRequest) (u : WorkUnit) (s : σ) : Phase Outcome × σ :=
  match event with
  | .skip => ({ result := .ok .skipped, unit := u }, s)
  | .execute =>
    if u.state.isFinal then
      ({ result := .error (.invalidTransition u.state.name "execute"), unit := u }, s)
    else if u.isInitiated then u.poll r s
    else u.start r s

/-- What is logged once every cancel request is sent. -/
def cancelDetails : String := "cancellation requested for every tracked task and group"

/-- Asks to cancel everything tracked and polls once. A unit whose operation was never invoked ends
at once. -/
def cancel (r : Remote σ) (u : WorkUnit) (s : σ) : Phase Outcome × σ :=
  if u.state.isFinal then ({ result := .ok .done, unit := u }, s)
  else
    let u := { u with cancelRequested := true }
    if u.isInitiated then
      let s := u.cancelTracked r.backend s
      let (p, s) := u.poll r s
      (p.after (u.stepLog "cancel" (some cancelDetails)), s)
    else
      ((u.advance .cancel).andThen fun _ u => { result := .ok .done, unit := u }, s)

end TaskOrchestration.WorkUnit
