import TaskOrchestration.Log
import TaskOrchestration.WorkUnit.Refresh

/-!
# Phases of a call

A call on a unit is a chain of phases. A phase may change the unit also when it ends in an error,
and it adds to the log; the next phase runs only after success. The phases here need no remote call:
to fail, to look for remote errors, to suspend, to settle, and to take a failed poll.
-/

namespace TaskOrchestration

/-- What a phase leaves behind. -/
structure Phase (α : Type) where
  /-- The result. -/
  result : Except OrchestrationError α
  /-- The unit after the phase. -/
  unit : WorkUnit
  /-- What was logged, the first event first. -/
  log : List LogEvent := []
  /-- Why failures were not recorded: what the lifecycle said of each that it did not accept. -/
  unrecorded : List OrchestrationError := []

namespace Phase

variable {α β : Type}

/-- The phase followed by another one if it succeeds. -/
def andThen (p : Phase α) (next : α → WorkUnit → Phase β) : Phase β :=
  match p.result with
  | .ok a =>
    let q := next a p.unit
    { q with log := p.log ++ q.log, unrecorded := p.unrecorded ++ q.unrecorded }
  | .error e => { result := .error e, unit := p.unit, log := p.log, unrecorded := p.unrecorded }

/-- The phase with an event logged before it. -/
def after (event : LogEvent) (p : Phase α) : Phase α := { p with log := event :: p.log }

end Phase

namespace WorkUnit

/-- Moves the lifecycle of the unit by an event. -/
def advance (event : Lifecycle.Event) (u : WorkUnit) : Phase Unit :=
  match u.lifecycle.accept event with
  | .ok lifecycle => { result := .ok (), unit := { u with lifecycle } }
  | .error e => { result := .error e, unit := u }

/-- The unit, failed with an error if its lifecycle accepts that. -/
def failed (e : OrchestrationError) (u : WorkUnit) : WorkUnit := (u.advance (.fail e.message)).unit

/-- What the lifecycle says of a failure that it does not accept. -/
def complaints (e : OrchestrationError) (u : WorkUnit) : List OrchestrationError :=
  match (u.advance (.fail e.message)).result with
  | .ok () => []
  | .error complaint => [complaint]

/-- What is logged of an error of the unit. -/
def errorLog (name : String) (e : OrchestrationError) (u : WorkUnit) : LogEvent :=
  .error "orchestration_unit" name e.message (some u.state.name)

/-- What is logged of a step of the unit. -/
def stepLog (operation : String) (details : Option String) (u : WorkUnit) : LogEvent :=
  .step operation u.state.name u.knownTasks.length u.groups.length details

/-- Fails with an error. -/
def fail {α : Type} (name : String) (e : OrchestrationError) (u : WorkUnit) : Phase α where
  result := .error e
  unit := u.failed e
  log := [(u.failed e).errorLog name e]
  unrecorded := u.complaints e

/-- Fails with the first error that a tracked task or group reports, reworded. -/
def scan (name : String) (u : WorkUnit) : Phase Unit :=
  match u.watchlist.reportedError? with
  | some (href, message) => u.fail name (.remoteOperation href (u.policy.wording.apply message))
  | none => { result := .ok (), unit := u }

/-- Hands control back until the next poll. -/
def suspend (u : WorkUnit) : Phase Outcome :=
  (u.advance .suspend).andThen fun _ u =>
    { result := .ok (.suspend (u.policy.schedule.delayAfter u.polls.total)), unit := u }

/-- Ends the unit if everything is done, and suspends it if not. -/
def conclude (u : WorkUnit) : Phase Outcome :=
  if u.isDone then
    (u.advance (if u.cancelRequested then .cancel else .complete)).andThen fun _ u =>
      { result := .ok .done, unit := u, log := [u.stepLog "finish" none] }
  else u.suspend

/-- Discovers groups, looks for errors and settles. -/
def review (name : String) (u : WorkUnit) : Phase Outcome :=
  (u.discover.scan name).andThen fun _ u => u.conclude

/-- Takes an error that ended the lookups of a poll. A transport error is passed over as long as
there were not too many of them in a row; one too many is reported, and the unit can still be
resumed. Any other error is final. -/
def takeFailure (name : String) (e : OrchestrationError) (u : WorkUnit) : Phase Outcome :=
  if e.isRetryable then
    let u := { u with polls := u.polls.countFailure }
    -- The failure just counted is among those that are tolerated.
    if u.polls.failed ≤ u.policy.maxFailedPolls then u.suspend
    else
      (u.advance .suspend).andThen fun _ u =>
        { result := .error e, unit := u, log := [u.errorLog name e] }
  else u.fail name e

end WorkUnit

end TaskOrchestration
