import TaskOrchestration.Lifecycle
import TaskOrchestration.Progress
import TaskOrchestration.Record
import TaskOrchestration.Settings

/-!
# Units of work

A unit waits, on behalf of its host, for the remote tasks that an operation started. Between two
calls it survives as its record alone: `WorkUnit.record` writes it and `WorkUnit.ofRecord` takes it
up again. What a unit does in a call is in `TaskOrchestration.WorkUnit.Run`.
-/

namespace TaskOrchestration

/-- How a unit polls and words errors. It is not part of the record; the host gives it anew. -/
structure Policy where
  /-- The wording of error messages. -/
  wording : Wording := .standard
  /-- The delays between polls. -/
  schedule : Schedule := .ofSettings {}
  /-- How many polls in a row may end in a transport error before one is reported. -/
  maxFailedPolls : UInt32 := ({} : PollingSettings).maxFailedPolls

namespace Policy

/-- Takes over the settings of polling and adds the rules for messages. -/
def withSettings (p : Policy) (s : Settings) : Policy where
  wording := p.wording.addAll s.wordingRules
  schedule := .ofSettings s.polling
  maxFailedPolls := s.polling.maxFailedPolls

/-- Replaces the wording of messages. -/
def withWording (p : Policy) (w : Wording) : Policy := { p with wording := w }

end Policy

/-- A unit of work. -/
structure WorkUnit where
  /-- How the unit polls and words errors. -/
  policy : Policy := {}
  /-- The tasks, once the operation has answered. -/
  tasks : Option (List TaskReport) := none
  /-- The groups the tasks have revealed. -/
  groups : List TrackedGroup := []
  /-- How often the unit has polled. -/
  polls : PollCounters := {}
  /-- Whether the unit was asked to cancel. -/
  cancelRequested : Bool := false
  /-- Where the unit stands. -/
  lifecycle : Lifecycle := {}

namespace WorkUnit

/-- The state of the unit. -/
def state (u : WorkUnit) : Lifecycle.State := u.lifecycle.state

/-- Whether the operation has answered. -/
def isInitiated (u : WorkUnit) : Bool := u.tasks.isSome

/-- The tracked tasks, none before the operation has answered. -/
def knownTasks (u : WorkUnit) : List TaskReport := u.tasks.getD []

/-- All that the unit tracks. -/
def watchlist (u : WorkUnit) : Watchlist := ⟨u.knownTasks, u.groups⟩

/-- Whether the operation has answered and there is nothing left to wait for. -/
def isDone (u : WorkUnit) : Bool := u.isInitiated && (u.watchlist.isEmpty || u.watchlist.allDone)

/-- What the unit is doing, for the operator. -/
def progressText (u : WorkUnit) (host : HostMode) : String :=
  u.watchlist.progressText u.isInitiated host

/-! ## Record -/

/-- The record to keep until the next call. -/
def record (u : WorkUnit) : OutputRecord where
  tasks := u.tasks
  taskGroups := u.tasks.map fun _ => u.groups
  pollCounters := u.polls
  cancelRequested := u.cancelRequested
  state := u.state

/-- The state in which a unit is taken up again: a record that holds tasks but was written without a
state belongs to a unit that is suspended. -/
def resumedState (r : OutputRecord) : Lifecycle.State :=
  if r.state = .notStarted ∧ r.tasks.isSome then .suspended else r.state

/-- The unit of a record. -/
def ofRecord (policy : Policy) (r : OutputRecord) : WorkUnit where
  policy := policy
  tasks := r.tasks
  groups := r.taskGroups.getD []
  polls := r.pollCounters
  cancelRequested := r.cancelRequested
  lifecycle := .ofState (resumedState r)

/-- The unit of a record in JSON. -/
def ofRecordJson (policy : Policy) (v : Json) : Except DecodeError WorkUnit :=
  ofRecord policy <$> OutputRecord.ofJson v

end WorkUnit

end TaskOrchestration
