import TaskOrchestration.Text.Blank
import TaskOrchestration.Text.Case
import TaskOrchestration.Text.Decimal
import TaskOrchestration.Text.Quoted
import TaskOrchestration.Text.Segment
import TaskOrchestration.Number.Shortest
import TaskOrchestration.Json.Printer
import TaskOrchestration.Json.Parser
import TaskOrchestration.Instant.Text
import TaskOrchestration.Json.Decode
import TaskOrchestration.Group.Report
import TaskOrchestration.Backend.Intercepted
import TaskOrchestration.Backend.Scripted
import TaskOrchestration.Operation.Scripted
import TaskOrchestration.WorkUnit.Session
import TaskOrchestration.Settings.Load
import TaskOrchestration.Proofs.Instant.Text
import TaskOrchestration.Proofs.Json.Reading
import TaskOrchestration.Proofs.Backend.Scripted
import TaskOrchestration.Proofs.WorkUnit.Phases
import TaskOrchestration.Proofs.WorkUnit.Endings
import TaskOrchestration.Proofs.WorkUnit.Coherence
import TaskOrchestration.Proofs.WorkUnit.Answers
import TaskOrchestration.Proofs.WorkUnit.Completion
import TaskOrchestration.Proofs.WorkUnit.Withheld
import TaskOrchestration.Proofs.WorkUnit.Likeness
import TaskOrchestration.Proofs.WorkUnit.Reloading
import TaskOrchestration.Proofs.WorkUnit.Gathering
import TaskOrchestration.Proofs.WorkUnit.Contacts
import TaskOrchestration.Proofs.WorkUnit.Histories
import TaskOrchestration.Proofs.WorkUnit.Invocation
import TaskOrchestration.Proofs.WorkUnit.Journaling
import TaskOrchestration.Proofs.WorkUnit.Discovery
import TaskOrchestration.Proofs.WorkUnit.FirstError
import TaskOrchestration.Proofs.WorkUnit.Reporting
import TaskOrchestration.Proofs.WorkUnit.Usability
import TaskOrchestration.Proofs.WorkUnit.Chronicles
import TaskOrchestration.Proofs.WorkUnit.Permanence
import TaskOrchestration.Proofs.WorkUnit.Settling
import TaskOrchestration.Proofs.WorkUnit.Counting
import TaskOrchestration.Proofs.WorkUnit.Delays
import TaskOrchestration.Proofs.WorkUnit.Reordering
import TaskOrchestration.Proofs.WorkUnit.Cancelling
import TaskOrchestration.Proofs.Group.Lineage
import TaskOrchestration.Proofs.Group.Refreshing
import TaskOrchestration.Proofs.WorkUnit.Identity
import TaskOrchestration.Proofs.WorkUnit.Tolerance
import TaskOrchestration.Proofs.WorkUnit.BestEffort
import TaskOrchestration.Proofs.Task.Merging
import TaskOrchestration.Proofs.Json.Fields
import TaskOrchestration.Proofs.Task.Grammar
import TaskOrchestration.Proofs.Task.Acceptance
import TaskOrchestration.Proofs.Backend.Replaying
import TaskOrchestration.Proofs.WorkUnit.Progress
import TaskOrchestration.Proofs.Settings.Layers
import TaskOrchestration.Proofs.Settings.Converting
import TaskOrchestration.Proofs.Settings.Files
import TaskOrchestration.Proofs.Settings.Loading
import TaskOrchestration.Proofs.Settings.Intervals
import TaskOrchestration.Proofs.Settings.Paths
import TaskOrchestration.Proofs.Backend.Outages
import TaskOrchestration.Proofs.Lifecycle.Language
import TaskOrchestration.Proofs.Task.Label
import TaskOrchestration.Proofs.Backend.Membership
import TaskOrchestration.Proofs.Settings.Paths
