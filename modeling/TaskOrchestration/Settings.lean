import TaskOrchestration.Error
import TaskOrchestration.Polling
import TaskOrchestration.Wording

/-!
# Settings

How often to poll, how many failures to tolerate and which messages to replace, with the JSON form
of the settings and the check that a schedule can be made of them.
-/

namespace TaskOrchestration

/-- The settings of an orchestration. -/
structure Settings where
  /-- The settings of polling. -/
  polling : PollingSettings := {}
  /-- Rules added to the built-in ones. -/
  wordingRules : List WordingRule := []
  deriving DecidableEq, Repr

/-! ## JSON form -/

namespace PollingSettings

/-- The JSON form. -/
def toJson (s : PollingSettings) : Json :=
  .object [("attempts_before_next_interval", .ofNat s.attemptsBeforeNextInterval.toNat),
    ("intervals_ms", .list (s.intervalsMs.map fun ms => .ofNat ms.toNat)),
    ("max_failed_polls", .ofNat s.maxFailedPolls.toNat)]

/-- What has been read of the settings of polling. -/
structure Draft where
  intervalsMs : Option (List UInt64) := none
  attemptsBeforeNextInterval : Option UInt32 := none
  maxFailedPolls : Option UInt32 := none

/-- The settings, all of them being read; whatever is left out has its default. -/
def Draft.finish (d : Draft) : PollingSettings :=
  let defaults : PollingSettings := {}
  { intervalsMs := d.intervalsMs.getD defaults.intervalsMs
    attemptsBeforeNextInterval :=
      d.attemptsBeforeNextInterval.getD defaults.attemptsBeforeNextInterval
    maxFailedPolls := d.maxFailedPolls.getD defaults.maxFailedPolls }

/-- The reader of the settings of polling. -/
def reader : RecordReader Draft PollingSettings where
  name := "PollingConfig"
  fields := ["intervals_ms", "attempts_before_next_interval", "max_failed_polls"]
  empty := {}
  visit d name v :=
    match name with
    | "intervals_ms" => do
      let read := Json.toList? Json.toUInt64?
      return { d with intervalsMs := ← fillOnce "intervals_ms" d.intervalsMs read v }
    | "attempts_before_next_interval" => do
      return { d with
        attemptsBeforeNextInterval := ← fillOnce "attempts_before_next_interval"
          d.attemptsBeforeNextInterval Json.toUInt32? v }
    | "max_failed_polls" => do
      return { d with
        maxFailedPolls := ← fillOnce "max_failed_polls" d.maxFailedPolls Json.toUInt32? v }
    | _ => .ok d
  finish d := .ok d.finish

/-- Reads the settings of polling. -/
def ofJson (v : Json) : Except DecodeError PollingSettings := reader.read v

end PollingSettings

namespace WordingRule

/-- The JSON form. -/
def toJson (r : WordingRule) : Json :=
  .object [("message", .string r.message), ("replacement", .string r.replacement)]

/-- What has been read of a rule. -/
structure Draft where
  message : Option String := none
  replacement : Option String := none

/-- The reader of rules. -/
def reader : RecordReader Draft WordingRule where
  name := "ErrorRewrite"
  fields := ["message", "replacement"]
  empty := {}
  visit d name v :=
    match name with
    | "message" => do return { d with message := ← fillOnce "message" d.message Json.toString? v }
    | "replacement" => do
      return { d with replacement := ← fillOnce "replacement" d.replacement Json.toString? v }
    | _ => .ok d
  finish d := do
    let message ← require "message" d.message
    let replacement ← require "replacement" d.replacement
    return { message, replacement }

/-- Reads a rule. -/
def ofJson (v : Json) : Except DecodeError WordingRule := reader.read v

end WordingRule

namespace Settings

/-- The JSON form. -/
def toJson (s : Settings) : Json :=
  .object [("error_rewrites", .list (s.wordingRules.map WordingRule.toJson)),
    ("polling", s.polling.toJson)]

/-- What has been read of the settings. -/
structure Draft where
  polling : Option PollingSettings := none
  wordingRules : Option (List WordingRule) := none

/-- The reader of settings. -/
def reader : RecordReader Draft Settings where
  name := "OrchestratorConfig"
  fields := ["polling", "error_rewrites"]
  empty := {}
  visit d name v :=
    match name with
    | "polling" => do
      return { d with polling := ← fillOnce "polling" d.polling PollingSettings.ofJson v }
    | "error_rewrites" => do
      let read := Json.toList? WordingRule.ofJson
      return { d with wordingRules := ← fillOnce "error_rewrites" d.wordingRules read v }
    | _ => .ok d
  finish d := .ok { polling := d.polling.getD {}, wordingRules := d.wordingRules.getD [] }

/-- Reads settings. -/
def ofJson (v : Json) : Except DecodeError Settings := reader.read v

/-! ## Checking -/

/-- What makes settings unusable. -/
inductive Defect
  /-- There is no delay to wait for. -/
  | noIntervals
  /-- No poll is spent on a delay. -/
  | noAttempts
  /-- A rule replaces the empty message. -/
  | emptyMessage (replacement : String)
  deriving DecidableEq, Repr

/-- The wording of a defect. -/
def Defect.message : Defect → String
  | .noIntervals => "polling.intervals_ms must contain at least one interval"
  | .noAttempts => "polling.attempts_before_next_interval must be greater than zero"
  | .emptyMessage replacement =>
    "error rewrite to '" ++ replacement ++ "' has an empty message to match"

/-- The first defect of the settings. -/
def defect? (s : Settings) : Option Defect :=
  if s.polling.intervalsMs.isEmpty then some .noIntervals
  else if s.polling.attemptsBeforeNextInterval = 0 then some .noAttempts
  else
    (s.wordingRules.find? fun r => r.message.isEmpty).map fun r => .emptyMessage r.replacement

/-- Refuses settings that have a defect. -/
def check (s : Settings) : Except OrchestrationError Unit :=
  match s.defect? with
  | some d => .error (.configuration d.message)
  | none => .ok ()

end Settings

end TaskOrchestration
