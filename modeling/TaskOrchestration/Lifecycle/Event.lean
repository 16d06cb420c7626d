import TaskOrchestration.Json.Decode

/-!
# Events in the life of a unit

An event in JSON is an object with the field `type`, and the field `data` for the message of a
failure, or a list of the two.
-/

namespace TaskOrchestration.Lifecycle

/-- What can happen to a unit. -/
inductive Event
  /-- The operation is invoked. -/
  | start
  /-- Control goes back to the host. -/
  | suspend
  /-- The host resumes the unit. -/
  | resume
  /-- Everything tracked is done. -/
  | complete
  /-- Everything tracked is done after a request to cancel, or nothing was ever started. -/
  | cancel
  /-- An error stops the unit. -/
  | fail (message : String)
  deriving DecidableEq, Repr

/-- The kinds of event. -/
inductive EventKind
  | start
  | suspend
  | resume
  | complete
  | cancel
  | fail
  deriving DecidableEq, Repr

namespace Event

/-- The kind of an event. -/
def kind : Event → EventKind
  | .start => .start
  | .suspend => .suspend
  | .resume => .resume
  | .complete => .complete
  | .cancel => .cancel
  | .fail _ => .fail

/-- The message of a failure. -/
def errorMessage? : Event → Option String
  | .fail message => some message
  | _ => none

end Event

namespace EventKind

/-- The name of a kind in messages. -/
def name : EventKind → String
  | .start => "start"
  | .suspend => "suspend"
  | .resume => "resume"
  | .complete => "complete"
  | .cancel => "cancel"
  | .fail => "fail"

/-- The name of a kind in JSON. -/
def tag : EventKind → String
  | .start => "Start"
  | .suspend => "Suspend"
  | .resume => "Resume"
  | .complete => "Complete"
  | .cancel => "Cancel"
  | .fail => "Fail"

/-- All kinds in the order in which messages list them. -/
def all : List EventKind := [.start, .suspend, .resume, .complete, .cancel, .fail]

/-- The kinds by their names in JSON. -/
def choices : List (String × EventKind) := all.map fun k => (k.tag, k)

/-- Reads the kind that a field holds. -/
def ofField (v : Json) : Except DecodeError EventKind := Json.toChoice? choices v

/-- Reads the kind that stands in a list; there only its bare name does. -/
def ofItem (v : Json) : Except DecodeError EventKind := Json.toBareChoice? choices v

/-- The event of a kind without data. -/
def withoutData? : EventKind → Option Event
  | .start => some .start
  | .suspend => some .suspend
  | .resume => some .resume
  | .complete => some .complete
  | .cancel => some .cancel
  | .fail => none

/-- Reads the data of an event of this kind: the message of a failure, `null` for any other. -/
def readData (k : EventKind) (data : Json) : Except DecodeError Event :=
  match k.withoutData?, data with
  | none, v => .fail <$> v.toString?
  | some event, .null => .ok event
  | some _, v => v.refuse ("unit variant UnitEvent::" ++ k.tag)

end EventKind

namespace Event

/-- The JSON form. -/
def toJson (e : Event) : Json :=
  .object (Json.presentField "data" .string e.errorMessage? ++ [("type", .string e.kind.tag)])

/-- What an event is called where one was expected. -/
def expected : String := "adjacently tagged enum UnitEvent"

/-- Reads an event. -/
def ofJson : Json → Except DecodeError Event
  | .object fields =>
    match fields.lookup "type" with
    | none => .error (.missingField "type")
    | some type => do
      let kind ← EventKind.ofField type
      match fields.lookup "data", kind.withoutData? with
      | some data, _ => kind.readData data
      | none, some event => .ok event
      | none, none => .error (.missingField "data")
  | .list [] => .error (.wrongLength 0 expected)
  | .list [type] => do
    let _ ← EventKind.ofItem type
    .error (.wrongLength 1 expected)
  | .list (type :: data :: rest) => do
    let kind ← EventKind.ofItem type
    let event ← kind.readData data
    if rest.isEmpty then .ok event
    else .error (.wrongLength (rest.length + 2) "fewer elements in array")
  | v => v.refuse expected

end Event

end TaskOrchestration.Lifecycle
