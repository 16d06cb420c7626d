import TaskOrchestration.Format.Toml
import TaskOrchestration.Format.Yaml
import TaskOrchestration.Json.Parser
import TaskOrchestration.Settings.Convert
import TaskOrchestration.Settings.Directory
import TaskOrchestration.Settings.Environment

/-!
# Loading settings

Settings come from three sources: built-in defaults, a file over them, and the environment over
both. The file may be named with or without its extension, which says how it is written. What was
loaded is checked before it is used.
-/

namespace TaskOrchestration

/-- How a file of settings is written. -/
inductive FileFormat
  | json
  | toml
  | yaml
  deriving DecidableEq, Repr

namespace FileFormat

/-- The extensions, each with its format, in the order in which they are tried. -/
def extensions : List (String × FileFormat) :=
  [("json", .json), ("toml", .toml), ("yaml", .yaml), ("yml", .yaml)]

/-- The value a text stands for; `origin` is the file it comes from. -/
def read (f : FileFormat) (origin : String) (text : List Char) : Except String Json :=
  match f with
  | .json =>
    match Json.parse? text with
    | .ok v => .ok v
    | .error e => .error (e.message text ++ " in " ++ origin)
  | .toml => (Toml.parse? text).elim (.error ("invalid TOML in " ++ origin)) .ok
  | .yaml => (Yaml.parse? text).elim (.error ("invalid YAML in " ++ origin)) .ok

end FileFormat

/-- Why settings could not be loaded. -/
inductive LoadError
  /-- There is no such file. -/
  | notFound (path : String)
  /-- The extension of the file is unknown. -/
  | unknownFormat (path : String)
  /-- The file is not written as its extension says. -/
  | unreadable (reason : String)
  /-- The file does not hold a table. -/
  | notTable (found origin : String)
  /-- A value does not fit. -/
  | conversion (reason : ConversionError)
  /-- The settings cannot be used. -/
  | defect (defect : Settings.Defect)
  deriving DecidableEq, Repr

namespace LoadError

/-- The wording of the reason. -/
def message : LoadError → String
  | .notFound path => "configuration file \"" ++ path ++ "\" not found"
  | .unknownFormat path =>
    "configuration file \"" ++ path ++ "\" is not of a registered file format"
  | .unreadable reason => reason
  | .notTable found origin =>
    "invalid type: " ++ found ++ ", expected a map in " ++ origin ++ " in " ++ origin
  | .conversion reason => reason.message
  | .defect d => d.message

/-- The error of the orchestration. -/
def toOrchestrationError (e : LoadError) : OrchestrationError := .configuration e.message

end LoadError

namespace Directory

/-- Finds the file a path means: the file it leads to, else the first that it leads to with an
extension added. The name, the format and the content come back. -/
def find? (d : Directory) (path : String) : Except LoadError (String × FileFormat × String) :=
  let name := ofSteps (steps path)
  if !endsInName path then .error (.notFound path)
  else
    match if endsAsDirectory path then none else d.content? name with
    | some content =>
      match (extension? name).bind fun e => FileFormat.extensions.lookup e with
      | some format => .ok (name, format, content)
      | none => .error (.unknownFormat path)
    | none =>
      let found := FileFormat.extensions.findSome? fun (extension, format) =>
        let full := name ++ "." ++ extension
        (d.content? full).map fun content => (full, format, content)
      match found with
      | some file => .ok file
      | none => .error (.notFound path)

/-- The settings in a file. -/
def layer (d : Directory) (path : String) : Except LoadError Layer := do
  let (origin, format, content) ← d.find? path
  match format.read origin content.toList with
  | .error reason => .error (.unreadable reason)
  | .ok v =>
    match Setting.ofJson origin v with
    | .table entries _ => return entries
    | s => .error (.notTable s.valueText origin)

end Directory

namespace Settings

/-- The settings of several layers, the later ones over the earlier ones. -/
def ofLayers (layers : List Layer) : Except LoadError Settings :=
  match (Layer.merge layers).toSettings with
  | .error e => .error (.conversion e)
  | .ok s =>
    match s.defect? with
    | some d => .error (.defect d)
    | none => .ok s

/-- Loads settings from the environment alone, or from a file with the environment over it. -/
def load (files : Directory) (assignments : List (String × String)) (path : Option String) :
    Except LoadError Settings := do
  let environment := Environment.layer assignments
  match path with
  | none => ofLayers [environment]
  | some path => ofLayers [← files.layer path, environment]

end Settings

end TaskOrchestration
