import TaskOrchestration.Fields
import TaskOrchestration.Number.Binary64

/-!
# JSON values

The values that records are written to and read from. A number written without fraction and exponent
is an integer as long as it fits 64 bits, any other is a double; the two stay apart because every
reader tells them apart. The fields of an object stand in the order of their names, each name once:
that order decides which of several faults a reader reports.
-/

namespace TaskOrchestration

/-- A JSON value. -/
inductive Json
  | null
  | boolean (value : Bool)
  | integer (value : Int)
  | float (value : Binary64)
  | string (value : String)
  | list (items : List Json)
  | object (fields : List (String × Json))

namespace Json

/-- An object from fields in any order; of several with one name the last counts. -/
def ofFields (fields : List (String × Json)) : Json := .object (Fields.ofList fields)

/-- The value of a field of an object. -/
def field? (name : String) : Json → Option Json
  | .object fields => fields.lookup name
  | _ => none

/-- The value of a field, `null` when there is none. -/
def fieldOrNull (name : String) (v : Json) : Json := (v.field? name).getD .null

/-- A text or `null`. -/
def ofString? : Option String → Json
  | some s => .string s
  | none => .null

/-- A list of texts. -/
def ofStrings (ss : List String) : Json := .list (ss.map .string)

/-- A natural number. -/
def ofNat (n : Nat) : Json := .integer n

/-- A field that is left out when it is absent. -/
def presentField {α : Type} (name : String) (write : α → Json) : Option α → List (String × Json)
  | some a => [(name, write a)]
  | none => []

end Json

end TaskOrchestration
