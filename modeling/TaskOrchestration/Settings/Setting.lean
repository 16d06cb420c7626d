import TaskOrchestration.Json
import TaskOrchestration.Number.Shortest
import TaskOrchestration.Text.Quoted

/-!
# Values of settings

The values that files and the environment give, before anything is known of their types: scalars,
lists and tables. Each remembers where it comes from, so that a complaint can say so; a value that
was only made up to hold others comes from nowhere.
-/

namespace TaskOrchestration

/-- A value without parts. -/
inductive Scalar
  | absent
  | boolean (value : Bool)
  | integer (value : Int)
  | float (value : Binary64)
  | text (value : String)
  deriving DecidableEq, Repr

/-- A value with its origin. -/
inductive Setting
  | scalar (value : Scalar) (origin : Option String)
  | list (items : List Setting) (origin : Option String)
  | table (entries : List (String × Setting)) (origin : Option String)

namespace Setting

/-- No value at all, from nowhere. -/
def absent : Setting := .scalar .absent none

/-- A table without entries, from nowhere. -/
def emptyTable : Setting := .table [] none

/-- The items of a list; any other value has none. -/
def items : Setting → List Setting
  | .list items _ => items
  | _ => []

/-- Where a value comes from. -/
def origin : Setting → Option String
  | .scalar _ origin | .list _ origin | .table _ origin => origin

/-- The entries of a table; any other value has none. -/
def entries : Setting → List (String × Setting)
  | .table entries _ => entries
  | _ => []

/-- The value as a table: any other value gives way to one from nowhere. -/
def asTable : Setting → Setting
  | .table entries origin => .table entries origin
  | _ => emptyTable

/-- An entry of a table. -/
def entry? (name : String) (s : Setting) : Option Setting := s.entries.lookup name

/-- The table with an entry put in. -/
def putEntry (s : Setting) (name : String) (value : Setting) : Setting :=
  .table (Fields.insert name value s.asTable.entries) s.asTable.origin

/-! ## From JSON -/

/-- A whole number; what 63 bits and a sign do not hold is taken as a double. -/
def Scalar.ofInt (i : Int) : Scalar :=
  if -(Nat.pow 2 63 : Int) ≤ i && i < Nat.pow 2 63 then .integer i
  else .float (Binary64.ofRatio (decide (i < 0)) i.natAbs 1)

mutual

/-- The setting of a JSON value. -/
def ofJson (origin : String) : Json → Setting
  | .null => .scalar .absent (some origin)
  | .boolean b => .scalar (.boolean b) (some origin)
  | .integer i => .scalar (Scalar.ofInt i) (some origin)
  | .float x => .scalar (.float x) (some origin)
  | .string s => .scalar (.text s) (some origin)
  | .list items => .list (ofJsonItems origin items) (some origin)
  | .object fields => .table (ofJsonFields origin fields) (some origin)

/-- The settings of the items of a list. -/
def ofJsonItems (origin : String) : List Json → List Setting
  | [] => []
  | v :: rest => ofJson origin v :: ofJsonItems origin rest

/-- The settings of the fields of an object. -/
def ofJsonFields (origin : String) : List (String × Json) → List (String × Setting)
  | [] => []
  | (name, v) :: rest => (name, ofJson origin v) :: ofJsonFields origin rest

end

/-! ## Wording -/

/-- What a truth value is called. -/
def truthText (b : Bool) : String := if b then "true" else "false"

/-- What a complaint about a value calls it. -/
def valueText : Setting → String
  | .scalar .absent _ => "unit value"
  | .scalar (.boolean b) _ => "boolean `" ++ truthText b ++ "`"
  | .scalar (.integer i) _ => "64-bit integer `" ++ Text.signedDecimal i ++ "`"
  | .scalar (.float x) _ => "floating point `" ++ x.text Binary64.plainStyle ++ "`"
  | .scalar (.text s) _ => "string " ++ Text.quoted s
  | .list .. => "sequence"
  | .table .. => "map"

/-- What a complaint calls a value that stands in place of a list or a structure. -/
def shapeText : Setting → String
  | .scalar (.integer i) _ => "integer `" ++ Text.signedDecimal i ++ "`"
  | .scalar (.float x) _ => "floating point `" ++ x.text Binary64.pointStyle ++ "`"
  | s => s.valueText

end Setting

end TaskOrchestration
