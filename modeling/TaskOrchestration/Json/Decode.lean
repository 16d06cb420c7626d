import TaskOrchestration.Instant.Text
import TaskOrchestration.Json
import TaskOrchestration.Number.Shortest
import TaskOrchestration.Text.Quoted

/-!
# Reading records from JSON values

A reader turns a JSON value into a typed one or reports the first fault it meets, a `DecodeError`.
`RecordReader` is the reader of a structure. An object is visited field by field in the order of the
names; fields nobody asked for are passed over, and a field met twice, under its name and under an
alias, is a fault. A list is taken as the values of the fields in the order of their declaration.
-/

namespace TaskOrchestration

/-- What a reader met where it could not use it. -/
inductive Found
  | null
  | boolean (value : Bool)
  | integer (value : Int)
  | float (value : Binary64)
  | string (value : String)
  | list
  | object

/-- How a message names what was met. -/
def Found.text : Found → String
  | .null => "null"
  | .boolean true => "boolean `true`"
  | .boolean false => "boolean `false`"
  | .integer i => "integer `" ++ Text.signedDecimal i ++ "`"
  | .float x => "floating point `" ++ x.text Binary64.jsonStyle ++ "`"
  | .string s => "string " ++ Text.quoted s
  | .list => "sequence"
  | .object => "map"

/-- What a message says of a value of the wrong kind. -/
def Json.found : Json → Found
  | .null => .null
  | .boolean b => .boolean b
  | .integer i => .integer i
  | .float x => .float x
  | .string s => .string s
  | .list _ => .list
  | .object _ => .object

/-- Why a JSON value is not of the wanted type. -/
inductive DecodeError
  /-- A value of the wrong kind. -/
  | wrongType (found : Found) (expected : String)
  /-- An integer that the wanted type does not hold. -/
  | outOfRange (value : Int) (expected : String)
  /-- A list with a wrong number of items. -/
  | wrongLength (length : Nat) (expected : String)
  /-- A field that has to be there and is not. -/
  | missingField (name : String)
  /-- A field that is there under two names. -/
  | duplicateField (name : String)
  /-- A choice that does not exist, with those that do. -/
  | unknownChoice (name : String) (choices : List String)
  /-- An object that names a choice but has not exactly one field. -/
  | notSingleField
  /-- A value that fits none of the forms of a type. -/
  | noForm (typeName : String)
  /-- A text that is no instant. -/
  | badInstant (reason : Instant.TextError)

/-- The choices of a type as a message lists them. -/
def choicesText : List String → String
  | [a] => "`" ++ a ++ "`"
  | [a, b] => "`" ++ a ++ "` or `" ++ b ++ "`"
  | names => "one of " ++ ", ".intercalate (names.map fun n => "`" ++ n ++ "`")

/-- The wording of a fault. -/
def DecodeError.message : DecodeError → String
  | .wrongType found expected => "invalid type: " ++ found.text ++ ", expected " ++ expected
  | .outOfRange value expected =>
    "invalid value: integer `" ++ Text.signedDecimal value ++ "`, expected " ++ expected
  | .wrongLength length expected =>
    "invalid length " ++ Text.decimal length ++ ", expected " ++ expected
  | .missingField name => "missing field `" ++ name ++ "`"
  | .duplicateField name => "duplicate field `" ++ name ++ "`"
  | .unknownChoice name choices =>
    "unknown variant `" ++ name ++ "`, expected " ++ choicesText choices
  | .notSingleField => "invalid value: map, expected map with a single key"
  | .noForm typeName => "data did not match any variant of untagged enum " ++ typeName
  | .badInstant reason => reason.message

namespace Json

/-- A value of the wrong kind. -/
def refuse {α : Type} (v : Json) (expected : String) : Except DecodeError α :=
  .error (.wrongType v.found expected)

/-- Reads a text. -/
def toString? : Json → Except DecodeError String
  | .string s => .ok s
  | v => v.refuse "a string"

/-- Reads a truth value. -/
def toBool? : Json → Except DecodeError Bool
  | .boolean b => .ok b
  | v => v.refuse "a boolean"

/-- Reads an unsigned number of 32 bits. -/
def toUInt32? : Json → Except DecodeError UInt32
  | .integer i =>
    if 0 ≤ i && i < UInt32.size then .ok (UInt32.ofNat i.toNat) else .error (.outOfRange i "u32")
  | v => v.refuse "u32"

/-- Reads an unsigned number of 64 bits. -/
def toUInt64? : Json → Except DecodeError UInt64
  | .integer i =>
    if 0 ≤ i && i < UInt64.size then .ok (UInt64.ofNat i.toNat) else .error (.outOfRange i "u64")
  | v => v.refuse "u64"

/-- Reads an instant. -/
def toInstant? : Json → Except DecodeError Instant
  | .string s =>
    match Instant.ofText s with
    | .ok i => .ok i
    | .error reason => .error (.badInstant reason)
  | v => v.refuse "an RFC 3339 formatted date and time string"

/-- Reads a list item by item. -/
def toList? {α : Type} (read : Json → Except DecodeError α) : Json → Except DecodeError (List α)
  | .list items => items.mapM read
  | v => v.refuse "a sequence"

/-- Reads a value that may be absent; `null` says that it is. -/
def toOption? {α : Type} (read : Json → Except DecodeError α) : Json → Except DecodeError (Option α)
  | .null => .ok none
  | v => some <$> read v

/-- The choice of a name among finitely many. -/
def choose? {α : Type} (choices : List (String × α)) (name : String) : Except DecodeError α :=
  match choices.lookup name with
  | some a => .ok a
  | none => .error (.unknownChoice name (choices.map Prod.fst))

/-- Reads one of finitely many choices by name: a text, or an object whose one field has that name
and the value `null`. -/
def toChoice? {α : Type} (choices : List (String × α)) (v : Json) : Except DecodeError α :=
  match v with
  | .string name => choose? choices name
  | .object [(name, .null)] => choose? choices name
  | .object [(name, w)] => do
    let _ ← choose? choices name
    w.refuse "unit"
  | .object _ => .error .notSingleField
  | w => w.refuse "string or map"

/-- Reads one of finitely many choices that is given by its bare name. -/
def toBareChoice? {α : Type} (choices : List (String × α)) (v : Json) : Except DecodeError α :=
  match v with
  | .string name => choose? choices name
  | w => w.refuse "variant identifier"

end Json

/-- The reader of a structure `α` that collects what it has read in a `σ`. -/
structure RecordReader (σ α : Type) where
  /-- The name of the structure in messages. -/
  name : String
  /-- The names of the fields in the order of their declaration. -/
  fields : List String
  /-- Nothing read so far. -/
  empty : σ
  /-- Takes in the value of a field; a name that is no field changes nothing. -/
  visit : σ → String → Json → Except DecodeError σ
  /-- The structure, once all there is has been read. -/
  finish : σ → Except DecodeError α

namespace RecordReader

variable {σ α : Type}

/-- What is said of a list with the wrong number of fields. -/
def shape (r : RecordReader σ α) : String :=
  "struct " ++ r.name ++ " with " ++ Text.decimal r.fields.length ++ " elements"

/-- Takes in fields one after the other. -/
def visitAll (r : RecordReader σ α) : σ → List (String × Json) → Except DecodeError σ
  | s, [] => .ok s
  | s, (name, v) :: rest =>
    match r.visit s name v with
    | .ok s' => r.visitAll s' rest
    | .error e => .error e

/-- Reads the structure from a JSON value. -/
def read (r : RecordReader σ α) : Json → Except DecodeError α
  | .object fields =>
    match r.visitAll r.empty fields with
    | .ok s => r.finish s
    | .error e => .error e
  | .list items =>
    match r.visitAll r.empty (r.fields.zip items) with
    | .ok s =>
      match r.finish s with
      | .ok a =>
        if r.fields.length < items.length then
          .error (.wrongLength items.length "fewer elements in array")
        else .ok a
      | .error (.missingField _) => .error (.wrongLength items.length r.shape)
      | .error e => .error e
    | .error e => .error e
  | v => v.refuse ("struct " ++ r.name)

end RecordReader

/-- Fills the place of a field unless it is filled already. -/
def fillOnce {α : Type} (name : String) (place : Option α) (read : Json → Except DecodeError α)
    (v : Json) : Except DecodeError (Option α) :=
  match place with
  | some _ => .error (.duplicateField name)
  | none => some <$> read v

/-- What was read for a field that has to be there. -/
def require {α : Type} (name : String) (place : Option α) : Except DecodeError α :=
  match place with
  | some a => .ok a
  | none => .error (.missingField name)

end TaskOrchestration
