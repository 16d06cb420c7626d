import TaskOrchestration.Number.Reading
import TaskOrchestration.Text.Radix

/-!
# What a YAML scalar stands for

A plain text without a tag is taken for what it looks like: null, a truth value, an integer, a
number, or else a text. A tag of the core schema asks for one kind; a text that is not of that kind
stands for nothing. Any other text stands for itself.
-/

namespace TaskOrchestration.Yaml

/-- What a text stands for. -/
inductive Scalar
  /-- Nothing. -/
  | bad
  | null
  | boolean (value : Bool)
  | integer (value : Int)
  /-- A number, kept as it is written. -/
  | real (text : List Char)
  | string (value : String)
  deriving DecidableEq, Repr

/-- What a tag asks for. -/
inductive Tag
  /-- A kind of the core schema. -/
  | core (kind : String)
  /-- A text. -/
  | other
  deriving DecidableEq, Repr

namespace Scalar

/-- The words for infinities and for what is not a number. -/
def realWords : List String :=
  [".inf", ".Inf", ".INF", "+.inf", "+.Inf", "+.INF", "-.inf", "-.Inf", "-.INF", ".nan", "NaN",
    ".NAN"]

/-- Whether a text is written as a number. -/
def isReal (cs : List Char) : Bool :=
  realWords.contains (String.ofList cs) || (Binary64.ofText? cs).isSome

/-- An integer of 64 bits. -/
def integer? (cs : List Char) : Option Int := Text.signed? (Nat.pow 2 63) cs

/-- An integer that is marked as one: in base 16 or 8, or by a plus sign, which may stand in front
of any integer. -/
def markedInteger? (cs : List Char) : Option Int :=
  match cs with
  | '0' :: 'x' :: r => Text.signedInBase? 16 (Nat.pow 2 63) r
  | '0' :: 'o' :: r => Text.signedInBase? 8 (Nat.pow 2 63) r
  | '+' :: r => integer? r
  | _ => none

/-- What a plain text without a tag stands for. -/
def ofPlain (cs : List Char) : Scalar :=
  match String.ofList cs with
  | "~" | "null" => .null
  | "true" => .boolean true
  | "false" => .boolean false
  | text =>
    match (markedInteger? cs).or (integer? cs) with
    | some i => .integer i
    | none => if isReal cs then .real cs else .string text

/-- What a plain text stands for where a kind of the core schema is asked for. -/
def ofKind (kind : String) (cs : List Char) : Scalar :=
  let text := String.ofList cs
  match kind with
  | "bool" =>
    if text == "true" then .boolean true else if text == "false" then .boolean false else .bad
  | "int" => (integer? cs).elim .bad .integer
  | "float" => if isReal cs then .real cs else .bad
  | "null" => if text == "~" || text == "null" then .null else .bad
  | _ => .string text

/-- What a text stands for. Only a plain one can stand for anything but itself. -/
def ofText (tag : Option Tag) (isPlain : Bool) (cs : List Char) : Scalar :=
  if isPlain then
    match tag with
    | none => ofPlain cs
    | some (.core kind) => ofKind kind cs
    | some .other => .string (String.ofList cs)
  else .string (String.ofList cs)

/-- A quoted text stands for itself, whatever its tag. -/
theorem ofText_quoted (tag : Option Tag) (cs : List Char) :
    ofText tag false cs = .string (String.ofList cs) := rfl

end Scalar

end TaskOrchestration.Yaml
