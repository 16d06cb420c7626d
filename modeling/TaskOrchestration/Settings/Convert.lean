import TaskOrchestration.Settings
import TaskOrchestration.Settings.Setting
import TaskOrchestration.Text.Case

/-!
# Settings out of values

The settings of an orchestration are found in a tree of values. Scalars are converted as far as it
makes sense: a truth value counts as 0 or 1, a double is rounded, a text is read as a number, and
any scalar can be a text. Lists and structures have to be what they are.
-/

namespace TaskOrchestration

/-- A step on the way to a value. -/
inductive Step
  /-- To the entry of a table. -/
  | entry (name : String)
  /-- To the item of a list. -/
  | item (index : Nat)
  deriving DecidableEq, Repr

/-- The steps as one key: a point stands between two names only. -/
def keyText : List Step → String
  | [] => ""
  | .item i :: rest => "[" ++ Text.decimal i ++ "]" ++ keyText rest
  | .entry name :: .entry next :: rest => name ++ "." ++ keyText (.entry next :: rest)
  | .entry name :: rest => name ++ keyText rest

/-- Why a tree of values gives no settings. -/
inductive ConversionError
  /-- A value that cannot be converted. -/
  | badValue (found expected : String) (steps : List Step) (origin : Option String)
  /-- A value that stands in place of a list or a structure. -/
  | badShape (found expected : String)
  /-- A list that is too short for a structure. -/
  | tooShort (length : Nat) (expected : String)
  /-- An entry that has to be there. -/
  | missing (name : String)
  deriving DecidableEq, Repr

namespace ConversionError

/-- The wording of the reason. -/
def message : ConversionError → String
  | .badValue found expected steps origin =>
    let key := if steps.isEmpty then "" else " for key `" ++ keyText steps ++ "`"
    let place := match origin with
      | some origin => " in " ++ origin
      | none => ""
    "invalid type: " ++ found ++ ", expected " ++ expected ++ key ++ place
  | .badShape found expected => "invalid type: " ++ found ++ ", expected " ++ expected
  | .tooShort length expected =>
    "invalid length " ++ Text.decimal length ++ ", expected " ++ expected
  | .missing name => "missing field `" ++ name ++ "`"

/-- The error as seen from one step further up. -/
def behind (step : Step) : ConversionError → ConversionError
  | .badValue found expected steps origin => .badValue found expected (step :: steps) origin
  | e => e

end ConversionError

/-- The result of a conversion. -/
abbrev Converted (α : Type) := Except ConversionError α

/-- A conversion one step down. -/
def Converted.behind {α : Type} (step : Step) : Converted α → Converted α
  | .ok a => .ok a
  | .error e => .error (e.behind step)

namespace Setting

/-- A value that cannot be converted. -/
def refuseValue {α : Type} (s : Setting) (expected : String) : Converted α :=
  .error (.badValue s.valueText expected [] s.origin)

/-- A value in place of a list or a structure. -/
def refuseShape {α : Type} (s : Setting) (expected : String) : Converted α :=
  .error (.badShape s.shapeText expected)

/-- The number that a text stands for. -/
def textNumber? (text : String) : Option Nat :=
  match Text.lower text with
  | "true" | "on" | "yes" => some 1
  | "false" | "off" | "no" => some 0
  | _ => Text.unsigned? UInt64.size text.toList

/-- A number of 64 bits. -/
def toUInt64 (s : Setting) : Converted UInt64 :=
  match s with
  | .scalar (.boolean b) _ => .ok (if b then 1 else 0)
  | .scalar (.integer i) _ =>
    if 0 ≤ i && i < UInt64.size then .ok (UInt64.ofNat i.toNat)
    else s.refuseValue "an unsigned 64 bit or less integer"
  | .scalar (.float x) _ => .ok (UInt64.ofNat (x.toNatClamped (UInt64.size - 1)))
  | .scalar (.text text) _ =>
    match textNumber? text with
    | some n => .ok (UInt64.ofNat n)
    | none => s.refuseValue "an integer"
  | _ => s.refuseValue "an integer"

/-- A number of 32 bits. -/
def toUInt32 (s : Setting) : Converted UInt32 :=
  match s.toUInt64 with
  | .error e => .error e
  | .ok n =>
    if n.toNat < UInt32.size then .ok (UInt32.ofNat n.toNat)
    else
      .error (.badValue ("64-bit unsigned integer `" ++ Text.decimal n.toNat ++ "`")
        "an unsigned 32 bit integer" [] none)

/-- A text. -/
def toText (s : Setting) : Converted String :=
  match s with
  | .scalar (.boolean b) _ => .ok (truthText b)
  | .scalar (.integer i) _ => .ok (Text.signedDecimal i)
  | .scalar (.float x) _ => .ok (x.text Binary64.plainStyle)
  | .scalar (.text text) _ => .ok text
  | _ => s.refuseValue "a string"

/-- Converts items in turn; the first has the number `index`. -/
def convertItems {α : Type} (convert : Setting → Converted α) :
    Nat → List Setting → Converted (List α)
  | _, [] => .ok []
  | index, s :: rest => do
    let a ← (convert s).behind (.item index)
    let as ← convertItems convert (index + 1) rest
    return a :: as

/-- A list. -/
def toList {α : Type} (convert : Setting → Converted α) : Setting → Converted (List α)
  | .list items _ => convertItems convert 0 items
  | s => s.refuseShape "a sequence"

/-- An entry that may be missing. -/
def entryIn {α : Type} (name : String) (convert : Setting → Converted α)
    (entries : List (String × Setting)) : Converted (Option α) :=
  match entries.lookup name with
  | some s => some <$> (convert s).behind (.entry name)
  | none => .ok none

/-- An item that may be missing. -/
def itemIn {α : Type} (index : Nat) (convert : Setting → Converted α) (items : List Setting) :
    Converted (Option α) :=
  match items[index]? with
  | some s => some <$> (convert s).behind (.item index)
  | none => .ok none

/-- The settings of polling: a table, or a list of its entries in the order of their declaration. -/
def toPollingSettings (s : Setting) : Converted PollingSettings :=
  let draft : Converted PollingSettings.Draft := match s with
    | .table entries _ => do
      -- Entries are converted in the order of their names; the first fault is reported.
      let attempts ← entryIn "attempts_before_next_interval" toUInt32 entries
      let intervals ← entryIn "intervals_ms" (toList toUInt64) entries
      let failed ← entryIn "max_failed_polls" toUInt32 entries
      return ⟨intervals, attempts, failed⟩
    | .list items _ => do
      let intervals ← itemIn 0 (toList toUInt64) items
      let attempts ← itemIn 1 toUInt32 items
      let failed ← itemIn 2 toUInt32 items
      return ⟨intervals, attempts, failed⟩
    | s => s.refuseShape "struct PollingConfig"
  draft.map PollingSettings.Draft.finish

/-- A rule for messages: a table, or a list of message and replacement. -/
def toWordingRule (s : Setting) : Converted WordingRule :=
  match s with
  | .table entries _ => do
    let message ← entryIn "message" toText entries
    let replacement ← entryIn "replacement" toText entries
    match message, replacement with
    | some message, some replacement => return { message, replacement }
    | none, _ => .error (.missing "message")
    | _, none => .error (.missing "replacement")
  | .list items _ => do
    let message ← itemIn 0 toText items
    let replacement ← itemIn 1 toText items
    match message, replacement with
    | some message, some replacement => return { message, replacement }
    | _, _ => .error (.tooShort items.length "struct ErrorRewrite with 2 elements")
  | s => s.refuseShape "struct ErrorRewrite"

/-- The settings; what is not there has its default. -/
def toSettings (s : Setting) : Converted Settings := do
  let rules ← entryIn "error_rewrites" (toList toWordingRule) s.entries
  let polling ← entryIn "polling" toPollingSettings s.entries
  return { polling := polling.getD {}, wordingRules := rules.getD [] }

end Setting

end TaskOrchestration
