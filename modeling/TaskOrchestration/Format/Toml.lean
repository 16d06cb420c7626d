import TaskOrchestration.Format.Toml.Key
import TaskOrchestration.Format.Toml.Moment
import TaskOrchestration.Format.Toml.Number
import TaskOrchestration.Format.Toml.Table

/-!
# Reading TOML

A TOML document as an object. Its lines open tables by headers and give values to keys; no key is
given twice, and a table written inline is closed. A text that is not TOML gives nothing. Dates and
times are kept as texts.
-/

namespace TaskOrchestration.Toml

/-! ## Values -/

/-- The value of a word. -/
def word? (cs : List Char) : Option Json :=
  if cs == "true".toList then some (.boolean true)
  else if cs == "false".toList then some (.boolean false)
  else
    match integer? cs with
    | some i => some (.integer i)
    | none => (float? cs).map .float

/-- The characters that end a word. -/
def endsWord (c : Char) : Bool :=
  c == ',' || c == ']' || c == '\x7d' || c == '#' || c == ' ' || c == '\t' || c == '\n' || c == '\r'

/-- Reads a value that is no container. -/
def simple? (cs : List Char) : Option (Json × List Char) :=
  match cs with
  | '"' :: _ => (string? cs).map fun (s, r) => (.string s, r)
  | '\'' :: _ => (string? cs).map fun (s, r) => (.string s, r)
  | _ =>
    match moment? cs with
    | some (text, r) => some (.string text, r)
    | none =>
      let w := cs.takeWhile fun c => !endsWord c
      (word? w).map fun v => (v, cs.drop w.length)

mutual

/-- Reads a value that lies in `depth` containers. -/
def value? : Nat → Nat → List Char → Option (Json × List Char)
  | 0, _, _ => none
  | steps + 1, depth, cs =>
    match cs with
    | '[' :: r =>
      if depth + 1 < depthLimit then
        (items? steps (depth + 1) [] (skipAll r)).map fun (vs, r) => (.list vs, r)
      else none
    | '\x7b' :: r =>
      if depth + 1 < depthLimit then
        match skipGaps r with
        | '\x7d' :: r' => some (.object [], r')
        | r' => (fields? steps (depth + 1) [] r').map fun (es, r) => (.object (fieldsOf es), r)
      else none
    | _ => simple? cs

/-- Reads the items of a list, the gap in front of the next one being left out. -/
def items? : Nat → Nat → List Json → List Char → Option (List Json × List Char)
  | 0, _, _, _ => none
  | steps + 1, depth, acc, cs =>
    match cs with
    | ']' :: r => some (acc.reverse, r)
    | _ => do
      let (v, r) ← value? steps depth cs
      match skipAll r with
      | ',' :: r' => items? steps depth (v :: acc) (skipAll r')
      | ']' :: r' => return ((v :: acc).reverse, r')
      | _ => none

/-- Reads the entries of an inline table. -/
def fields? : Nat → Nat → Entries → List Char → Option (Entries × List Char)
  | 0, _, _, _ => none
  | steps + 1, depth, acc, cs => do
    let (keys, r) ← key? cs
    match r with
    | '=' :: r' => do
      let (v, r) ← value? steps depth (skipGaps r')
      let acc ← give keys v acc
      match skipGaps r with
      | ',' :: r' => fields? steps depth acc r'
      | '\x7d' :: r' => return (acc, r')
      | _ => none
    | _ => none

end

/-! ## Documents -/

/-- Reads lines into the table of the last header, `header`; each step takes a character at least.
-/
def lines? : Nat → List String → Entries → List Char → Option Entries
  | 0, _, _, _ => none
  | steps + 1, header, entries, cs =>
    match skipAll cs with
    | [] => some entries
    | '[' :: '[' :: r => do
      let (keys, r) ← key? r
      match r with
      | ']' :: ']' :: r' => do
        let entries ← openListed keys entries
        lines? steps keys entries (← lineEnd? r')
      | _ => none
    | '[' :: r => do
      let (keys, r) ← key? r
      match r with
      | ']' :: r' => do
        let entries ← openTable keys entries
        lines? steps keys entries (← lineEnd? r')
      | _ => none
    | r => do
      let (keys, r) ← key? r
      match r with
      | '=' :: r' => do
        let (v, r) ← value? (r'.length + 1) 0 (skipGaps r')
        let entries ← atHeader (give keys v) header entries
        lines? steps header entries (← lineEnd? r)
      | _ => none

/-- The object of a document. A byte order mark may come first. -/
def parse? (text : List Char) : Option Json :=
  let text := if text.head? == some '\uFEFF' then text.drop 1 else text
  (lines? (text.length + 1) [] [] text).map fun entries => .object (fieldsOf entries)

end TaskOrchestration.Toml
