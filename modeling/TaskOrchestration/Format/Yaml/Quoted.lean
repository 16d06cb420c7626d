import TaskOrchestration.Format.Yaml.Input
import TaskOrchestration.Text.Radix

/-!
# Quoted YAML scalars

A text between single or double quotation marks, over as many lines as it takes. A line end within
it is folded: the gaps around it are dropped and it becomes a space, or the empty lines that follow
it. Between double quotation marks characters may be written as escapes, and a backslash at the end
of a line keeps the line end out of the text.
-/

namespace TaskOrchestration.Yaml

/-- How a line of quoted text ends. -/
inductive LineEnd
  /-- By the closing quotation mark; `rest` stands behind it. -/
  | closed (rest : List Char)
  /-- Within the text, to be folded. -/
  | folded
  /-- Within the text, by a backslash. -/
  | joined

/-- Puts a space or a tab in front of a text; in front of a folded line end there is none. -/
def consGap (c : Char) : List Char × LineEnd → List Char × LineEnd
  | ([], .folded) => ([], .folded)
  | (text, lineEnd) => (c :: text, lineEnd)

/-- Reads a line between single quotation marks. Two of them stand for one. -/
def singleQuotedLine : List Char → List Char × LineEnd
  | [] => ([], .folded)
  | '\'' :: '\'' :: r =>
    let (text, lineEnd) := singleQuotedLine r
    ('\'' :: text, lineEnd)
  | '\'' :: r => ([], .closed r)
  | c :: r =>
    if isGap c then consGap c (singleQuotedLine r)
    else
      let (text, lineEnd) := singleQuotedLine r
      (c :: text, lineEnd)

/-- The character of an escape of one letter. -/
def escaped? (c : Char) : Option Char :=
  match c with
  | '0' => some '\x00'
  | 'a' => some '\x07'
  | 'b' => some '\x08'
  | 't' | '\t' => some '\t'
  | 'n' => some '\n'
  | 'v' => some '\x0b'
  | 'f' => some '\x0c'
  | 'r' => some '\r'
  | 'e' => some '\x1b'
  | ' ' => some ' '
  | '"' => some '"'
  | '/' => some '/'
  | '\\' => some '\\'
  | 'N' => some '\u0085'
  | '_' => some '\u00a0'
  | 'L' => some '\u2028'
  | 'P' => some '\u2029'
  | _ => none

/-- Puts a character in front of a text, whatever it is. -/
def consEscaped (c : Char) (found : List Char × LineEnd) : List Char × LineEnd :=
  (c :: found.1, found.2)

/-- Reads a line between double quotation marks. -/
def doubleQuotedLine? : List Char → Option (List Char × LineEnd)
  | [] => some ([], .folded)
  | '"' :: r => some ([], .closed r)
  | ['\\'] => some ([], .joined)
  | '\\' :: 'x' :: a :: b :: r => do
    let c ← Text.ofHexadecimal? [a, b]
    return consEscaped c (← doubleQuotedLine? r)
  | '\\' :: 'u' :: a :: b :: c :: d :: r => do
    let c ← Text.ofHexadecimal? [a, b, c, d]
    return consEscaped c (← doubleQuotedLine? r)
  | '\\' :: 'U' :: a :: b :: c :: d :: e :: f :: g :: h :: r => do
    let c ← Text.ofHexadecimal? [a, b, c, d, e, f, g, h]
    return consEscaped c (← doubleQuotedLine? r)
  | '\\' :: c :: r => do
    let c ← escaped? c
    return consEscaped c (← doubleQuotedLine? r)
  | c :: r => do
    let found ← doubleQuotedLine? r
    return if isGap c then consGap c found else consEscaped c found

/-- Goes on with a quoted text on the lines below, the first of which is `row`. They have to be
indented by `least`, and no document may start or end there. `joined` says whether a backslash stood
at the last line end, and `empty` counts the empty lines since then. -/
def quotedBelow? (read : List Char → Option (List Char × LineEnd)) (least : Nat) :
    Bool → Nat → Nat → List (List Char) → Option (List Char × Input)
  | _, _, _, [] => none
  | joined, empty, row, line :: below =>
    let gap := line.takeWhile isGap
    let text := line.dropWhile isGap
    -- A closing mark may follow a joined line end at once, wherever the text is indented.
    let closes := joined && empty == 0 && line.head? == some '"'
    if (gap.take least).contains '\t' then none
    else if text.isEmpty then quotedBelow? read least joined (empty + 1) (row + 1) below
    else if !closes && (gap.length < least || (gap.isEmpty && isDocumentMark text)) then none
    else do
      let front := if joined then List.replicate empty '\n' else lineFold empty
      let (inner, lineEnd) ← read text
      match lineEnd with
      | .closed rest => return (front ++ inner, Input.reach ⟨line, below, row, 0, true⟩ rest)
      | .folded =>
        let (more, place) ← quotedBelow? read least false 0 (row + 1) below
        return (front ++ inner ++ more, place)
      | .joined =>
        let (more, place) ← quotedBelow? read least true 0 (row + 1) below
        return (front ++ inner ++ more, place)

/-- Whether the place behind a quoted text allows one to end there: only the mark of a value or, in
flow form, a mark of the flow may follow on its line. Outside of flow form a text of several lines
is no key. -/
def mayFollowQuoted (flow severalLines : Bool) : List Char → Bool
  | [] => true
  | ':' :: _ => flow || !severalLines
  | c :: _ => flow && (c == ',' || c == ']' || c == '\x7d')

/-- Reads a quoted text, in flow form or not, whose further lines are indented by `least`. -/
def Input.quoted? (flow : Bool) (least : Nat) (i : Input) : Option (List Char × Input) := do
  let (read, text) ← match i.line with
    | '"' :: r => some (doubleQuotedLine?, r)
    | '\'' :: r => some (fun line => some (singleQuotedLine line), r)
    | _ => none
  let (inner, lineEnd) ← read text
  let (inner, place) ← match lineEnd with
    | .closed rest => some (inner, i.reach rest)
    | .folded =>
      (quotedBelow? read least false 0 (i.row + 1) i.below).map fun (more, place) =>
        (inner ++ more, place)
    | .joined =>
      (quotedBelow? read least true 0 (i.row + 1) i.below).map fun (more, place) =>
        (inner ++ more, place)
  let place ← place.afterToken?
  if mayFollowQuoted flow (i.row != place.row) place.line then return (inner, place) else none

end TaskOrchestration.Yaml
