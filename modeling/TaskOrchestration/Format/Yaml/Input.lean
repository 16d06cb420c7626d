import TaskOrchestration.Text.Segment

/-!
# Places in a YAML text

A text is a list of lines, and a place in it is what is left of one line together with the lines
below. Rows and columns are counted because indentation and the extent of keys depend on them. The
ways to move on are: past characters, past a gap, past a comment, and down to the next line that
holds anything.
-/

namespace TaskOrchestration.Yaml

/-- A space or a tab. -/
def isGap (c : Char) : Bool := c == ' ' || c == '\t'

/-- Whether a gap or the end of the line comes next. -/
def atGap : List Char → Bool
  | [] => true
  | c :: _ => isGap c

/-- The marks of the flow form. -/
def isFlowMark (c : Char) : Bool :=
  c == ',' || c == '[' || c == ']' || c == '\x7b' || c == '\x7d'

/-- Whether a mark of the flow form comes next. -/
def atFlowMark : List Char → Bool
  | [] => false
  | c :: _ => isFlowMark c

/-- Whether a line starts with a mark of three equal characters. -/
def isMark (c : Char) (line : List Char) : Bool :=
  line.take 3 == [c, c, c] && atGap (line.drop 3)

/-- Whether a line starts or ends a document. -/
def isDocumentMark (line : List Char) : Bool := isMark '-' line || isMark '.' line

/-- What one end of line and the empty lines behind it become within a text: a space, or the empty
lines alone. -/
def lineFold (empty : Nat) : List Char :=
  if empty == 0 then [' '] else List.replicate empty '\n'

/-- Every way to end a line as a line feed. -/
def unifyLineEnds : List Char → List Char
  | '\r' :: '\n' :: r => '\n' :: unifyLineEnds r
  | '\r' :: r => '\n' :: unifyLineEnds r
  | c :: r => c :: unifyLineEnds r
  | [] => []

/-- A place in a text. -/
structure Input where
  /-- What is left of the line. -/
  line : List Char
  /-- The lines below. -/
  below : List (List Char)
  row : Nat
  column : Nat
  /-- Whether the line held nothing but spaces and tabs so far. -/
  fresh : Bool
  deriving DecidableEq, Repr

namespace Input

/-- The start of a text. A null character ends it. -/
def ofText (text : List Char) : Input :=
  match Text.splitOn '\n' (unifyLineEnds (text.takeWhile (· != '\x00'))) with
  | line :: below => ⟨line, below, 0, 0, true⟩
  | [] => ⟨[], [], 0, 0, true⟩

/-- Whether nothing is left. -/
def atEnd (i : Input) : Bool := i.line.isEmpty && i.below.isEmpty

/-- The place at which `rest` is left of the line. -/
def reach (i : Input) (rest : List Char) : Input :=
  { i with line := rest, column := i.column + (i.line.length - rest.length), fresh := false }

/-- Moves past `n` characters. -/
def advance (i : Input) (n : Nat) : Input := i.reach (i.line.drop n)

/-- Moves past what is left of the line. -/
def skipLine (i : Input) : Input := i.reach []

/-- Moves past spaces and tabs. -/
def skipGap (i : Input) : Input := { i.reach (i.line.dropWhile isGap) with fresh := i.fresh }

/-- Moves past the gap behind a token, and past a comment if there is a gap in front of it. -/
def afterToken? (i : Input) : Option Input :=
  let here := i.skipGap
  match here.line with
  | '#' :: _ => if here.column == i.column then none else some here.skipLine
  | _ => some here

/-- Moves down to a line on which something else than characters of the kind `blank` and a comment
is left. -/
def contentLine (blank : Char → Bool) (i : Input) : Input :=
  let rest := i.line.dropWhile blank
  if rest.isEmpty || rest.head? == some '#' then
    match h : i.below with
    | [] => i.skipLine
    | line :: below => contentLine blank ⟨line, below, i.row + 1, 0, true⟩
  else i
termination_by i.below.length
decreasing_by simp [h]

/-- Moves on to the next token. Tabs may not stand for indentation: left of column `least` none may
stand in front of the first token of a line. -/
def nextToken? (least : Nat) (i : Input) : Option Input :=
  let here := i.contentLine isGap
  let margin := (here.line.takeWhile isGap).take (least - here.column)
  if here.fresh && margin.contains '\t' then none else some here.skipGap

end Input

end TaskOrchestration.Yaml
