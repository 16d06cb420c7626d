import TaskOrchestration.Format.Yaml.Input

/-!
# Plain YAML scalars

A text without quotation marks. It goes on up to a comment, the mark of a value, in flow form a mark
of the flow, or a line that is indented too little. Gaps at its end do not belong to it, and its
line ends are folded.
-/

namespace TaskOrchestration.Yaml

/-- Whether a plain text ends in front of this, in flow form or not. -/
def endsPlain (flow : Bool) : List Char → Bool
  | [] => true
  | ':' :: r => atGap r || (flow && atFlowMark r)
  | c :: _ => flow && isFlowMark c

/-- Reads plain text on a line, without the gap behind it, and yields what is left of the line.
`start` says whether a word starts here. In flow form a word is not a dash alone. -/
def words? (flow : Bool) : Bool → List Char → Option (List Char × List Char)
  | _, [] => some ([], [])
  | start, c :: r =>
    if isGap c then
      (words? flow true r).map fun (text, rest) =>
        if text.isEmpty then ([], rest) else (c :: text, rest)
    else if start && c == '#' then some ([], c :: r)
    else if start && flow && c == '-' && atFlowMark r then none
    else if endsPlain flow (c :: r) then some ([], c :: r)
    else (words? flow false r).map fun (text, rest) => (c :: text, rest)

/-- Goes on with a plain text on the lines below; `here` is where the lines above end, and `empty`
counts the empty ones among them since the last text. Outside of flow form lines have to be indented
by `least`. A tab left of that column stands on lines without text only. The mark of a document ends
the text at the start of a line; where it is indented it is text itself. -/
def plainBelow? (flow : Bool) (least : Nat) :
    Input → Nat → List (List Char) → Option (List Char × Input)
  | here, _, [] => some ([], here)
  | here, empty, line :: below =>
    let gap := line.takeWhile isGap
    let text := line.dropWhile isGap
    let there : Input := ⟨text, below, here.row + 1, gap.length, true⟩
    if text.isEmpty then plainBelow? flow least there (empty + 1) below
    else if (gap.take least).contains '\t' then
      if text.head? == some '#' then plainBelow? flow least there.skipLine empty below else none
    else if (!flow && gap.length < least) || (gap.isEmpty && isDocumentMark text) then
      some ([], there)
    else do
      let (inner, rest) ← words? flow true text
      if inner.isEmpty then return ([], there)
      else if rest.isEmpty then
        let (more, place) ← plainBelow? flow least (there.reach rest) 0 below
        return (lineFold empty ++ inner ++ more, place)
      else return (lineFold empty ++ inner, there.reach rest)

/-- Reads a plain text, in flow form or not, whose lines are indented by `least`. -/
def Input.plain? (flow : Bool) (least : Nat) (i : Input) : Option (List Char × Input) :=
  if flow && i.column < least then none
  else do
    let (inner, rest) ← words? flow true i.line
    if rest.isEmpty then
      let (more, place) ← plainBelow? flow least (i.reach rest) 0 i.below
      return (inner ++ more, place)
    else return (inner, i.reach rest)

end TaskOrchestration.Yaml
