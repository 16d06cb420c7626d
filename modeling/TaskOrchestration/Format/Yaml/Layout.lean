import TaskOrchestration.Format.Yaml.Block
import TaskOrchestration.Format.Yaml.Plain
import TaskOrchestration.Format.Yaml.Property
import TaskOrchestration.Format.Yaml.Quoted

/-!
# The layout of a YAML text

The tokens of a text. Indentation opens and closes blocks, and a key shows only at the mark of its
value, so while tokens are read two things are kept: the levels of indentation that are open, and
for the block and for each open flow the token that may turn out to start a key.
-/

namespace TaskOrchestration.Yaml

/-- A level of indentation. -/
structure Level where
  column : Nat
  /-- Whether it is that of a block. Any other one only keeps what belongs to a mark right of it. -/
  isBlock : Bool
  deriving DecidableEq, Repr

/-- A token that may turn out to start a key. -/
structure Candidate where
  possible : Bool := false
  /-- Whether the text makes no sense unless it does. -/
  required : Bool := false
  /-- The number of tokens in front of it. -/
  number : Nat := 0
  row : Nat := 0
  column : Nat := 0
  deriving DecidableEq, Repr

/-- A text of which some tokens are read. -/
structure Layout where
  /-- What is left to read. -/
  input : Input
  tokens : Array Token := #[]
  /-- The open levels of indentation, the innermost first. -/
  levels : List Level := []
  /-- Whether the next token may start a key. -/
  keyAllowed : Bool := true
  /-- The candidate of the innermost open flow, or of the block if there is none. -/
  candidate : Candidate := {}
  /-- The candidates around it. -/
  enclosing : List Candidate := []
  /-- The place at which the mark of a value needs no gap behind it. -/
  adjacent : Option (Nat × Nat) := none
  /-- Whether keys belong to a mapping that was marked as one. The end of such a mapping does not
  take this back, only that of a mapping of a single pair does. -/
  inMapping : Bool := false
  /-- Whether the last value belongs to a mapping of a single pair that is still open. Only one is
  known at a time: the next entry or the next end of a sequence closes it, however deep. -/
  inPair : Bool := false

namespace Layout

/-- Whether a flow is open. -/
def flow (s : Layout) : Bool := !s.enclosing.isEmpty

/-- The least column of what belongs to the innermost level. -/
def margin (s : Layout) : Nat :=
  match s.levels with
  | [] => 0
  | level :: _ => level.column + 1

/-- The column of the innermost level, zero without any. -/
def indent (s : Layout) : Nat := s.margin - 1

/-- Whether the innermost level is that of a block. -/
def inBlock (s : Layout) : Bool := s.levels.head?.any (·.isBlock)

/-- Adds a token. -/
def push (t : Token) (s : Layout) : Layout := { s with tokens := s.tokens.push t }

/-- Adds a token behind the first `number` ones. -/
def insert (number : Nat) (t : Token) (s : Layout) : Layout :=
  { s with tokens := (s.tokens.take number).push t ++ s.tokens.drop number }

/-! ## Levels -/

/-- Opens a block at a column right of the innermost level; the token for that goes behind the first
`number` ones. A level that is none of a block makes room for it. -/
def openBlock (column number : Nat) (start : Token) (s : Layout) : Layout :=
  if s.flow then s
  else
    let s := match s.levels with
      | level :: outer =>
        if !level.isBlock && level.column ≤ column then { s with levels := outer } else s
      | [] => s
    if s.margin ≤ column then
      { s with levels := ⟨column, true⟩ :: s.levels }.insert number start
    else s

/-- Leaves the levels from column `margin` on. -/
def leaveLevels (margin : Nat) : List Level → Array Token → List Level × Array Token
  | [], tokens => ([], tokens)
  | level :: outer, tokens =>
    if margin ≤ level.column then
      leaveLevels margin outer (if level.isBlock then tokens.push .blockEnd else tokens)
    else (level :: outer, tokens)

/-- Closes the blocks from column `margin` on. In a flow none is closed. -/
def closeBlocks (margin : Nat) (s : Layout) : Layout :=
  if s.flow then s
  else
    let (levels, tokens) := leaveLevels margin s.levels s.tokens
    { s with levels, tokens }

/-- Keeps what follows right of the block. -/
def pad (s : Layout) : Layout :=
  if !s.flow && s.inBlock then { s with levels := ⟨s.margin, false⟩ :: s.levels } else s

/-- Takes back every level that is none of a block. -/
def unpad (s : Layout) : Layout := { s with levels := s.levels.dropWhile fun l => !l.isBlock }

/-! ## Keys -/

/-- Takes the next token for a candidate, if it may start a key. At the column of a block it has to.
-/
def saveKey (s : Layout) : Layout :=
  if s.keyAllowed then
    { s with candidate :=
      { possible := true
        required := !s.flow && s.inBlock && s.indent == s.input.column
        number := s.tokens.size
        row := s.input.row
        column := s.input.column } }
  else s

/-- Gives up the candidate, unless it has to start a key. -/
def dropKey? (s : Layout) : Option Layout :=
  if s.candidate.possible && s.candidate.required then none
  else some { s with candidate := { s.candidate with possible := false } }

/-- Gives up a candidate that is too far away: outside of flow form a key ends on the line it starts
on, and its value is marked within 1024 characters. -/
def dropStaleKey? (s : Layout) : Option Layout :=
  let c := s.candidate
  if !s.flow && (c.row < s.input.row || c.column + 1024 < s.input.column) then s.dropKey?
  else some s

/-! ## Tokens in flow form -/

/-- Opens a flow. At most 255 are open at a time. -/
def openFlow? (isMapping : Bool) (s : Layout) : Option Layout := do
  let s := s.saveKey.pad
  let input ← (s.input.advance 1).afterToken?
  if 255 ≤ s.enclosing.length then none
  else
    let s := { s with
      input
      keyAllowed := true
      candidate := {}
      enclosing := s.candidate :: s.enclosing }
    if isMapping then return { s with inMapping := true }.push .flowMappingStart
    else return s.push .flowSequenceStart

/-- Closes the mapping of a single pair. -/
def closePair (s : Layout) : Layout :=
  if s.inPair then { s with inMapping := false, inPair := false }.push .flowMappingEnd else s

/-- Closes a flow. Behind it the mark of a value needs no gap. -/
def closeFlow? (isMapping : Bool) (s : Layout) : Option Layout := do
  let s ← s.dropKey?
  let s := match s.enclosing with
    | [] => s
    | c :: outer => { s with candidate := c, enclosing := outer }
  let s := if isMapping then s else s.closePair
  let input ← (s.input.advance 1).afterToken?
  let adjacent := if s.flow then some (input.row, input.column) else s.adjacent
  let s := { s with input, adjacent, keyAllowed := false }
  return s.push (if isMapping then .flowMappingEnd else .flowSequenceEnd)

/-- Reads the mark between two entries. -/
def entry? (s : Layout) : Option Layout := do
  let s := (← s.dropKey?).closePair
  let input ← (s.input.advance 1).afterToken?
  return { s with input, keyAllowed := true }.push .entry

/-! ## Items, keys and values -/

/-- Whether the mark of an item comes next. -/
def atItem : List Char → Bool
  | '-' :: r => atGap r
  | _ => false

/-- Reads the mark of an item. A tab may not stand between two of them. -/
def item? (s : Layout) : Option Layout := do
  if s.flow || !s.keyAllowed then none
  else
    let behind := s.input.advance 1
    let input ← behind.afterToken?
    if (behind.line.takeWhile isGap).contains '\t' && atItem input.line then none
    else
      let s := { s.openBlock s.input.column s.tokens.size .sequenceStart with input }
      let isOver := input.line.isEmpty && !input.below.isEmpty
      let s ← (if isOver || atFlowMark input.line then s.pad else s).dropKey?
      return { s with keyAllowed := true }.push .item

/-- Moves past the space behind the mark of a key; there has to be some, without any tab. -/
def keyGap? (i : Input) : Option Input :=
  let isSpace (c : Char) : Bool := c == ' '
  let here := i.contentLine isSpace
  let there := { here.reach (here.line.dropWhile isSpace) with fresh := here.fresh }
  if (i.line.head? == some ' ' || i.row < there.row) && there.line.head? != some '\t' then
    some there
  else none

/-- Reads the mark of a key. -/
def key? (s : Layout) : Option Layout := do
  if !s.flow && !s.keyAllowed then none
  else
    let input ← keyGap? (s.input.advance 1)
    let s := s.openBlock s.input.column s.tokens.size .mappingStart
    let s ← { s with inMapping := s.inMapping || s.flow }.dropKey?
    return { s with input, keyAllowed := !s.flow }.push .key

/-- Moves past a gap behind the mark of a value that starts with a tab. A word or a dash may not
follow tabs alone. -/
def valueGap? (i : Input) : Option Input :=
  match i.line with
  | '\t' :: _ => do
    let there ← i.afterToken?
    if there.line.head?.any isNameChar && !(i.line.takeWhile isGap).contains ' ' then none
    else return there
  | _ => some i

/-- Reads the mark of a value. The candidate becomes its key; without one the key is left out, or
was marked itself. In a flow without a mapping the pair is a mapping of its own. -/
def value? (s : Layout) : Option Layout := do
  let here := s.input
  let c := s.candidate
  let single := s.flow && !s.inMapping
  let input ← valueGap? (here.advance 1)
  let s := { s with input, inPair := single }
  if c.possible then
    if single && c.row < here.row then none
    else
      let s := s.insert c.number .key
      let s := if single then s.insert c.number .flowMappingStart else s
      let s := (s.openBlock c.column c.number .mappingStart).pad
      return { s with keyAllowed := false, candidate := { c with possible := false } }.push .value
  else if !s.flow && !s.keyAllowed then none
  else
    let s := if single then s.push .flowMappingStart else s
    let s := (s.openBlock here.column s.tokens.size .mappingStart).pad
    return { s with keyAllowed := !s.flow }.push .value

/-! ## Names and scalars -/

/-- Reads a token that may start a key. None may follow it at once. -/
def starting? (read : Input → Option (Token × Input)) (s : Layout) : Option Layout := do
  let s := s.saveKey
  let (token, input) ← read s.input
  return { s with input, keyAllowed := false }.push token

/-- Moves on to the next token. Outside of flow form a key may start on a new line. -/
def next? (s : Layout) : Option Layout := do
  let input ← s.input.nextToken? s.indent
  return { s with input, keyAllowed := s.keyAllowed || (!s.flow && s.input.row < input.row) }

/-- Reads a quoted text. Behind it the mark of a value needs no gap. -/
def quoted? (s : Layout) : Option Layout := do
  let s := s.saveKey
  let (text, input) ← s.input.quoted? s.flow s.indent
  let s ← { s with input, keyAllowed := false }.next?
  return { s with adjacent := some (s.input.row, s.input.column) }.push (.scalar false text)

/-- Reads a plain text. A key may follow it on a new line. -/
def plain? (s : Layout) : Option Layout := do
  let s := s.saveKey.unpad
  let (text, input) ← s.input.plain? s.flow s.margin
  return { s with input, keyAllowed := input.fresh }.push (.scalar true text)

/-- Reads a block of text. A key may follow it. -/
def block? (s : Layout) : Option Layout := do
  let s := s.saveKey.unpad
  let (text, input) ← s.input.block? s.margin
  return { s with input, keyAllowed := true }.push (.scalar false text)

/-! ## Documents -/

/-- Closes all blocks in front of a mark or a directive; no key may follow it on its line. -/
def closeDocument? (s : Layout) : Option Layout := do
  let s ← (s.closeBlocks 0).dropKey?
  return { s with keyAllowed := false }

/-- Reads the mark at the start of a document. -/
def documentStart? (s : Layout) : Option Layout := do
  let s ← s.closeDocument?
  return { s with input := s.input.advance 3 }.push .documentStart

/-- Reads the mark at the end of a document. Only a comment may follow it on its line. -/
def documentEnd? (s : Layout) : Option Layout := do
  let s ← s.closeDocument?
  let input ← (s.input.advance 3).afterToken?
  if input.line.isEmpty then return { s with input }.push .documentEnd else none

/-- Reads a directive. -/
def directive? (s : Layout) : Option Layout := do
  let s ← s.closeDocument?
  let (token, input) ← s.input.directive?
  return { s with input }.push token

/-- Whether the mark of a value comes next. A gap has to follow it; in a flow a mark of the flow
may, and where the key shows its own end anything may. -/
def atValue (s : Layout) : Bool :=
  match s.input.line with
  | ':' :: r =>
    let place := (s.input.row, s.input.column)
    atGap r || (s.flow && (atFlowMark r || s.adjacent == some place))
  | _ => false

/-- Reads the token that comes next. -/
def token? (s : Layout) : Option Layout :=
  let i := s.input
  let first := i.column == 0
  match i.line with
  | [] => none
  | c :: r =>
    if first && c == '%' then s.directive?
    else if first && isMark '-' i.line then s.documentStart?
    else if first && isMark '.' i.line then s.documentEnd?
    else if i.column < s.indent then none
    else if c == '[' then s.openFlow? false
    else if c == '\x7b' then s.openFlow? true
    else if c == ']' then s.closeFlow? false
    else if c == '\x7d' then s.closeFlow? true
    else if c == ',' then s.entry?
    else if c == '-' && atGap r then s.item?
    else if c == '?' && atGap r then s.key?
    else if s.atValue then s.value?
    else if c == '*' || c == '&' then s.starting? Input.anchor?
    else if c == '!' then s.starting? (Input.tag? s.flow)
    else if !s.flow && (c == '|' || c == '>') then s.block?
    else if c == '\'' || c == '"' then s.quoted?
    else if c == '%' || c == '@' || c == Char.ofNat 96 then none
    else s.plain?

/-- Reads tokens up to the end; each step takes a character at least. -/
def finish? : Nat → Layout → Option (List Token)
  | 0, _ => none
  | steps + 1, s => do
    let s := (← (← s.next?).dropStaleKey?)
    let s := s.closeBlocks (s.input.column + 1)
    if s.input.atEnd then
      let s ← s.dropKey?
      return (s.closeBlocks 0).tokens.toList
    else finish? steps (← s.token?)

end Layout

/-- The tokens of a text. -/
def tokens? (text : List Char) : Option (List Token) :=
  Layout.finish? (text.length + 1) { input := .ofText text }

end TaskOrchestration.Yaml
