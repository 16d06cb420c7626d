import TaskOrchestration.Format.Yaml.Input
import TaskOrchestration.Text.Decimal

/-!
# YAML block scalars

A text written out in the lines below its mark, all indented alike. The header behind the mark may
say how far they are indented and what becomes of the line ends at the end of the text. In a folded
block a line end between two lines of text becomes a space.
-/

namespace TaskOrchestration.Yaml

/-- What becomes of the line ends at the end of a block. -/
inductive Chomping
  /-- All are left out. -/
  | strip
  /-- One is kept. -/
  | clip
  /-- All are kept. -/
  | keep
  deriving DecidableEq, Repr

/-- Reads the mark of the chomping. -/
def chomping (cs : List Char) : Chomping × List Char :=
  match cs with
  | '-' :: r => (.strip, r)
  | '+' :: r => (.keep, r)
  | r => (.clip, r)

/-- Reads how much further a block is indented than what it belongs to; zero if that is left open.
-/
def indentation? (cs : List Char) : Option (Nat × List Char) :=
  match cs with
  | [] => some (0, [])
  | c :: r =>
    if c == '0' then none
    else if Text.isDigit c then some (Text.digitValue c, r)
    else some (0, cs)

/-- Reads a header: chomping and indentation in either order. -/
def blockHeader? (cs : List Char) : Option (Chomping × Nat × List Char) := do
  let (first, r) := chomping cs
  let (further, r) ← indentation? r
  let (style, r) := if first == .clip && further > 0 then chomping r else (first, r)
  return (style, further, r)

/-- The number of spaces in front of a line. -/
def spaces (line : List Char) : Nat := (line.takeWhile (· == ' ')).length

/-- The widest indentation among the lines of spaces at the top and the line below them. -/
def widestMargin : List (List Char) → Nat
  | [] => 0
  | line :: below =>
    if spaces line == line.length then max (spaces line) (widestMargin below) else spaces line

/-- The lines of a block. -/
structure BlockBody where
  /-- The lines of text, each with the number of empty lines in front of it. -/
  lines : List (Nat × List Char)
  /-- The number of empty lines behind them. -/
  trailing : Nat
  /-- The place behind the block. -/
  stop : Input

/-- Reads the lines of a block that is indented by `width`; `row` is the first of them and `empty`
counts the empty lines above it. -/
def blockBody (width : Nat) : Nat → Nat → List (List Char) → BlockBody
  | row, empty, [] => ⟨[], empty, ⟨[], [], row, 0, true⟩⟩
  | row, empty, line :: below =>
    let margin := min width (spaces line)
    let text := line.drop margin
    if text.isEmpty && !below.isEmpty then blockBody width (row + 1) (empty + 1) below
    else if text.isEmpty || margin < width || (width == 0 && isMark '.' line) then
      ⟨[], empty, ⟨text, below, row, margin, true⟩⟩
    else if below.isEmpty then ⟨[(empty, text)], 0, ⟨[], [], row, line.length, false⟩⟩
    else
      let rest := blockBody width (row + 1) 0 below
      { rest with lines := (empty, text) :: rest.lines }

/-- The text of the lines behind `before`. Lines that start with a gap are not folded. -/
def blockLines (folds : Bool) : List Char → List (Nat × List Char) → List Char
  | _, [] => []
  | before, (empty, line) :: rest =>
    let startsGap (cs : List Char) : Bool := cs.head?.any isGap
    let fold := folds && !startsGap before && !startsGap line
    (if fold then lineFold empty else List.replicate (empty + 1) '\n')
      ++ line ++ blockLines folds line rest

/-- The text of a block that is indented by `width`. -/
def BlockBody.text (folds : Bool) (chomping : Chomping) (width : Nat) (b : BlockBody) :
    List Char :=
  let kept := List.replicate b.trailing '\n'
  match b.lines with
  | [] =>
    match chomping with
    | .strip => []
    | .clip => if b.stop.atEnd then ['\n'] else []
    | .keep => if b.stop.atEnd && b.trailing == 0 then ['\n'] else kept
  | (empty, line) :: rest =>
    -- The last line may end with the text itself. Where only its indentation follows, that counts
    -- as one more line.
    let ended := if b.stop.fresh then ['\n'] else []
    let added := if b.stop.atEnd && max width 1 ≤ b.stop.column then ['\n'] else []
    let ends := match chomping with
      | .strip => []
      | .clip => ended ++ added
      | .keep => ended ++ added ++ kept
    List.replicate empty '\n' ++ line ++ blockLines folds line rest ++ ends

/-- Reads a block that belongs to something indented by less than `margin`. Without an indentation
in its header the block has that of its first line. -/
def Input.block? (margin : Nat) (i : Input) : Option (List Char × Input) := do
  let (folds, r) ← match i.line with
    | '|' :: r => some (false, r)
    | '>' :: r => some (true, r)
    | _ => none
  let (chomping, further, r) ← blockHeader? r
  let header ← (i.reach r).afterToken?
  if !header.line.isEmpty then none
  else if header.below.isEmpty then return ([], header)
  else if header.below.head?.bind List.head? == some '\t' then none
  else
    let width :=
      if further > 0 then margin - 1 + further else max (widestMargin header.below) margin
    let body := blockBody width (header.row + 1) 0 header.below
    let stop := body.stop
    if body.lines.isEmpty && !stop.atEnd && margin ≤ stop.column && stop.column < width then none
    else return (body.text folds chomping width, stop)

end TaskOrchestration.Yaml
