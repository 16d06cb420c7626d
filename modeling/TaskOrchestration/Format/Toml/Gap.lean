/-!
# Between the words of a TOML text

Spaces, tabs, comments and ends of lines. A line ends with a line feed, which a carriage return may
come before; neither that alone nor any other control character but the tab may stand anywhere.
-/

namespace TaskOrchestration.Toml

/-- The characters that may stand in a comment, and in a string as they are. -/
def isVisible (c : Char) : Bool := c == '\t' || (0x20 ≤ c.toNat && c.toNat != 0x7F)

/-- Leaves out spaces and tabs in front. -/
def skipGaps (cs : List Char) : List Char := cs.dropWhile fun c => c == ' ' || c == '\t'

/-- Leaves out a comment in front. -/
def skipComment (cs : List Char) : List Char :=
  match cs with
  | '#' :: r => r.dropWhile isVisible
  | r => r

/-- Reads the end of a line, without a comment in front of it. -/
def newline? (cs : List Char) : Option (List Char) :=
  match cs with
  | '\n' :: r => some r
  | '\r' :: '\n' :: r => some r
  | _ => none

/-- Reads what may follow on a line, with its end or that of the text. -/
def lineEnd? (cs : List Char) : Option (List Char) :=
  match skipComment (skipGaps cs) with
  | [] => some []
  | r => newline? r

/-- Leaves out gaps and ends of lines in front, and comments where `comments` allows them; each step
takes a character at least. -/
def skipLines (comments : Bool) : Nat → List Char → List Char
  | 0, cs => cs
  | steps + 1, cs =>
    let r := skipGaps cs
    match newline? (if comments then skipComment r else r) with
    | some rest => skipLines comments steps rest
    | none => if comments then skipComment r else r

/-- Leaves out gaps, comments and ends of lines in front. -/
def skipAll (cs : List Char) : List Char := skipLines true (cs.length + 1) cs

/-- Leaves out gaps and ends of lines in front. -/
def skipBlankLines (cs : List Char) : List Char := skipLines false (cs.length + 1) cs

end TaskOrchestration.Toml
