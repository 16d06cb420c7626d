import TaskOrchestration.Format.Toml.Quoted

/-!
# TOML keys

A key is one or more parts with points between them, each bare or a string of one line.
-/

namespace TaskOrchestration.Toml

/-- The number that containers in one another, and the parts of a key, stay below. -/
def depthLimit : Nat := 80

/-- The characters of a bare part of a key. -/
def isKeyChar (c : Char) : Bool := c.isAlphanum || c == '_' || c == '-'

/-- Reads one part of a key. -/
def keyPart? (cs : List Char) : Option (String × List Char) :=
  match cs with
  | '"' :: r => basic? (r.length + 1) [] r
  | '\'' :: r => literal? r
  | r =>
    let name := r.takeWhile isKeyChar
    if name.isEmpty then none else some (String.ofList name, r.dropWhile isKeyChar)

/-- Reads the parts of a key, with the gaps around them; each step takes a character at least. -/
def keyParts? : Nat → List Char → Option (List String × List Char)
  | 0, _ => none
  | steps + 1, cs => do
    let (part, r) ← keyPart? (skipGaps cs)
    match skipGaps r with
    | '.' :: r' => do
      let (rest, r) ← keyParts? steps r'
      return (part :: rest, r)
    | r' => return ([part], r')

/-- Reads a key. -/
def key? (cs : List Char) : Option (List String × List Char) := do
  let (parts, r) ← keyParts? (cs.length + 1) cs
  if parts.length < depthLimit then return (parts, r) else none

end TaskOrchestration.Toml
