import TaskOrchestration.Format.Yaml.Input
import TaskOrchestration.Format.Yaml.Token
import TaskOrchestration.Text.Radix

/-!
# Names in YAML

Anchors, references to them, tags, and the directives that come before a document. Of a directive
only the kinds that matter are kept; one of an unknown kind is passed over, but counts as one that
gives no handle an address.
-/

namespace TaskOrchestration.Yaml

/-- The characters of a tag handle and of the name of a directive. -/
def isNameChar (c : Char) : Bool := c.isAlphanum || c == '_' || c == '-'

/-- The characters of an address. -/
def isAddressChar (c : Char) : Bool := c.isAlphanum || "-#;/?:@&=+$,_.!~*'()[]%".toList.contains c

/-- The characters of the end of a tag. -/
def isTagChar (c : Char) : Bool := isAddressChar c && !isFlowMark c && c != '!'

/-- The characters of the name of an anchor. -/
def isAnchorChar (c : Char) : Bool := !isGap c && !isFlowMark c && c != '\uFEFF'

/-- Reads characters of an address. Any character may be given as the bytes that encode it, each in
hexadecimal behind a percent sign. Of two bytes the code is taken as they stand, and more than two
make no character. -/
def address? (ok : Char → Bool) : List Char → Option (List Char × List Char)
  | '%' :: a :: b :: r => do
    let lead ← Text.inBase? 16 [a, b]
    if lead < 0x80 then
      let (text, rest) ← address? ok r
      return (Char.ofNat lead :: text, rest)
    else if lead < 0xC0 || 0xE0 ≤ lead then none
    else
      match r with
      | '%' :: c :: d :: r => do
        let trail ← Text.inBase? 16 [c, d]
        if trail < 0x80 || 0xC0 ≤ trail then none
        else
          let char ← Text.ofCodePoint? (lead * 256 + trail)
          let (text, rest) ← address? ok r
          return (char :: text, rest)
      | _ => none
  | '%' :: _ => none
  | c :: r =>
    if ok c then (address? ok r).map fun (text, rest) => (c :: text, rest) else some ([], c :: r)
  | [] => some ([], [])

/-- Reads the name of an anchor. -/
def anchorName? (cs : List Char) : Option (String × List Char) :=
  let name := cs.takeWhile isAnchorChar
  if name.isEmpty then none else some (String.ofList name, cs.drop name.length)

/-- Reads an anchor or a reference to one. -/
def Input.anchor? (i : Input) : Option (Token × Input) :=
  match i.line with
  | '&' :: r => (anchorName? r).map fun (name, rest) => (.anchor name, i.reach rest)
  | '*' :: r => (anchorName? r).map fun (name, rest) => (.reference name, i.reach rest)
  | _ => none

/-- Reads a tag: one given by its whole address, one that starts with a handle, or a local one. -/
def tagText? (cs : List Char) : Option ((String × String) × List Char) :=
  match cs with
  | '!' :: '<' :: r => do
    match ← address? isAddressChar r with
    | (text, '>' :: rest) => return (("", String.ofList text), rest)
    | _ => none
  | '!' :: r =>
    let name := r.takeWhile isNameChar
    match r.drop name.length with
    | '!' :: r => do
      let (text, rest) ← address? isTagChar r
      let handle := String.ofList ('!' :: name ++ ['!'])
      if text.isEmpty then none else return ((handle, String.ofList text), rest)
    | r => do
      let (text, rest) ← address? isTagChar r
      let suffix := name ++ text
      return (if suffix.isEmpty then ("", "!") else ("!", String.ofList suffix), rest)
  | _ => none

/-- Reads a tag, in flow form or not. A gap has to follow it, or a mark of the flow. -/
def Input.tag? (flow : Bool) (i : Input) : Option (Token × Input) := do
  let ((handle, suffix), rest) ← tagText? i.line
  if atGap rest || (flow && atFlowMark rest) then return (.tag handle suffix, i.reach rest)
  else none

/-! ## Directives -/

/-- Reads a number of at most nine digits. -/
def versionNumber? (cs : List Char) : Option (List Char) :=
  let ds := cs.takeWhile Text.isDigit
  if ds.isEmpty || 9 < ds.length then none else some (cs.drop ds.length)

/-- Reads the number of a version: two numbers with a point between them. -/
def version? (cs : List Char) : Option (List Char) := do
  match ← versionNumber? cs with
  | '.' :: r => versionNumber? r
  | _ => none

/-- Reads a handle and its address. -/
def tagHandle? (cs : List Char) : Option (Token × List Char) :=
  match cs with
  | '!' :: r => do
    let name := r.takeWhile isNameChar
    let (handle, r) ← match r.drop name.length with
      | '!' :: r => some ('!' :: name ++ ['!'], r)
      | r => if name.isEmpty then some (['!'], r) else none
    let r := r.dropWhile isGap
    let local? := r.head? == some '!'
    let (address, rest) ← address? isAddressChar (if local? then r.drop 1 else r)
    let starts := local? || r.head?.any isTagChar
    if starts && atGap rest then
      let address := if local? then '!' :: address else address
      return (.tagHandle (String.ofList handle) (String.ofList address), rest)
    else none
  | _ => none

/-- Reads a directive with the rest of its line. -/
def Input.directive? (i : Input) : Option (Token × Input) := do
  let r := i.line.drop 1
  let name := r.takeWhile isNameChar
  let r := r.drop name.length
  if name.isEmpty || !atGap r then none
  else
    let (token, rest) ← match String.ofList name with
      | "YAML" => (version? (r.dropWhile isGap)).map fun rest => (Token.version, rest)
      | "TAG" => tagHandle? (r.dropWhile isGap)
      | _ => some (.tagHandle "" "", [])
    let place ← (i.reach rest).afterToken?
    match place.line, place.below with
    | [], line :: below => return (token, ⟨line, below, place.row + 1, 0, true⟩)
    | [], [] => return (token, place)
    | _ :: _, _ => none

end TaskOrchestration.Yaml
