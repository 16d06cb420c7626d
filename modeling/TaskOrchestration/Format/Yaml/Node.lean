import TaskOrchestration.Format.Yaml.Scalar
import TaskOrchestration.Format.Yaml.Token
import TaskOrchestration.Json

/-!
# YAML nodes

The nodes of a document: scalars, sequences, and mappings whose keys are nodes themselves. They are
read from tokens, where a node may be left out at many places and a reference stands for the node of
its anchor, and become values.
-/

namespace TaskOrchestration.Yaml

/-- A node. -/
inductive Node
  | scalar (value : Scalar)
  | sequence (items : List Node)
  | mapping (entries : List (Node × Node))

namespace Node

/-- What a node stands for, if it is a scalar. -/
def scalar? : Node → Option Scalar
  | .scalar value => some value
  | _ => none

/-- The node that is left out. -/
def absent : Node := .scalar .null

/-- A node that stands for nothing. -/
def bad : Node := .scalar .bad

/-- Puts keys and values that follow one another in pairs. A key that stands for nothing is passed
over, a key without value at the end is dropped, and no scalar is a key twice. -/
def pairs? (known : List Scalar) : List Node → Option (List (Node × Node))
  | [] => some []
  | key :: rest =>
    if key.scalar? == some .bad then pairs? known rest
    else
      match rest with
      | [] => some []
      | value :: rest =>
        match key.scalar? with
        | none => (pairs? known rest).map ((key, value) :: ·)
        | some name =>
          if known.contains name then none
          else (pairs? (name :: known) rest).map ((key, value) :: ·)

/-- The mapping of keys and values that follow one another. -/
def ofPairs? (nodes : List Node) : Option Node := (pairs? [] nodes).map .mapping

/-! ## Values -/

/-- The name of a field that a key stands for. -/
def fieldName? : Node → Option String
  | .scalar (.boolean b) => some (if b then "true" else "false")
  | .scalar (.integer i) => some (Text.signedDecimal i)
  | .scalar (.real text) => some (String.ofList text)
  | .scalar (.string s) => some s
  | _ => none

mutual

/-- The value of a node. Numbers are read now, so the words for infinities are not values. -/
def toJson? : Node → Option Json
  | .scalar .bad => some .null
  | .scalar .null => some .null
  | .scalar (.boolean b) => some (.boolean b)
  | .scalar (.integer i) => some (.integer i)
  | .scalar (.real text) => (Binary64.ofText? text).map .float
  | .scalar (.string s) => some (.string s)
  | .sequence items => (itemsToJson? items).map .list
  | .mapping entries => (entriesToJson? [] entries).map .object

/-- The values of the items of a sequence. -/
def itemsToJson? : List Node → Option (List Json)
  | [] => some []
  | n :: rest => do
    let v ← n.toJson?
    return v :: (← itemsToJson? rest)

/-- The fields of a mapping, put into those before them; of several keys with one name the last
counts. -/
def entriesToJson? (fields : List (String × Json)) :
    List (Node × Node) → Option (List (String × Json))
  | [] => some fields
  | (key, n) :: rest => do
    let name ← key.fieldName?
    let v ← n.toJson?
    entriesToJson? (Fields.insert name v fields) rest

end

end Node

/-! ## Nodes from tokens -/

/-- A document of which some nodes are read. -/
structure Reading where
  /-- What is left. -/
  tokens : List Token
  /-- The names of the anchors, each with its number, the last one first. -/
  anchors : List (String × Nat) := []
  /-- The nodes of the anchors by number, as far as they are complete. -/
  nodes : List (Nat × Node) := []

namespace Reading

/-- Goes on with these tokens. -/
def goTo (r : Reading) (tokens : List Token) : Reading := { r with tokens }

/-- Whether one of these tokens comes next. -/
def at? (r : Reading) (ts : List Token) : Bool := r.tokens.head?.any ts.contains

/-- Gives an anchor a number. -/
def addAnchor (r : Reading) (name : String) : Nat × Reading :=
  (r.anchors.length, { r with anchors := (name, r.anchors.length) :: r.anchors })

/-- The node of an anchor has been read. -/
def complete (r : Reading) (number : Option Nat) (n : Node) : Reading :=
  match number with
  | some k => { r with nodes := (k, n) :: r.nodes }
  | none => r

/-- The node of an anchor. Within itself it stands for nothing. -/
def resolve? (r : Reading) (name : String) : Option Node :=
  (r.anchors.lookup name).map fun number => (r.nodes.lookup number).getD .bad

end Reading

/-- The addresses of tag handles. -/
abbrev TagHandles := List (String × String)

/-- What a tag asks for. The handle has to be known, unless it is one of those that always are. -/
def TagHandles.resolve? (handles : TagHandles) (handle suffix : String) : Option Tag :=
  match handles.lookup handle with
  | some address => some (if address == "tag:yaml.org,2002:" then .core suffix else .other)
  | none =>
    if handle == "!!" then some (.core suffix)
    else if handle == "!" || handle == "" then some .other
    else none

/-- Reads an anchor and a tag in front of a node, in either order. -/
def properties? (handles : TagHandles) (r : Reading) :
    Option (Option Nat × Option Tag × Reading) :=
  match r.tokens with
  | .anchor name :: .tag handle suffix :: rest => do
    let tag ← handles.resolve? handle suffix
    let (number, r) := r.addAnchor name
    return (some number, some tag, r.goTo rest)
  | .tag handle suffix :: .anchor name :: rest => do
    let tag ← handles.resolve? handle suffix
    let (number, r) := r.addAnchor name
    return (some number, some tag, r.goTo rest)
  | .anchor name :: rest =>
    let (number, r) := r.addAnchor name
    some (some number, none, r.goTo rest)
  | .tag handle suffix :: rest => do
    let tag ← handles.resolve? handle suffix
    return (none, some tag, r.goTo rest)
  | _ => some (none, none, r)

/-- The sequence of items. -/
def asSequence : List Node × Reading → Node × Reading
  | (items, r) => (.sequence items, r)

/-- The mapping of keys and values that follow one another. -/
def asMapping? : List Node × Reading → Option (Node × Reading)
  | (nodes, r) => (Node.ofPairs? nodes).map fun n => (n, r)

mutual

/-- Reads a node. `block` says whether it may be a block, and `flush` whether it may be a sequence
that is indented no further than what it belongs to. -/
def node? (handles : TagHandles) : Nat → Bool → Bool → Reading → Option (Node × Reading)
  | 0, _, _, _ => none
  | steps + 1, block, flush, r =>
    match r.tokens with
    | .reference name :: rest => (r.resolve? name).map fun n => (n, r.goTo rest)
    | _ => do
      let (number, tag, r) ← properties? handles r
      let unwritten : Option (Node × Reading) :=
        if number.isSome || tag.isSome then some (.scalar (Scalar.ofText tag true []), r) else none
      let (n, r) ← match r.tokens with
        | .scalar isPlain text :: rest =>
          some (.scalar (Scalar.ofText tag isPlain text), r.goTo rest)
        | .flowSequenceStart :: rest =>
          (flowItems? handles steps true (r.goTo rest)).map asSequence
        | .flowMappingStart :: rest =>
          (flowPairs? handles steps true (r.goTo rest)).bind asMapping?
        | .item :: _ =>
          if flush then (flushItems? handles steps r).map asSequence else unwritten
        | .sequenceStart :: rest =>
          if block then (items? handles steps (r.goTo rest)).map asSequence else unwritten
        | .mappingStart :: rest =>
          if block then (blockPairs? handles steps (r.goTo rest)).bind asMapping? else unwritten
        | _ => unwritten
      return (n, r.complete number n)

/-- Reads a node that is left out if one of the tokens `ends` comes next. -/
def nodeOrAbsent? (handles : TagHandles) :
    Nat → List Token → Bool → Bool → Reading → Option (Node × Reading)
  | 0, _, _, _, _ => none
  | steps + 1, ends, block, flush, r =>
    if r.at? ends then some (.absent, r) else node? handles steps block flush r

/-- Reads the items of a sequence that is a block. -/
def items? (handles : TagHandles) : Nat → Reading → Option (List Node × Reading)
  | 0, _ => none
  | steps + 1, r =>
    match r.tokens with
    | .blockEnd :: rest => some ([], r.goTo rest)
    | .item :: rest => do
      let (n, r) ← nodeOrAbsent? handles steps [.item, .blockEnd] true false (r.goTo rest)
      let (more, r) ← items? handles steps r
      return (n :: more, r)
    | _ => none

/-- Reads the items of a sequence that is indented no further than what it belongs to. -/
def flushItems? (handles : TagHandles) : Nat → Reading → Option (List Node × Reading)
  | 0, _ => none
  | steps + 1, r =>
    match r.tokens with
    | .item :: rest => do
      let ends := [.item, .key, .value, .blockEnd]
      let (n, r) ← nodeOrAbsent? handles steps ends true false (r.goTo rest)
      let (more, r) ← flushItems? handles steps r
      return (n :: more, r)
    | _ => some ([], r)

/-- Reads the keys and values of a mapping that is a block. -/
def blockPairs? (handles : TagHandles) : Nat → Reading → Option (List Node × Reading)
  | 0, _ => none
  | steps + 1, r =>
    match r.tokens with
    | .blockEnd :: rest => some ([], r.goTo rest)
    | _ => do
      let ends := [.key, .value, .blockEnd]
      let (key, r) ← match r.tokens with
        | .key :: rest => nodeOrAbsent? handles steps ends true true (r.goTo rest)
        | .value :: _ => some (.absent, r)
        | _ => none
      let (value, r) ← match r.tokens with
        | .value :: rest => nodeOrAbsent? handles steps ends true true (r.goTo rest)
        | _ => some (.absent, r)
      let (more, r) ← blockPairs? handles steps r
      return (key :: value :: more, r)

/-- Reads the items of a sequence in flow form; `first` says whether none was read yet. A key makes
an item that is a mapping of one pair. -/
def flowItems? (handles : TagHandles) : Nat → Bool → Reading → Option (List Node × Reading)
  | 0, _, _ => none
  | steps + 1, first, r =>
    match r.tokens with
    | .flowSequenceEnd :: rest => some ([], r.goTo rest)
    | _ => do
      let r ← match first, r.tokens with
        | true, _ => some r
        | false, .entry :: rest => some (r.goTo rest)
        | false, _ => none
      match r.tokens with
      | .flowSequenceEnd :: rest => return ([], r.goTo rest)
      | .key :: rest => do
        let r := r.goTo rest
        -- A mark in the place of the key is lost together with it.
        let (key, r) ←
          if r.at? [.value, .entry, .flowSequenceEnd] then
            some (.absent, r.goTo (r.tokens.drop 1))
          else node? handles steps false false r
        let (value, r) ← match r.tokens with
          | .value :: rest =>
            nodeOrAbsent? handles steps [.entry, .flowSequenceEnd] false false (r.goTo rest)
          | _ => some (.absent, r)
        let item ← Node.ofPairs? [key, value]
        let (more, r) ← flowItems? handles steps false r
        return (item :: more, r)
      | _ => do
        let (n, r) ← node? handles steps false false r
        let (more, r) ← flowItems? handles steps false r
        return (n :: more, r)

/-- Reads the keys and values of a mapping in flow form; `first` says whether none was read yet. -/
def flowPairs? (handles : TagHandles) : Nat → Bool → Reading → Option (List Node × Reading)
  | 0, _, _ => none
  | steps + 1, first, r =>
    match r.tokens with
    | .flowMappingEnd :: rest => some ([], r.goTo rest)
    | _ => do
      let r ← match first, r.tokens with
        | true, _ => some r
        | false, .entry :: rest => some (r.goTo rest)
        | false, _ => none
      match r.tokens with
      | .flowMappingEnd :: rest => return ([], r.goTo rest)
      | next :: rest => do
        let marked := next == .key || next == .value
        let (key, r) ←
          if next == .key then
            nodeOrAbsent? handles steps [.value, .entry, .flowMappingEnd] false false (r.goTo rest)
          else if next == .value then some (.absent, r)
          else node? handles steps false false r
        let (value, r) ← match marked, r.tokens with
          | true, .value :: rest =>
            nodeOrAbsent? handles steps [.entry, .flowMappingEnd] false false (r.goTo rest)
          | _, _ => some (.absent, r)
        let (more, r) ← flowPairs? handles steps false r
        return (key :: value :: more, r)
      | [] => none

end

/-! ## Documents -/

/-- Reads the directives of a document. The version is given once at most, and of the handles only
those of the last directive are known. -/
def directives? : Bool → TagHandles → List Token → Option (TagHandles × List Token)
  | versionKnown, _, .version :: rest => if versionKnown then none else directives? true [] rest
  | versionKnown, _, .tagHandle handle address :: rest =>
    directives? versionKnown [(handle, address)] rest
  | _, handles, rest => some (handles, rest)

/-- Whether a document without a node ends here. -/
def endsDocument : List Token → Bool
  | [] => true
  | t :: _ =>
    match t with
    | .version | .tagHandle _ _ | .documentStart | .documentEnd => true
    | _ => false

/-- The node of the only document that there may be. Directives need a mark at its start, and only
marks at its end may follow it. -/
def document? (tokens : List Token) : Option (Option Node) :=
  let tokens := tokens.dropWhile (· == .documentEnd)
  if tokens.isEmpty then some none
  else do
    let (handles, rest) ← directives? false [] tokens
    let read (body : List Token) : Option (Node × Reading) :=
      node? handles (4 * body.length + 8) true false { tokens := body }
    let (n, r) ← match rest with
      | .documentStart :: body =>
        if endsDocument body then some (.absent, { tokens := body }) else read body
      | _ => if rest.length < tokens.length then none else read rest
    if r.tokens.all (· == .documentEnd) then return some n else none

end TaskOrchestration.Yaml
