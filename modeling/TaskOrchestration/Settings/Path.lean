import TaskOrchestration.Settings.Setting
import TaskOrchestration.Text.Case
import TaskOrchestration.Text.Decimal

/-!
# Paths into settings

A key such as `a.b[0]` names a place in a tree of tables and lists. `Path.set` puts a value there:
whatever stands in the way gives way to a table or a list, a list is padded, and a table is merged
with the table that is already there, entry by entry. Names are compared in lower case, except those
inside a list.
-/

namespace TaskOrchestration

/-- A place in a tree of settings. -/
inductive Path
  /-- An entry of the root. -/
  | key (name : String)
  /-- An entry of the table at a place. -/
  | child (parent : Path) (name : String)
  /-- An item of the list at a place; a negative index counts from the end. -/
  | item (parent : Path) (index : Int)
  deriving DecidableEq, Repr

namespace Path

/-! ## Reading -/

/-- The characters of a name. -/
def isNameChar (c : Char) : Bool :=
  ('a' ≤ c && c ≤ 'z') || ('A' ≤ c && c ≤ 'Z') || Text.isDigit c || c == ' ' || c == '_' || c == '-'

/-- Leaves out spaces and tabs in front. -/
def skipGaps (cs : List Char) : List Char := cs.dropWhile fun c => c == ' ' || c == '\t'

/-- Reads an index behind its opening bracket, and the closing one. -/
def index? (cs : List Char) : Option (Int × List Char) :=
  let (negative, r) := match skipGaps cs with
    | '-' :: r => (true, r)
    | r => (false, r)
  let ds := r.takeWhile Text.isDigit
  match Text.signed? (Nat.pow 2 63) (if negative then '-' :: ds else ds),
    skipGaps (r.dropWhile Text.isDigit) with
  | some i, ']' :: rest => some (i, rest)
  | _, _ => none

/-- Reads what follows the first name; each step takes a character at least. -/
def rest? : Nat → Path → List Char → Option Path
  | _, p, [] => some p
  | 0, _, _ => none
  | steps + 1, p, '.' :: r =>
    let name := r.takeWhile isNameChar
    if name.isEmpty then none
    else rest? steps (.child p (String.ofList name)) (r.dropWhile isNameChar)
  | steps + 1, p, '[' :: r =>
    match index? r with
    | some (i, rest) => rest? steps (.item p i) rest
    | none => none
  | _, _, _ => none

/-- The place a key names; a key that is not formed like a path is a name as it is. -/
def ofText (key : String) : Path :=
  let cs := key.toList
  let name := cs.takeWhile isNameChar
  let path :=
    if name.isEmpty then none
    else rest? cs.length (.key (String.ofList name)) (cs.dropWhile isNameChar)
  path.getD (.key key)

end Path

/-! ## Writing -/

namespace Setting

mutual

/-- Puts a value into a table under a name. A table is merged into what is there. -/
def assign (name : String) (root : Setting) : Setting → Setting
  | .table entries _ =>
    let key := Text.lower name
    root.putEntry key (assignAll ((root.entry? key).getD emptyTable) entries)
  | v => root.putEntry (Text.lower name) v

/-- Puts values into a table one after the other. -/
def assignAll (root : Setting) : List (String × Setting) → Setting
  | [] => root
  | (name, v) :: rest => assignAll (assign name root v) rest

end

/-- Changes an entry of a table; one that is not there is absent before. -/
def updateEntry (name : String) (f : Setting → Setting) (s : Setting) : Setting :=
  s.putEntry (Text.lower name) (f ((s.entry? (Text.lower name)).getD absent))

/-- The position of an index in a list. -/
def position (index : Int) (length : Nat) : Nat :=
  if 0 ≤ index then index.toNat else length - index.natAbs

/-- Changes an item of a list, which is padded up to it. -/
def updateItem (index : Int) (f : Setting → Setting) (s : Setting) : Setting :=
  let i := position index s.items.length
  let padded := s.items ++ List.replicate (i + 1 - s.items.length) absent
  let origin := match s with
    | .list _ origin => origin
    | _ => none
  .list (padded.modify i f) origin

end Setting

namespace Path

/-- Changes the value at a place. -/
def update : Path → (Setting → Setting) → Setting → Setting
  | .key name, f, root => root.updateEntry name f
  | .child parent name, f, root => parent.update (Setting.updateEntry name f) root
  | .item parent index, f, root => parent.update (Setting.updateItem index f) root

/-- Puts a value at a place. -/
def set : Path → Setting → Setting → Setting
  | .key name, v, root => root.assign name v
  | .child parent name, v, root => parent.update (fun s => s.assign name v) root
  | .item parent index, v, root => parent.update (Setting.updateItem index fun _ => v) root

end Path

/-- Settings from one source: keys, each of them a path, with their values. -/
abbrev Layer := List (String × Setting)

/-- Puts a layer over a tree of settings. -/
def Layer.over (layer : Layer) (root : Setting) : Setting :=
  layer.foldl (fun root (key, v) => (Path.ofText key).set v root) root

/-- The tree of several layers, the later ones over the earlier ones. -/
def Layer.merge (layers : List Layer) : Setting :=
  layers.foldl (fun root layer => Layer.over layer root) Setting.emptyTable

end TaskOrchestration
