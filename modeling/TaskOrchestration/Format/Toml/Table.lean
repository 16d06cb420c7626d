import TaskOrchestration.Json

/-!
# TOML tables under construction

A document is filled in by headers and by keys with points in them. How a table came to be decides
who may add to it: a header may open a table once, unless that is only implied by the headers below
it, and a key with points adds to tables made by such keys only.
-/

namespace TaskOrchestration.Toml

/-- How a table came to be. -/
inductive Origin
  /-- On the way to a table with a header. -/
  | implied
  /-- By its own header. -/
  | header
  /-- By a key with points. -/
  | dotted
  deriving DecidableEq, Repr

/-- What stands under a key. -/
inductive Entry
  | value (v : Json)
  | table (origin : Origin) (entries : List (String × Entry))
  /-- A list of tables, the last one first. -/
  | tables (items : List (List (String × Entry)))

/-- The entries of a table. -/
abbrev Entries := List (String × Entry)

mutual

/-- The finished form of what stands under a key. -/
def Entry.toJson : Entry → Json
  | .value v => v
  | .table _ entries => .object (fieldsOf entries)
  | .tables items => .list (listOf items).reverse

/-- The finished entries of a table. -/
def fieldsOf : List (String × Entry) → List (String × Json)
  | [] => []
  | (name, e) :: rest => (name, e.toJson) :: fieldsOf rest

/-- The finished tables of a list. -/
def listOf : List (List (String × Entry)) → List Json
  | [] => []
  | entries :: rest => .object (fieldsOf entries) :: listOf rest

end

/-- What a path meets: a table, or a list of tables. -/
inductive Met
  | table (origin : Origin)
  | tables
  deriving DecidableEq, Repr

/-- Changes the table that keys lead to. Tables that are missing are made, and of a list of tables
the last one is meant. `enter` says which tables may be entered, on the way and at the end of it. -/
def within (made : Origin) (enter : (atEnd : Bool) → Met → Bool)
    (change : Entries → Option Entries) : List String → Entries → Option Entries
  | [], entries => change entries
  | key :: keys, entries =>
    match entries.lookup key with
    | none => do
      let inner ← within made enter change keys []
      return Fields.insert key (.table made inner) entries
    | some (.table origin inner) =>
      if enter keys.isEmpty (.table origin) then do
        let inner ← within made enter change keys inner
        return Fields.insert key (.table origin inner) entries
      else none
    | some (.tables (last :: earlier)) =>
      if enter keys.isEmpty .tables then do
        let last ← within made enter change keys last
        return Fields.insert key (.tables (last :: earlier)) entries
      else none
    | _ => none

/-- Changes the table of a header. It may lead through any table. -/
def atHeader (change : Entries → Option Entries) (keys : List String) (entries : Entries) :
    Option Entries :=
  within .implied (fun _ _ => true) change keys entries

/-- Opens a table by its header. -/
def openTable (keys : List String) (entries : Entries) : Option Entries :=
  match keys.getLast? with
  | none => none
  | some key =>
    atHeader (fun es =>
      match es.lookup key with
      | none => some (Fields.insert key (.table .header []) es)
      | some (.table .implied inner) => some (Fields.insert key (.table .header inner) es)
      | _ => none) keys.dropLast entries

/-- Opens one more table of a list. -/
def openListed (keys : List String) (entries : Entries) : Option Entries :=
  match keys.getLast? with
  | none => none
  | some key =>
    atHeader (fun es =>
      match es.lookup key with
      | none => some (Fields.insert key (.tables [[]]) es)
      | some (.tables items) => some (Fields.insert key (.tables ([] :: items)) es)
      | _ => none) keys.dropLast entries

/-- The tables that a key with points may lead through, and those that it may add to. -/
def mayEnter (atEnd : Bool) : Met → Bool
  | .table .dotted => true
  | .table .implied => !atEnd
  | .table .header => false
  | .tables => !atEnd

/-- Gives a value to a key that has none. -/
def give (keys : List String) (v : Json) (entries : Entries) : Option Entries :=
  match keys.getLast? with
  | none => none
  | some key =>
    within .dotted mayEnter (fun es =>
      match es.lookup key with
      | none => some (Fields.insert key (.value v) es)
      | some _ => none) keys.dropLast entries

/-- A key can be given a value in a table exactly if it has none. -/
theorem give_singleton (key : String) (v : Json) (entries : Entries) :
    give [key] v entries
      = if (entries.lookup key).isSome then none
        else some (Fields.insert key (.value v) entries) := by
  simp only [give, List.getLast?_singleton, List.dropLast_singleton, within]
  cases entries.lookup key <;> simp

end TaskOrchestration.Toml
