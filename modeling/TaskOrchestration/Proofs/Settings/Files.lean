import TaskOrchestration.Settings.Load

/-!
# Objects in files of settings

Whatever the format of a file, in the objects that are read from it each name stands once
(`FileFormat.read_orderly`). A JSON object is put in order when all of its fields are there, and a
YAML mapping field by field; a TOML table is filled by many lines, each of which keeps the whole
tree in order.
-/

namespace TaskOrchestration

/-- In every object the names of the fields ascend, so that each of them stands once. -/
inductive Json.Orderly : Json → Prop
  | null : Orderly .null
  | boolean (b : Bool) : Orderly (.boolean b)
  | integer (i : Int) : Orderly (.integer i)
  | float (x : Binary64) : Orderly (.float x)
  | string (s : String) : Orderly (.string s)
  | list {items : List Json} (each : ∀ v ∈ items, Orderly v) : Orderly (.list items)
  | object {fields : List (String × Json)} (sorted : Fields.Sorted fields)
      (each : ∀ f ∈ fields, Orderly f.2) : Orderly (.object fields)

/-! ## JSON -/

namespace Json

theorem orderly_ofFields {fields : List (String × Json)} (each : ∀ f ∈ fields, f.2.Orderly) :
    (ofFields fields).Orderly :=
  .object (Fields.sorted_ofList fields) fun f member => each f (Fields.mem_ofList member)

namespace Orderly

variable {fields : List (String × Json)}

theorem sorted (h : (Json.object fields).Orderly) : Fields.Sorted fields := by
  cases h with
  | object sorted each => exact sorted

theorem values (h : (Json.object fields).Orderly) : ∀ f ∈ fields, f.2.Orderly := by
  cases h with
  | object sorted each => exact each

/-- A field that is put in keeps an object in order. -/
theorem insert (h : (Json.object fields).Orderly) {v : Json} (value : v.Orderly) (name : String) :
    (Json.object (Fields.insert name v fields)).Orderly := by
  refine .object (h.sorted.insert name v) fun f member => ?_
  rcases Fields.mem_insert member with rfl | before
  · exact value
  · exact h.values f before

end Orderly

/-- A reader reads nothing but what has this property. -/
def Only {α : Type} (P : α → Prop) (x : Except SyntaxError (α × List Char)) : Prop :=
  ∀ a rest, x = .ok (a, rest) → P a

section Only

variable {α β : Type} {P : α → Prop} {Q : β → Prop}

theorem only_ok {a : α} (h : P a) (rest : List Char) : Only P (.ok (a, rest)) := by
  rintro _ _ ⟨⟩
  exact h

theorem only_failed (fault : Fault) (rest : List Char) : Only P (failed fault rest) := nofun

theorem only_blocked (fault : Fault) (rest : List Char) : Only P (blocked fault rest) := nofun

theorem Only.bind {x : Except SyntaxError (α × List Char)}
    {next : α × List Char → Except SyntaxError (β × List Char)} (h : Only P x)
    (later : ∀ a rest, P a → Only Q (next (a, rest))) : Only Q (x >>= next) := by
  cases x with
  | error e => exact nofun
  | ok read => exact later read.1 read.2 (h _ _ rfl)

theorem only_true (x : Except SyntaxError (α × List Char)) : Only (fun _ => True) x :=
  fun _ _ _ => trivial

end Only

theorem word_orderly {v : Json} (h : v.Orderly) (letters cs : List Char) :
    Only Orderly (word v letters cs) := by
  induction letters generalizing cs with
  | nil => exact only_ok h cs
  | cons w ws ih =>
    cases cs with
    | nil => exact only_failed _ _
    | cons c cs =>
      unfold word
      split
      · exact ih cs
      · exact only_failed _ _

theorem Numeral.value?_orderly {d : Numeral} {v : Json} (h : d.value? = some v) : v.Orderly := by
  have double (read : d.double?.map Json.float = some v) : v.Orderly := by
    obtain ⟨x, -, rfl⟩ := Option.map_eq_some_iff.mp read
    exact .float x
  unfold Numeral.value? at h
  dsimp only at h
  split at h
  · split at h
    · obtain rfl := Option.some.inj h
      exact .integer _
    · split at h
      · obtain rfl := Option.some.inj h
        exact .integer _
      · exact double h
  · exact double h

theorem number_orderly (negative : Bool) (cs : List Char) :
    Only Orderly (number negative cs) := by
  refine (only_true _).bind fun d rest _ => ?_
  dsimp only
  split
  · next v same => exact only_ok (Numeral.value?_orderly same) rest
  · exact only_failed _ _

/-- What is read within a number of steps is in order, if what was read before is. -/
structure StepsOrderly (fuel : Nat) : Prop where
  value (depth : Nat) (cs : List Char) : Only Orderly (value fuel depth cs)
  items (depth : Nat) (first : Bool) (acc : List Json) (cs : List Char)
    (before : ∀ v ∈ acc, v.Orderly) :
    Only (fun vs => ∀ v ∈ vs, v.Orderly) (items fuel depth first acc cs)
  fields (depth : Nat) (first : Bool) (acc : List (String × Json)) (cs : List Char)
    (before : ∀ f ∈ acc, f.2.Orderly) :
    Only (fun fs => ∀ f ∈ fs, f.2.Orderly) (fields fuel depth first acc cs)
  field (depth : Nat) (acc : List (String × Json)) (cs : List Char)
    (before : ∀ f ∈ acc, f.2.Orderly) :
    Only (fun fs => ∀ f ∈ fs, f.2.Orderly) (field fuel depth acc cs)

theorem stepsOrderly (fuel : Nat) : StepsOrderly fuel := by
  induction fuel with
  | zero =>
    constructor
    case value =>
      intro depth cs
      unfold Json.value
      exact only_blocked _ _
    case items =>
      intro depth first acc cs before
      unfold Json.items
      exact only_blocked _ _
    case fields =>
      intro depth first acc cs before
      unfold Json.fields
      exact only_blocked _ _
    case field =>
      intro depth acc cs before
      unfold Json.field
      exact only_blocked _ _
  | succ fuel ih =>
    constructor
    case value =>
      intro depth cs
      unfold Json.value
      split
      · exact only_blocked _ _
      · exact word_orderly .null _ _
      · exact word_orderly (.boolean true) _ _
      · exact word_orderly (.boolean false) _ _
      · exact number_orderly _ _
      · exact (only_true _).bind fun s rest _ => only_ok (.string s) rest
      · split
        · exact (ih.items _ _ _ _ (List.forall_mem_nil _)).bind fun vs rest each =>
            only_ok (.list each) rest
        · exact only_blocked _ _
      · split
        · exact (ih.fields _ _ _ _ (List.forall_mem_nil _)).bind fun fs rest each =>
            only_ok (orderly_ofFields each) rest
        · exact only_blocked _ _
      · split
        · exact number_orderly _ _
        · exact only_blocked _ _
    case items =>
      intro depth first acc cs before
      have next (r : List Char) :
          Only (fun vs => ∀ v ∈ vs, v.Orderly)
            (Json.value fuel depth r >>= fun read =>
              Json.items fuel depth false (read.1 :: acc) read.2) :=
        (ih.value depth r).bind fun v rest value =>
          ih.items _ _ _ _ (List.forall_mem_cons.mpr ⟨value, before⟩)
      unfold Json.items
      split
      · exact only_blocked _ _
      · exact only_ok (by simpa using before) _
      · split
        · exact next _
        · split
          · split
            · exact only_blocked _ _
            · exact only_blocked _ _
            · exact next _
          · exact only_blocked _ _
    case fields =>
      intro depth first acc cs before
      unfold Json.fields
      split
      · exact only_blocked _ _
      · exact only_ok (by simpa using before) _
      · split
        · split
          · exact ih.field _ _ _ before
          · exact only_blocked _ _
        · split
          · split
            · exact only_blocked _ _
            · exact ih.field _ _ _ before
            · exact only_blocked _ _
            · exact only_blocked _ _
          · exact only_blocked _ _
    case field =>
      intro depth acc cs before
      unfold Json.field
      refine (only_true _).bind fun name rest _ => ?_
      dsimp only
      split
      · exact only_blocked _ _
      · exact (ih.value _ _).bind fun v rest value =>
          ih.fields _ _ _ _ (List.forall_mem_cons.mpr ⟨value, before⟩)
      · exact only_blocked _ _

theorem parse?_orderly {text : List Char} {v : Json} (h : parse? text = .ok v) : v.Orderly := by
  unfold parse? at h
  cases read : value (3 * text.length + 3) 128 text with
  | error e => simp [read, bind, Except.bind] at h
  | ok found =>
    simp only [read, bind, Except.bind] at h
    split at h
    · obtain rfl := Except.ok.inj h
      exact (stepsOrderly _).value _ _ _ _ read
    · cases h

end Json

/-! ## TOML -/

namespace Toml

open Json (Orderly)

/-- A table under construction is in order if it is so when it is finished. -/
def InOrder (entries : Entries) : Prop := (Json.object (fieldsOf entries)).Orderly

variable {entries : Entries}

theorem fieldsOf_insert (key : String) (e : Entry) (entries : Entries) :
    fieldsOf (Fields.insert key e entries) = Fields.insert key e.toJson (fieldsOf entries) := by
  induction entries with
  | nil => simp [Fields.insert, fieldsOf]
  | cons p rest ih =>
    obtain ⟨name, e'⟩ := p
    simp only [Fields.insert, fieldsOf]
    split
    · rfl
    · split
      · rfl
      · rw [fieldsOf, ih]

theorem mem_fieldsOf {p : String × Entry} (h : p ∈ entries) :
    (p.1, p.2.toJson) ∈ fieldsOf entries := by
  induction entries with
  | nil => cases h
  | cons q rest ih =>
    rw [fieldsOf]
    rcases List.mem_cons.mp h with rfl | later
    · exact List.mem_cons_self
    · exact List.mem_cons_of_mem _ (ih later)

theorem listOf_eq (items : List Entries) :
    listOf items = items.map fun entries => .object (fieldsOf entries) := by
  induction items with
  | nil => simp [listOf]
  | cons entries rest ih => simp [listOf, ih]

theorem inOrder_nil : InOrder [] := by
  unfold InOrder fieldsOf
  exact .object .nil (List.forall_mem_nil _)

theorem InOrder.insert (h : InOrder entries) {e : Entry} (value : e.toJson.Orderly)
    (key : String) : InOrder (Fields.insert key e entries) := by
  unfold InOrder
  rw [fieldsOf_insert]
  exact Orderly.insert h value key

/-- What stands under a key is in order. -/
theorem InOrder.lookup (h : InOrder entries) {key : String} {e : Entry}
    (found : entries.lookup key = some e) : e.toJson.Orderly := by
  exact h.values _ (mem_fieldsOf (Fields.mem_of_lookup found))

theorem toJson_table_orderly (h : InOrder entries) (origin : Origin) :
    (Entry.table origin entries).toJson.Orderly := by
  rw [Entry.toJson]
  exact h

theorem inOrder_of_toJson_table {origin : Origin}
    (h : (Entry.table origin entries).toJson.Orderly) : InOrder entries := by
  rwa [Entry.toJson] at h

/-- A list of tables is in order if each of them is. -/
theorem toJson_tables_orderly_iff (items : List Entries) :
    (Entry.tables items).toJson.Orderly ↔ ∀ entries ∈ items, InOrder entries := by
  rw [Entry.toJson, listOf_eq]
  constructor
  · rintro (_ | _ | _ | _ | _ | each)
    intro entries member
    exact each _ (List.mem_reverse.mpr (List.mem_map_of_mem member))
  · intro each
    refine .list fun v member => ?_
    obtain ⟨entries, inItems, rfl⟩ := List.mem_map.mp (List.mem_reverse.mp member)
    exact each entries inItems

/-- A change keeps tables in order. -/
def Keeps (change : Entries → Option Entries) : Prop :=
  ∀ entries entries', InOrder entries → change entries = some entries' → InOrder entries'

variable {change : Entries → Option Entries}

/-- Keys lead from a tree in order to a tree in order. -/
theorem within_keeps (made : Origin) (enter : Bool → Met → Bool) (keeps : Keeps change)
    (keys : List String) : Keeps (within made enter change keys) := by
  induction keys with
  | nil => exact keeps
  | cons key keys ih =>
    intro entries entries' inOrder changed
    unfold within at changed
    split at changed
    · obtain ⟨inner, entered, done⟩ := Option.bind_eq_some_iff.mp changed
      obtain rfl := Option.some.inj done
      exact inOrder.insert (toJson_table_orderly (ih _ _ inOrder_nil entered) made) key
    · next origin inner found =>
      split at changed
      · obtain ⟨inner', entered, done⟩ := Option.bind_eq_some_iff.mp changed
        obtain rfl := Option.some.inj done
        have inner := inOrder_of_toJson_table (inOrder.lookup found)
        exact inOrder.insert (toJson_table_orderly (ih _ _ inner entered) origin) key
      · cases changed
    · next last earlier found =>
      split at changed
      · obtain ⟨last', entered, done⟩ := Option.bind_eq_some_iff.mp changed
        obtain rfl := Option.some.inj done
        obtain ⟨last, earlier⟩ := List.forall_mem_cons.mp
          ((toJson_tables_orderly_iff _).mp (inOrder.lookup found))
        exact inOrder.insert ((toJson_tables_orderly_iff _).mpr
          (List.forall_mem_cons.mpr ⟨ih _ _ last entered, earlier⟩)) key
      · cases changed
    · cases changed

theorem openTable_keeps (keys : List String) : Keeps (openTable keys) := by
  unfold openTable
  split
  · exact fun _ _ _ => nofun
  · refine within_keeps _ _ (fun entries entries' inOrder changed => ?_) _
    split at changed
    · obtain rfl := Option.some.inj changed
      exact inOrder.insert (toJson_table_orderly inOrder_nil _) _
    · next found =>
      obtain rfl := Option.some.inj changed
      exact inOrder.insert
        (toJson_table_orderly (inOrder_of_toJson_table (inOrder.lookup found)) _) _
    · cases changed

theorem openListed_keeps (keys : List String) : Keeps (openListed keys) := by
  unfold openListed
  split
  · exact fun _ _ _ => nofun
  · refine within_keeps _ _ (fun entries entries' inOrder changed => ?_) _
    split at changed
    · obtain rfl := Option.some.inj changed
      exact inOrder.insert ((toJson_tables_orderly_iff _).mpr (by simpa using inOrder_nil)) _
    · next found =>
      obtain rfl := Option.some.inj changed
      exact inOrder.insert ((toJson_tables_orderly_iff _).mpr
        (List.forall_mem_cons.mpr ⟨inOrder_nil,
          (toJson_tables_orderly_iff _).mp (inOrder.lookup found)⟩)) _
    · cases changed

theorem give_keeps {v : Json} (value : v.Orderly) (keys : List String) : Keeps (give keys v) := by
  unfold give
  split
  · exact fun _ _ _ => nofun
  · refine within_keeps _ _ (fun entries entries' inOrder changed => ?_) _
    split at changed
    · obtain rfl := Option.some.inj changed
      exact inOrder.insert (by rwa [Entry.toJson]) _
    · cases changed

theorem word?_orderly {cs : List Char} {v : Json} (h : word? cs = some v) : v.Orderly := by
  unfold word? at h
  split at h
  · obtain rfl := Option.some.inj h
    exact .boolean _
  · split at h
    · obtain rfl := Option.some.inj h
      exact .boolean _
    · split at h
      · obtain rfl := Option.some.inj h
        exact .integer _
      · obtain ⟨x, -, rfl⟩ := Option.map_eq_some_iff.mp h
        exact .float x

theorem simple?_orderly {cs r : List Char} {v : Json} (h : simple? cs = some (v, r)) :
    v.Orderly := by
  unfold simple? at h
  split at h
  · obtain ⟨_, -, same⟩ := Option.map_eq_some_iff.mp h
    cases same
    exact .string _
  · obtain ⟨_, -, same⟩ := Option.map_eq_some_iff.mp h
    cases same
    exact .string _
  · split at h
    · cases h
      exact .string _
    · obtain ⟨_, read, same⟩ := Option.map_eq_some_iff.mp h
      cases same
      exact word?_orderly read

/-- What is read within a number of steps is in order, if what was read before is. -/
structure StepsOrderly (steps : Nat) : Prop where
  value {depth : Nat} {cs r : List Char} {v : Json} (read : value? steps depth cs = some (v, r)) :
    v.Orderly
  items {depth : Nat} {acc vs : List Json} {cs r : List Char} (before : ∀ v ∈ acc, v.Orderly)
    (read : items? steps depth acc cs = some (vs, r)) : ∀ v ∈ vs, v.Orderly
  fields {depth : Nat} {acc es : Entries} {cs r : List Char} (before : InOrder acc)
    (read : fields? steps depth acc cs = some (es, r)) : InOrder es

theorem stepsOrderly (steps : Nat) : StepsOrderly steps := by
  induction steps with
  | zero =>
    constructor
    case value =>
      intro depth cs r v read
      simp [value?] at read
    case items =>
      intro depth acc vs cs r before read
      simp [items?] at read
    case fields =>
      intro depth acc es cs r before read
      simp [fields?] at read
  | succ steps ih =>
    constructor
    case value =>
      intro depth cs r v read
      unfold value? at read
      split at read
      · split at read
        · obtain ⟨_, items, same⟩ := Option.map_eq_some_iff.mp read
          cases same
          exact .list (ih.items (List.forall_mem_nil _) items)
        · cases read
      · split at read
        · split at read
          · cases read
            exact inOrder_nil
          · obtain ⟨_, fields, same⟩ := Option.map_eq_some_iff.mp read
            cases same
            exact ih.fields inOrder_nil fields
        · cases read
      · exact simple?_orderly read
    case items =>
      intro depth acc vs cs r before read
      unfold items? at read
      split at read
      · cases read
        simpa using before
      · obtain ⟨⟨v, r'⟩, value, read⟩ := Option.bind_eq_some_iff.mp read
        have all : ∀ w ∈ v :: acc, w.Orderly :=
          List.forall_mem_cons.mpr ⟨ih.value value, before⟩
        dsimp only at read
        split at read
        · exact ih.items all read
        · cases read
          simpa [or_comm, forall_and] using all
        · cases read
    case fields =>
      intro depth acc es cs r before read
      unfold fields? at read
      obtain ⟨⟨keys, r'⟩, -, read⟩ := Option.bind_eq_some_iff.mp read
      dsimp only at read
      split at read
      · obtain ⟨⟨v, r'⟩, value, read⟩ := Option.bind_eq_some_iff.mp read
        obtain ⟨acc', given, read⟩ := Option.bind_eq_some_iff.mp read
        have kept := give_keeps (ih.value value) keys _ _ before given
        split at read
        · exact ih.fields kept read
        · cases read
          exact kept
        · cases read
      · cases read

/-- Every line keeps the tree in order. -/
theorem lines?_keeps (steps : Nat) (header : List String) {entries entries' : Entries}
    {cs : List Char} (before : InOrder entries)
    (read : lines? steps header entries cs = some entries') : InOrder entries' := by
  induction steps generalizing header entries cs with
  | zero => simp [lines?] at read
  | succ steps ih =>
    -- A line changes the tree, and the lines behind it go on with what it made of it.
    have goOn (header : List String) {change : Entries → Option Entries} (keeps : Keeps change)
        {r : List Char}
        (read : (do
          let entries ← change entries
          lines? steps header entries (← lineEnd? r)) = some entries') : InOrder entries' := by
      obtain ⟨changed, change, read⟩ := Option.bind_eq_some_iff.mp read
      obtain ⟨r', -, read⟩ := Option.bind_eq_some_iff.mp read
      exact ih header (keeps _ _ before change) read
    unfold lines? at read
    split at read
    · cases read
      exact before
    · obtain ⟨⟨keys, r⟩, -, read⟩ := Option.bind_eq_some_iff.mp read
      dsimp only at read
      split at read
      · exact goOn keys (openListed_keeps keys) read
      · cases read
    · obtain ⟨⟨keys, r⟩, -, read⟩ := Option.bind_eq_some_iff.mp read
      dsimp only at read
      split at read
      · exact goOn keys (openTable_keeps keys) read
      · cases read
    · obtain ⟨⟨keys, r⟩, -, read⟩ := Option.bind_eq_some_iff.mp read
      dsimp only at read
      split at read
      · obtain ⟨⟨v, r⟩, value, read⟩ := Option.bind_eq_some_iff.mp read
        have given : Keeps (give keys v) := give_keeps ((stepsOrderly _).value value) keys
        exact goOn header (within_keeps _ _ given header) read
      · cases read

theorem parse?_orderly {text : List Char} {v : Json} (h : parse? text = some v) : v.Orderly := by
  obtain ⟨entries, read, rfl⟩ := Option.map_eq_some_iff.mp h
  exact lines?_keeps _ _ inOrder_nil read

end Toml

/-! ## YAML -/

namespace Yaml.Node

mutual

theorem toJson?_orderly (n : Node) {v : Json} (h : n.toJson? = some v) : v.Orderly := by
  match n with
  | .scalar .bad => cases h; exact .null
  | .scalar .null => cases h; exact .null
  | .scalar (.boolean b) => cases h; exact .boolean b
  | .scalar (.integer i) => cases h; exact .integer i
  | .scalar (.real text) =>
    obtain ⟨x, -, rfl⟩ := Option.map_eq_some_iff.mp h
    exact .float x
  | .scalar (.string s) => cases h; exact .string s
  | .sequence items =>
    obtain ⟨vs, read, rfl⟩ := Option.map_eq_some_iff.mp h
    exact .list (itemsToJson?_orderly items read)
  | .mapping entries =>
    obtain ⟨fields, read, rfl⟩ := Option.map_eq_some_iff.mp h
    exact entriesToJson?_orderly entries (.object .nil (List.forall_mem_nil _)) read

theorem itemsToJson?_orderly (items : List Node) {vs : List Json}
    (h : itemsToJson? items = some vs) : ∀ v ∈ vs, v.Orderly := by
  match items with
  | [] => cases h; exact List.forall_mem_nil _
  | n :: rest =>
    obtain ⟨v, first, h⟩ := Option.bind_eq_some_iff.mp h
    obtain ⟨vs, later, h⟩ := Option.bind_eq_some_iff.mp h
    cases h
    exact List.forall_mem_cons.mpr ⟨n.toJson?_orderly first, itemsToJson?_orderly rest later⟩

theorem entriesToJson?_orderly (entries : List (Node × Node)) {before fields : List (String × Json)}
    (orderly : (Json.object before).Orderly) (h : entriesToJson? before entries = some fields) :
    (Json.object fields).Orderly := by
  match entries with
  | [] => cases h; exact orderly
  | (key, n) :: rest =>
    obtain ⟨name, -, h⟩ := Option.bind_eq_some_iff.mp h
    obtain ⟨v, value, h⟩ := Option.bind_eq_some_iff.mp h
    exact entriesToJson?_orderly rest (orderly.insert (n.toJson?_orderly value) name) h

end

end Yaml.Node

theorem Yaml.parse?_orderly {text : List Char} {v : Json} (h : parse? text = some v) :
    v.Orderly := by
  obtain ⟨tokens, -, h⟩ := Option.bind_eq_some_iff.mp h
  obtain ⟨document, -, h⟩ := Option.bind_eq_some_iff.mp h
  cases document with
  | none =>
    cases h
    exact .object .nil (List.forall_mem_nil _)
  | some n => exact n.toJson?_orderly h

/-! ## Files -/

/-- Whatever the format of a text, in the objects that are read from it each name stands once. -/
theorem FileFormat.read_orderly {format : FileFormat} {origin : String} {text : List Char}
    {v : Json} (h : format.read origin text = .ok v) : v.Orderly := by
  cases format with
  | json =>
    unfold read at h
    dsimp only at h
    split at h
    · next parsed =>
      obtain rfl := Except.ok.inj h
      exact Json.parse?_orderly parsed
    · cases h
  | toml =>
    cases parsed : Toml.parse? text with
    | none => simp [read, parsed] at h
    | some w =>
      obtain rfl : w = v := by simpa [read, parsed] using h
      exact Toml.parse?_orderly parsed
  | yaml =>
    cases parsed : Yaml.parse? text with
    | none => simp [read, parsed] at h
    | some w =>
      obtain rfl : w = v := by simpa [read, parsed] using h
      exact Yaml.parse?_orderly parsed

end TaskOrchestration
