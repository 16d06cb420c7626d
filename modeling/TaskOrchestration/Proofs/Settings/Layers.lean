import TaskOrchestration.Settings.Load

/-!
# The tree of settings

A file gives the entries of the root and the environment gives single settings of polling by their
paths (`PollingKey`). The tree of both layers holds, under each key, the value of the uppermost
layer that has one, and what a layer says under one key leaves all others as they are
(`pollingValue_over`). A table is not put in its place as it is but entry by entry, which may merge
entries whose names differ in case (`settled`); it stays a table.
-/

namespace TaskOrchestration

/-! ## Keys -/

/-- A setting of polling. -/
inductive PollingKey
  | intervalsMs
  | attemptsBeforeNextInterval
  | maxFailedPolls
  deriving DecidableEq, Repr

namespace PollingKey

/-- The name of the setting among those of polling. -/
def name : PollingKey → String
  | .intervalsMs => "intervals_ms"
  | .attemptsBeforeNextInterval => "attempts_before_next_interval"
  | .maxFailedPolls => "max_failed_polls"

/-- The key of the setting from the root. -/
def key : PollingKey → String
  | .intervalsMs => "polling.intervals_ms"
  | .attemptsBeforeNextInterval => "polling.attempts_before_next_interval"
  | .maxFailedPolls => "polling.max_failed_polls"

/-- The variable of the environment that gives the setting. -/
def environmentName : PollingKey → String
  | .intervalsMs => "REMOTE_TASK_POLLING__INTERVALS_MS"
  | .attemptsBeforeNextInterval => "REMOTE_TASK_POLLING__ATTEMPTS_BEFORE_NEXT_INTERVAL"
  | .maxFailedPolls => "REMOTE_TASK_POLLING__MAX_FAILED_POLLS"

theorem lower_name (k : PollingKey) : Text.lower k.name = k.name := by cases k <;> decide

theorem name_inj {k k' : PollingKey} : k.name = k'.name ↔ k = k' := by
  cases k <;> cases k' <;> decide

theorem key_inj {k k' : PollingKey} : k.key = k'.key ↔ k = k' := by
  cases k <;> cases k' <;> decide

theorem environmentName_inj {k k' : PollingKey} :
    k.environmentName = k'.environmentName ↔ k = k' := by
  cases k <;> cases k' <;> decide

/-- The key is the path to the entry of that name in the entry of polling. -/
theorem ofText_key (k : PollingKey) :
    Path.ofText k.key = .child (.key "polling") k.name := by cases k <;> decide +kernel

/-- The variable is found under the key. -/
theorem key?_environmentName (k : PollingKey) :
    Environment.key? k.environmentName = some k.key := by cases k <;> decide +kernel

end PollingKey

/-! ## Entries of a tree -/

namespace Setting

/-- The value is a table. -/
def IsTable (s : Setting) : Prop := ∃ entries origin, s = .table entries origin

/-- What becomes of a value that is put where there was none: a table is put entry by entry. -/
def settled : Setting → Setting
  | .table entries _ => assignAll emptyTable entries
  | s => s

variable {root s : Setting}

theorem putEntry_isTable (root : Setting) (name : String) (s : Setting) :
    (root.putEntry name s).IsTable := ⟨_, _, rfl⟩

theorem assign_isTable (root : Setting) (name : String) (s : Setting) :
    (root.assign name s).IsTable := by
  cases s <;> simp [assign, putEntry_isTable]

theorem assignAll_isTable (h : root.IsTable) (entries : List (String × Setting)) :
    (root.assignAll entries).IsTable := by
  induction entries generalizing root with
  | nil => simpa [assignAll] using h
  | cons e rest ih => simpa [assignAll] using ih (assign_isTable root e.1 e.2)

theorem settled_of_not_isTable (h : ¬ s.IsTable) : s.settled = s := by
  cases s with
  | table entries origin => exact absurd ⟨entries, origin, rfl⟩ h
  | scalar | list => rfl

theorem settled_isTable_iff : s.settled.IsTable ↔ s.IsTable := by
  cases s with
  | table entries origin =>
    exact iff_of_true (assignAll_isTable ⟨[], none, rfl⟩ entries) ⟨entries, origin, rfl⟩
  | scalar | list => rfl

theorem entry_putEntry (root : Setting) (name other : String) (s : Setting) :
    entry? other (root.putEntry name s) = if other = name then some s else root.entry? other := by
  have same : root.asTable.entries = root.entries := by cases root <;> rfl
  show (Fields.insert name s root.asTable.entries).lookup other = _
  rw [Fields.lookup_insert, same]
  rfl

theorem assign_of_not_isTable (h : ¬ s.IsTable) (name : String) (root : Setting) :
    root.assign name s = root.putEntry (Text.lower name) s := by
  cases s with
  | table entries origin => exact absurd ⟨entries, origin, rfl⟩ h
  | scalar | list => simp [assign]

/-- A value is put under the name, and every other entry stays as it is. -/
theorem entry_assign {name : String} (lower : Text.lower name = name)
    (vacant : root.entry? name = none) (s : Setting) (other : String) :
    entry? other (root.assign name s) =
      if other = name then some s.settled else root.entry? other := by
  cases s with
  | table entries origin => simp [assign, lower, vacant, entry_putEntry, settled]
  | scalar | list => simp [assign, lower, entry_putEntry, settled]

/-- Entries that are put in one after the other are all found under their names. -/
theorem entry_assignAll {entries : List (String × Setting)}
    (distinct : (entries.map Prod.fst).Nodup) (lower : ∀ e ∈ entries, Text.lower e.1 = e.1)
    (vacant : ∀ e ∈ entries, root.entry? e.1 = none) (other : String) :
    entry? other (root.assignAll entries) =
      ((entries.lookup other).map settled).or (root.entry? other) := by
  induction entries generalizing root with
  | nil => simp [assignAll]
  | cons e rest ih =>
    obtain ⟨name, s⟩ := e
    obtain ⟨fresh, distinct⟩ := List.nodup_cons.mp distinct
    have fresh : name ∉ rest.map Prod.fst := fresh
    have first := entry_assign (lower _ List.mem_cons_self) (vacant _ List.mem_cons_self) s
    have stillVacant : ∀ e ∈ rest, entry? e.1 (root.assign name s) = none := by
      intro e member
      have another : e.1 ≠ name := by
        rintro rfl
        exact fresh (List.mem_map_of_mem member)
      rw [first, if_neg another]
      exact vacant e (List.mem_cons_of_mem _ member)
    rw [assignAll, ih distinct (fun e member => lower e (List.mem_cons_of_mem _ member))
      stillVacant, first]
    by_cases here : other = name
    · subst here
      simp [Fields.lookup_of_notMem fresh]
    · have : (other == name) = false := by simp [here]
      simp [List.lookup_cons, this, here]

/-! ## Settings of polling in a tree -/

/-- The value of a setting of polling. -/
def pollingValue? (root : Setting) (k : PollingKey) : Option Setting :=
  (root.entry? "polling").bind fun s => s.entry? k.name

/-- What there is under `polling` is a table. -/
def PollingTabular (root : Setting) : Prop := ∀ s, root.entry? "polling" = some s → s.IsTable

/-- What a path to a setting of polling does to the tree. -/
theorem set_key (k : PollingKey) (plain : ¬ s.IsTable) (root : Setting) :
    (Path.ofText k.key).set s root =
      root.putEntry "polling" (((root.entry? "polling").getD absent).putEntry k.name s) := by
  have polling : Text.lower "polling" = "polling" := by decide
  rw [k.ofText_key]
  simp only [Path.set, Path.update, updateEntry]
  rw [polling, assign_of_not_isTable plain, k.lower_name]

theorem pollingValue_set (k : PollingKey) (plain : ¬ s.IsTable) (root : Setting)
    (k' : PollingKey) :
    ((Path.ofText k.key).set s root).pollingValue? k' =
      if k' = k then some s else root.pollingValue? k' := by
  unfold pollingValue?
  rw [set_key k plain, entry_putEntry, if_pos rfl, Option.bind_some, entry_putEntry]
  by_cases same : k' = k
  · simp [same]
  · rw [if_neg (mt PollingKey.name_inj.mp same), if_neg same]
    cases root.entry? "polling" <;> rfl

end Setting

/-! ## Layers -/

namespace Layer

open Setting

/-- A layer of settings of polling, each given once by its key and none of them a table. -/
structure OfPolling (layer : Layer) : Prop where
  distinct : (layer.map Prod.fst).Nodup
  keys : ∀ e ∈ layer, ∃ k : PollingKey, e.1 = k.key
  plain : ∀ e ∈ layer, ¬ e.2.IsTable

variable {layer : Layer}

theorem over_cons (e : String × Setting) (layer : Layer) (root : Setting) :
    Layer.over (e :: layer) root = layer.over ((Path.ofText e.1).set e.2 root) := rfl

/-- A layer that names entries of the root puts its values into the root. -/
theorem over_eq_assignAll (names : ∀ e ∈ layer, Path.ofText e.1 = .key e.1) (root : Setting) :
    layer.over root = root.assignAll layer := by
  induction layer generalizing root with
  | nil => simp [Layer.over, assignAll]
  | cons e rest ih =>
    rw [over_cons, names e List.mem_cons_self, assignAll,
      ih fun e member => names e (List.mem_cons_of_mem _ member)]
    rfl

theorem OfPolling.tail {e : String × Setting} (h : OfPolling (e :: layer)) : OfPolling layer where
  distinct := (List.nodup_cons.mp h.distinct).2
  keys _ member := h.keys _ (List.mem_cons_of_mem _ member)
  plain _ member := h.plain _ (List.mem_cons_of_mem _ member)

/-- A setting that is in the layer has its value from there, and any other has the value that it had
before. -/
theorem pollingValue_over (h : layer.OfPolling) (root : Setting) (k : PollingKey) :
    (layer.over root).pollingValue? k = (layer.lookup k.key).or (root.pollingValue? k) := by
  induction layer generalizing root with
  | nil => simp [Layer.over]
  | cons e rest ih =>
    obtain ⟨name, s⟩ := e
    obtain ⟨k', rfl⟩ : ∃ k' : PollingKey, name = k'.key := h.keys _ List.mem_cons_self
    have plain : ¬ s.IsTable := h.plain _ List.mem_cons_self
    rw [over_cons, ih h.tail, pollingValue_set k' plain]
    by_cases same : k = k'
    · subst same
      simp [Fields.lookup_of_notMem (List.nodup_cons.mp h.distinct).1]
    · have : (k.key == k'.key) = false := by simpa using mt PollingKey.key_inj.mp same
      simp [List.lookup_cons, this, same]

/-- Such a layer changes nothing but the settings of polling. -/
theorem entry_over (h : layer.OfPolling) (root : Setting) {other : String}
    (another : other ≠ "polling") : entry? other (layer.over root) = root.entry? other := by
  induction layer generalizing root with
  | nil => rfl
  | cons e rest ih =>
    obtain ⟨name, s⟩ := e
    obtain ⟨k', rfl⟩ : ∃ k' : PollingKey, name = k'.key := h.keys _ List.mem_cons_self
    rw [over_cons, ih h.tail, set_key k' (h.plain _ List.mem_cons_self), entry_putEntry,
      if_neg another]

theorem over_pollingTabular (h : layer.OfPolling) {root : Setting}
    (tabular : root.PollingTabular) : (layer.over root).PollingTabular := by
  induction layer generalizing root with
  | nil => exact tabular
  | cons e rest ih =>
    obtain ⟨name, s⟩ := e
    obtain ⟨k', rfl⟩ : ∃ k' : PollingKey, name = k'.key := h.keys _ List.mem_cons_self
    rw [over_cons]
    refine ih h.tail fun s' found => ?_
    rw [set_key k' (h.plain _ List.mem_cons_self), entry_putEntry, if_pos rfl] at found
    obtain rfl := Option.some.inj found
    exact putEntry_isTable ..

end Layer

end TaskOrchestration
