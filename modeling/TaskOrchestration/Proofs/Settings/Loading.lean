import TaskOrchestration.Proofs.Settings.Converting
import TaskOrchestration.Proofs.Settings.Files
import TaskOrchestration.Proofs.WorkUnit.Delays

/-!
# Where each setting comes from

A setting of polling is taken from the environment if it is there, else from the file, else it has
its default; the rules for messages are those of the file. `Settings.Chosen` says so for each
setting on its own. Loading succeeds exactly with the settings chosen in this way, provided that
they pass the check (`load_eq_ok_iff`), so a variable has no say in any setting but its own.
-/

open List (Forall₂)

namespace TaskOrchestration

/-! ## The environment -/

namespace Environment

/-- The only variables that are settings are those of polling. -/
def OfPolling (assignments : List (String × String)) : Prop :=
  ∀ p ∈ assignments, key? p.1 = none ∨ ∃ k : PollingKey, p.1 = k.environmentName

/-- The text of the variable for a setting of polling; of several assignments the last counts. -/
def text? (assignments : List (String × String)) (k : PollingKey) : Option String :=
  assignments.reverse.lookup k.environmentName

/-- The value of a setting of polling, if its variable is set. -/
def given? (assignments : List (String × String)) (k : PollingKey) : Option Setting :=
  (text? assignments k).map (value k.key)

variable {assignments : List (String × String)}

theorem OfPolling.append (h : OfPolling assignments) (k : PollingKey) (text : String) :
    OfPolling (assignments ++ [(k.environmentName, text)]) := by
  intro p member
  rcases List.mem_append.mp member with before | added
  · exact h p before
  · rw [List.mem_singleton.mp added]
    exact .inr ⟨k, rfl⟩

/-- A variable gives a scalar or a list. -/
theorem value_not_isTable (key text : String) : ¬ (value key text).IsTable := by
  rintro ⟨entries, origin, table⟩
  simp only [value, textSetting] at table
  split at table
  · cases table
  · cases table
  · split at table
    · cases table
    · cases table
    · split at table <;> cases table

/-- The setting that a variable gives, if it gives one. -/
def setting? (p : String × String) : Option (String × Setting) :=
  (key? p.1).map fun key => (key, value key p.2)

theorem layer_eq (assignments : List (String × String)) :
    layer assignments = Fields.ofList (assignments.filterMap setting?) := rfl

theorem setting?_environmentName (k : PollingKey) (text : String) :
    setting? (k.environmentName, text) = some (k.key, value k.key text) := by
  unfold setting?
  rw [k.key?_environmentName]
  rfl

theorem lookup_filterMap (k : PollingKey) (h : OfPolling assignments) :
    (assignments.filterMap setting?).lookup k.key =
      (assignments.lookup k.environmentName).map (value k.key) := by
  induction assignments with
  | nil => rfl
  | cons p rest ih =>
    obtain ⟨name, text⟩ := p
    have ih := ih fun p member => h p (List.mem_cons_of_mem _ member)
    rcases h _ List.mem_cons_self with foreign | ⟨k', rfl⟩
    · have another : (k.environmentName == name) = false := by
        refine beq_false_of_ne fun same => ?_
        rw [← same, k.key?_environmentName] at foreign
        cases foreign
      rw [List.filterMap_cons_none (by simp [setting?, foreign]), ih, List.lookup_cons, another]
    · rw [List.filterMap_cons_some (setting?_environmentName k' text), List.lookup_cons,
        List.lookup_cons]
      by_cases same : k = k'
      · simp [same]
      · have key : (k.key == k'.key) = false := by simpa using mt PollingKey.key_inj.mp same
        have name : (k.environmentName == k'.environmentName) = false := by
          simpa using mt PollingKey.environmentName_inj.mp same
        rw [key, name, ih]

theorem lookup_layer (h : OfPolling assignments) (k : PollingKey) :
    (layer assignments).lookup k.key = given? assignments k := by
  have reversed : OfPolling assignments.reverse := fun p member => h p (by simpa using member)
  rw [layer_eq, Fields.lookup_ofList, ← List.filterMap_reverse]
  exact lookup_filterMap k reversed

theorem layer_ofPolling (h : OfPolling assignments) : (layer assignments).OfPolling := by
  have origin (e : String × Setting) (member : e ∈ layer assignments) :
      ∃ p ∈ assignments, ∃ key, key? p.1 = some key ∧ e = (key, value key p.2) := by
    obtain ⟨p, assigned, given⟩ := List.mem_filterMap.mp (Fields.mem_ofList member)
    obtain ⟨key, isKey, rfl⟩ := Option.map_eq_some_iff.mp given
    exact ⟨p, assigned, key, isKey, rfl⟩
  refine ⟨(Fields.sorted_ofList _).nodup, fun e member => ?_, fun e member => ?_⟩
  · obtain ⟨p, assigned, key, isKey, rfl⟩ := origin e member
    rcases h p assigned with foreign | ⟨k, name⟩
    · exact absurd (isKey.symm.trans foreign) nofun
    · rw [name, k.key?_environmentName] at isKey
      exact ⟨k, (Option.some.inj isKey).symm⟩
  · obtain ⟨p, -, key, -, rfl⟩ := origin e member
    exact value_not_isTable key p.2

end Environment

/-! ## The file -/

/-- What is written in the file that a path means, with the name of the file: the fields of its
root, or none at all without a path. -/
inductive Directory.Provides (files : Directory) :
    Option String → String → List (String × Json) → Prop
  | nothing (origin : String) : Provides files none origin []
  | file {path origin content : String} {format : FileFormat} {fields : List (String × Json)}
      (found : files.find? path = .ok (origin, format, content))
      (reads : format.read origin content.toList = .ok (.object fields)) :
      Provides files (some path) origin fields

theorem Directory.Provides.orderly {files : Directory} {path : Option String} {origin : String}
    {fields : List (String × Json)} (h : files.Provides path origin fields) :
    (Json.object fields).Orderly := by
  cases h with
  | nothing => exact .object .nil (List.forall_mem_nil _)
  | file found reads => exact FileFormat.read_orderly reads

namespace Settings

/-- The root holds a table of settings of polling, or a list of rules for messages, or both, and
nothing else. -/
def Familiar (fields : List (String × Json)) : Prop :=
  ∀ f ∈ fields,
    (f.1 = "polling" ∧ ∃ entries, f.2 = .object entries ∧
      ∀ e ∈ entries, ∃ k : PollingKey, e.1 = k.name) ∨
    (f.1 = "error_rewrites" ∧ ∃ items, f.2 = .list items)

/-- The settings of polling in a file. -/
def pollingFields (fields : List (String × Json)) : List (String × Json) :=
  match fields.lookup "polling" with
  | some (.object entries) => entries
  | _ => []

/-- The rules for messages in a file. -/
def ruleItems (fields : List (String × Json)) : List Json :=
  match fields.lookup "error_rewrites" with
  | some (.list items) => items
  | _ => []

/-- The value that counts for a setting of polling: that of the environment, else that of the file,
else none. -/
def winner? (origin : String) (fields : List (String × Json))
    (assignments : List (String × String)) (k : PollingKey) : Option Setting :=
  (Environment.given? assignments k).or
    (((pollingFields fields).lookup k.name).map (Setting.ofJson origin))

/-- Each setting is what the value that counts for it is converted to, or its default if there is no
value, and the rules are those of the file in their order. -/
structure Chosen (origin : String) (fields : List (String × Json))
    (assignments : List (String × String)) (s : Settings) : Prop where
  intervalsMs : Setting.Yields (Setting.toList Setting.toUInt64) ({} : PollingSettings).intervalsMs
    (winner? origin fields assignments .intervalsMs) s.polling.intervalsMs
  attemptsBeforeNextInterval : Setting.Yields Setting.toUInt32
    ({} : PollingSettings).attemptsBeforeNextInterval
    (winner? origin fields assignments .attemptsBeforeNextInterval)
    s.polling.attemptsBeforeNextInterval
  maxFailedPolls : Setting.Yields Setting.toUInt32 ({} : PollingSettings).maxFailedPolls
    (winner? origin fields assignments .maxFailedPolls) s.polling.maxFailedPolls
  wordingRules : Forall₂ (fun item rule => (Setting.ofJson origin item).toWordingRule = .ok rule)
    (ruleItems fields) s.wordingRules

variable {origin : String} {fields : List (String × Json)}

theorem lookup_ofJsonFields (origin name : String) (fields : List (String × Json)) :
    (Setting.ofJsonFields origin fields).lookup name =
      (fields.lookup name).map (Setting.ofJson origin) := by
  induction fields with
  | nil => simp [Setting.ofJsonFields]
  | cons f rest ih =>
    obtain ⟨key, v⟩ := f
    rw [Setting.ofJsonFields, List.lookup_cons, List.lookup_cons]
    cases name == key <;> simp [ih]

theorem map_fst_ofJsonFields (origin : String) (fields : List (String × Json)) :
    (Setting.ofJsonFields origin fields).map Prod.fst = fields.map Prod.fst := by
  induction fields with
  | nil => simp [Setting.ofJsonFields]
  | cons f rest ih => simpa [Setting.ofJsonFields] using ih

theorem exists_mem_of_mem_ofJsonFields {e : String × Setting}
    (member : e ∈ Setting.ofJsonFields origin fields) : ∃ f ∈ fields, f.1 = e.1 := by
  have named : e.1 ∈ (Setting.ofJsonFields origin fields).map Prod.fst :=
    List.mem_map_of_mem member
  rw [map_fst_ofJsonFields] at named
  exact List.mem_map.mp named

theorem ofJsonItems_eq (origin : String) (items : List Json) :
    Setting.ofJsonItems origin items = items.map (Setting.ofJson origin) := by
  induction items with
  | nil => simp [Setting.ofJsonItems]
  | cons v rest ih => simpa [Setting.ofJsonItems] using ih

/-- The entries of an object are put into an empty table. -/
theorem entry_assignAll_ofJsonFields (origin : String) (orderly : (Json.object fields).Orderly)
    (lower : ∀ f ∈ fields, Text.lower f.1 = f.1) (name : String) :
    Setting.entry? name (Setting.emptyTable.assignAll (Setting.ofJsonFields origin fields)) =
      (fields.lookup name).map fun v => (Setting.ofJson origin v).settled := by
  have distinct : ((Setting.ofJsonFields origin fields).map Prod.fst).Nodup := by
    rw [map_fst_ofJsonFields]
    exact orderly.sorted.nodup
  rw [Setting.entry_assignAll distinct ?_ fun _ _ => rfl, lookup_ofJsonFields, Option.map_map]
  · exact Option.or_none
  · intro e member
    obtain ⟨f, member, same⟩ := exists_mem_of_mem_ofJsonFields member
    rw [← same]
    exact lower f member

namespace Familiar

theorem names (h : Familiar fields) {f : String × Json} (member : f ∈ fields) :
    f.1 = "polling" ∨ f.1 = "error_rewrites" :=
  (h f member).imp And.left And.left

/-- What stands under `polling` is a table of settings of polling. -/
theorem polling (h : Familiar fields) {v : Json} (found : fields.lookup "polling" = some v) :
    ∃ entries, v = .object entries ∧ ∀ e ∈ entries, ∃ k : PollingKey, e.1 = k.name := by
  rcases h _ (Fields.mem_of_lookup found) with ⟨-, table⟩ | ⟨other, -⟩
  · exact table
  · simp at other

theorem rules (h : Familiar fields) {v : Json}
    (found : fields.lookup "error_rewrites" = some v) : ∃ items, v = .list items := by
  rcases h _ (Fields.mem_of_lookup found) with ⟨other, -⟩ | ⟨-, list⟩
  · simp at other
  · exact list

end Familiar

/-- The rules are converted in their order. -/
theorem yields_rules_iff (familiar : Familiar fields) (rules : List WordingRule) :
    Setting.Yields (Setting.toList Setting.toWordingRule) []
        ((fields.lookup "error_rewrites").map (Setting.ofJson origin)) rules ↔
      Forall₂ (fun item rule => (Setting.ofJson origin item).toWordingRule = .ok rule)
        (ruleItems fields) rules := by
  unfold ruleItems
  cases here : fields.lookup "error_rewrites" with
  | none => simp [Setting.Yields]
  | some v =>
    obtain ⟨items, rfl⟩ := familiar.rules here
    rw [Option.map_some, Setting.ofJson, ofJsonItems_eq]
    exact (Setting.toList_eq_ok_iff _ _ rules).trans List.forall₂_map_left_iff

/-- The tree of the file with the environment over it. -/
def mergedTree (origin : String) (fields : List (String × Json))
    (assignments : List (String × String)) : Setting :=
  Layer.merge [Setting.ofJsonFields origin fields, Environment.layer assignments]

section Merged

variable (orderly : (Json.object fields).Orderly) (familiar : Familiar fields)
include orderly familiar

/-- The tree of the file alone. -/
theorem entry_over_file (origin name : String) :
    Setting.entry? name (Layer.over (Setting.ofJsonFields origin fields) Setting.emptyTable) =
      (fields.lookup name).map fun v => (Setting.ofJson origin v).settled := by
  have plain (f : String × Json) (member : f ∈ fields) :
      Path.ofText f.1 = .key f.1 ∧ Text.lower f.1 = f.1 := by
    rcases familiar.names member with same | same <;> rw [same] <;> decide +kernel
  have paths : ∀ e ∈ Setting.ofJsonFields origin fields, Path.ofText e.1 = .key e.1 := by
    intro e member
    obtain ⟨f, member, same⟩ := exists_mem_of_mem_ofJsonFields member
    rw [← same]
    exact (plain f member).1
  rw [Layer.over_eq_assignAll paths]
  exact entry_assignAll_ofJsonFields origin orderly (fun f member => (plain f member).2) name

/-- The settings of polling in the tree of the file alone. -/
theorem pollingValue_over_file (origin : String) (k : PollingKey) :
    (Layer.over (Setting.ofJsonFields origin fields) Setting.emptyTable).pollingValue? k =
      (((pollingFields fields).lookup k.name).map (Setting.ofJson origin)).map
        Setting.settled := by
  unfold Setting.pollingValue? pollingFields
  rw [entry_over_file orderly familiar]
  cases here : fields.lookup "polling" with
  | none => rfl
  | some v =>
    obtain ⟨entries, rfl, names⟩ := familiar.polling here
    have entriesOrderly : (Json.object entries).Orderly :=
      orderly.values _ (Fields.mem_of_lookup here)
    have lower : ∀ e ∈ entries, Text.lower e.1 = e.1 := by
      intro e member
      obtain ⟨k', same⟩ := names e member
      rw [same, k'.lower_name]
    rw [Option.map_some, Option.bind_some, Setting.ofJson, Setting.settled,
      entry_assignAll_ofJsonFields origin entriesOrderly lower, Option.map_map]
    rfl

/-! ## Both layers -/

variable {assignments : List (String × String)}
  (environment : Environment.OfPolling assignments)
include environment

theorem mergedTree_pollingTabular : (mergedTree origin fields assignments).PollingTabular := by
  refine Layer.over_pollingTabular (Environment.layer_ofPolling environment) fun s found => ?_
  rw [entry_over_file orderly familiar] at found
  obtain ⟨v, here, rfl⟩ := Option.map_eq_some_iff.mp found
  obtain ⟨entries, rfl, -⟩ := familiar.polling here
  exact Setting.settled_isTable_iff.mpr ⟨_, _, by rw [Setting.ofJson]⟩

theorem mergedTree_rules :
    Setting.entry? "error_rewrites" (mergedTree origin fields assignments) =
      (fields.lookup "error_rewrites").map (Setting.ofJson origin) := by
  rw [mergedTree, Layer.merge, List.foldl_cons, List.foldl_cons, List.foldl_nil,
    Layer.entry_over (Environment.layer_ofPolling environment) _ (by decide),
    entry_over_file orderly familiar]
  cases here : fields.lookup "error_rewrites" with
  | none => rfl
  | some v =>
    obtain ⟨items, rfl⟩ := familiar.rules here
    simp [Setting.ofJson, Setting.settled]

theorem mergedTree_pollingValue (k : PollingKey) :
    (mergedTree origin fields assignments).pollingValue? k =
      (Environment.given? assignments k).or
        ((((pollingFields fields).lookup k.name).map (Setting.ofJson origin)).map
          Setting.settled) := by
  rw [mergedTree, Layer.merge, List.foldl_cons, List.foldl_cons, List.foldl_nil,
    Layer.pollingValue_over (Environment.layer_ofPolling environment),
    Environment.lookup_layer environment, pollingValue_over_file orderly familiar]

/-- The tree of both layers gives the settings that are chosen. -/
theorem toSettings_mergedTree_iff (s : Settings) :
    (mergedTree origin fields assignments).toSettings = .ok s ↔
      Chosen origin fields assignments s := by
  have tabular : (mergedTree origin fields assignments).PollingTabular :=
    mergedTree_pollingTabular orderly familiar environment
  rw [Setting.toSettings_eq_ok_iff, mergedTree_rules orderly familiar environment,
    yields_rules_iff familiar, Setting.yields_toPollingSettings_iff tabular]
  simp only [mergedTree_pollingValue orderly familiar environment,
    Setting.yields_or_settled_iff Setting.toList_refusesTables,
    Setting.yields_or_settled_iff Setting.toUInt32_refusesTables]
  constructor
  · rintro ⟨rules, intervals, attempts, failed⟩
    exact ⟨intervals, attempts, failed, rules⟩
  · rintro ⟨intervals, attempts, failed, rules⟩
    exact ⟨rules, intervals, attempts, failed⟩

end Merged

/-! ## Loading -/

theorem check_eq_ok_iff (s : Settings) : s.check = .ok () ↔ s.defect? = none := by
  unfold check
  cases s.defect? <;> simp

theorem ofLayers_eq_ok_iff (layers : List Layer) (s : Settings) :
    ofLayers layers = .ok s ↔ (Layer.merge layers).toSettings = .ok s ∧ s.check = .ok () := by
  rw [check_eq_ok_iff]
  unfold ofLayers
  cases (Layer.merge layers).toSettings with
  | error e => simp
  | ok s' =>
    dsimp only
    rw [Except.ok.injEq]
    constructor
    · intro loaded
      split at loaded
      · cases loaded
      · next sound =>
        obtain rfl := Except.ok.inj loaded
        exact ⟨rfl, sound⟩
    · rintro ⟨rfl, sound⟩
      rw [sound]

variable {files : Directory} {path : Option String}

/-- Both layers are loaded together, an absent file being an empty one. -/
theorem load_of_provides (provides : files.Provides path origin fields)
    (assignments : List (String × String)) :
    load files assignments path =
      ofLayers [Setting.ofJsonFields origin fields, Environment.layer assignments] := by
  cases provides with
  | nothing => simp [load, ofLayers, Layer.merge, Layer.over, Setting.ofJsonFields]
  | file found reads =>
    simp [load, Directory.layer, found, reads, Setting.ofJson, bind, Except.bind, pure, Except.pure]

/-- Loading succeeds exactly with the settings that are chosen and pass the check. -/
theorem load_eq_ok_iff (provides : files.Provides path origin fields) (familiar : Familiar fields)
    {assignments : List (String × String)} (environment : Environment.OfPolling assignments)
    (s : Settings) :
    load files assignments path = .ok s ↔
      Chosen origin fields assignments s ∧ s.check = .ok () := by
  rw [load_of_provides provides, ofLayers_eq_ok_iff]
  exact and_congr_left fun _ =>
    toSettings_mergedTree_iff provides.orderly familiar environment s

/-- Settings that pass the check have an interval. -/
theorem intervalsMs_ne_nil_of_check {s : Settings} (sound : s.check = .ok ()) :
    s.polling.intervalsMs ≠ [] := by
  rw [check_eq_ok_iff] at sound
  intro empty
  simp [defect?, empty] at sound

/-- Settings that pass the check suggest no delay but one of the intervals. -/
theorem delayAfter_mem {s : Settings} (sound : s.check = .ok ()) (total : UInt32) :
    (Schedule.ofSettings s.polling).delayAfter total ∈ s.polling.intervalsMs :=
  List.mem_of_getElem?
    ((Schedule.ofSettings_due s.polling total).interval (intervalsMs_ne_nil_of_check sound))

/-! ## One more variable -/

/-- All settings but one of polling are the same. -/
structure SameApartFrom (k : PollingKey) (s s' : Settings) : Prop where
  intervalsMs : k ≠ .intervalsMs → s.polling.intervalsMs = s'.polling.intervalsMs
  attemptsBeforeNextInterval : k ≠ .attemptsBeforeNextInterval →
    s.polling.attemptsBeforeNextInterval = s'.polling.attemptsBeforeNextInterval
  maxFailedPolls : k ≠ .maxFailedPolls → s.polling.maxFailedPolls = s'.polling.maxFailedPolls
  wordingRules : s.wordingRules = s'.wordingRules

theorem winner?_append {k k' : PollingKey} (another : k ≠ k') (text : String)
    (assignments : List (String × String)) :
    winner? origin fields (assignments ++ [(k.environmentName, text)]) k' =
      winner? origin fields assignments k' := by
  have other : (k'.environmentName == k.environmentName) = false := by
    simpa using mt PollingKey.environmentName_inj.mp another.symm
  unfold winner? Environment.given? Environment.text?
  rw [List.reverse_append, List.reverse_cons, List.reverse_nil, List.nil_append,
    List.singleton_append, List.lookup_cons, other]

theorem Chosen.sameApartFrom {assignments : List (String × String)} {k : PollingKey} {text : String}
    {s s' : Settings} (h : Chosen origin fields assignments s)
    (h' : Chosen origin fields (assignments ++ [(k.environmentName, text)]) s') :
    SameApartFrom k s s' where
  intervalsMs another := by
    have := h'.intervalsMs
    rw [winner?_append another] at this
    exact h.intervalsMs.unique this
  attemptsBeforeNextInterval another := by
    have := h'.attemptsBeforeNextInterval
    rw [winner?_append another] at this
    exact h.attemptsBeforeNextInterval.unique this
  maxFailedPolls another := by
    have := h'.maxFailedPolls
    rw [winner?_append another] at this
    exact h.maxFailedPolls.unique this
  wordingRules := by
    refine List.right_unique_forall₂' (fun item rule rule' first second => ?_) h.wordingRules
      h'.wordingRules
    exact Except.ok.inj (first.symm.trans second)

/-- Loading succeeds exactly with the settings that are chosen, one by one, and pass the check. What
is suggested with these is always one of the intervals, and one more variable changes no setting but
its own. -/
theorem load_layered (provides : files.Provides path origin fields) (familiar : Familiar fields)
    {assignments : List (String × String)} (environment : Environment.OfPolling assignments) :
    (∀ s, load files assignments path = .ok s ↔
      Chosen origin fields assignments s ∧ s.check = .ok ()) ∧
    (∀ s, load files assignments path = .ok s → ∀ total,
      (Schedule.ofSettings s.polling).delayAfter total ∈ s.polling.intervalsMs) ∧
    ∀ (k : PollingKey) (text : String) (s s' : Settings),
      load files assignments path = .ok s →
      load files (assignments ++ [(k.environmentName, text)]) path = .ok s' →
      SameApartFrom k s s' := by
  have loads := load_eq_ok_iff provides familiar environment
  refine ⟨loads, fun s loaded => delayAfter_mem ((loads s).mp loaded).2, ?_⟩
  intro k text s s' loaded loaded'
  have extended := environment.append k text
  exact ((loads s).mp loaded).1.sameApartFrom
    ((load_eq_ok_iff provides familiar extended s').mp loaded').1

/-- A file that tolerates nine failed polls and rewords one message. -/
def tolerantText : String :=
  "\x7b\"polling\":\x7b\"max_failed_polls\":\"9\"\x7d,\"error_rewrites\":[[\"boom\",\"bang\"]]\x7d"

/-- The intervals come from the environment, the tolerance and the rule from the file, and the rest
has its default. -/
theorem load_layered_three_sources :
    load [("c.json", tolerantText)]
        [("HOME", "/"), ("REMOTE_TASK_POLLING__INTERVALS_MS", "100,200")] (some "c") =
      .ok { polling := { intervalsMs := [100, 200], maxFailedPolls := 9 },
            wordingRules := [{ message := "boom", replacement := "bang" }] } := by
  have found : Directory.find? [("c.json", tolerantText)] "c"
      = .ok ("c.json", .json, tolerantText) := by decide +kernel
  have reads : FileFormat.json.read "c.json" tolerantText.toList = .ok (.object
      [("error_rewrites", .list [.list [.string "boom", .string "bang"]]),
        ("polling", .object [("max_failed_polls", .string "9")])]) := by cbv
  have familiar : Familiar
      [("error_rewrites", .list [.list [.string "boom", .string "bang"]]),
        ("polling", .object [("max_failed_polls", .string "9")])] :=
    List.forall_mem_cons.mpr ⟨.inr ⟨rfl, _, rfl⟩,
      List.forall_mem_singleton.mpr (.inl ⟨rfl, _, rfl,
        List.forall_mem_singleton.mpr ⟨.maxFailedPolls, rfl⟩⟩)⟩
  have environment : Environment.OfPolling
      [("HOME", "/"), ("REMOTE_TASK_POLLING__INTERVALS_MS", "100,200")] :=
    List.forall_mem_cons.mpr ⟨.inl (by decide +kernel),
      List.forall_mem_singleton.mpr (.inr ⟨.intervalsMs, rfl⟩)⟩
  refine ((load_layered (.file found reads) familiar environment).1 _).mpr ⟨?_, by decide +kernel⟩
  exact {
    intervalsMs := by decide +kernel
    attemptsBeforeNextInterval := by decide +kernel
    maxFailedPolls := by decide +kernel
    wordingRules := .cons (by decide +kernel) .nil }

end Settings

end TaskOrchestration
