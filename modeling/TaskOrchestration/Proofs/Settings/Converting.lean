import Mathlib.Data.List.Forall2
import TaskOrchestration.Proofs.Settings.Layers

/-!
# Settings are converted one by one

Whether a tree of values gives settings, and which, is decided for each setting by its own entry
(`toSettings_eq_ok_iff`): an entry that is not there leaves the default, and any other has to be
converted. No conversion of a setting of polling takes a table, so it does not matter what becomes
of one on its way into the tree (`yields_or_settled_iff`).
-/

open List (Forall₂)

namespace TaskOrchestration.Setting

variable {α : Type} {convert : Setting → Converted α}

/-- What an entry that may be missing gives for a setting. -/
def Yields (convert : Setting → Converted α) (default : α) : Option Setting → α → Prop
  | none, a => a = default
  | some s, a => convert s = .ok a

instance [DecidableEq α] (default : α) :
    ∀ (s? : Option Setting) (a : α), Decidable (Yields convert default s? a)
  | none, a => inferInstanceAs (Decidable (a = default))
  | some s, a => inferInstanceAs (Decidable (convert s = .ok a))

theorem Yields.unique {default : α} {s? : Option Setting} {a a' : α}
    (h : Yields convert default s? a) (h' : Yields convert default s? a') : a = a' := by
  cases s? with
  | none => exact h.trans h'.symm
  | some s => exact Except.ok.inj (h.symm.trans h')

/-! ## Conversions -/

theorem behind_eq_ok_iff (step : Step) (x : Converted α) (a : α) :
    x.behind step = .ok a ↔ x = .ok a := by
  cases x <;> simp [Converted.behind]

/-- Items are converted all or none, each to one result. -/
theorem convertItems_eq_ok_iff (items : List Setting) (index : Nat) (results : List α) :
    convertItems convert index items = .ok results ↔
      Forall₂ (fun s a => convert s = .ok a) items results := by
  induction items generalizing index results with
  | nil => cases results <;> simp [convertItems]
  | cons s rest ih =>
    rw [convertItems, List.forall₂_cons_left_iff]
    simp only [← ih (index + 1), ← behind_eq_ok_iff (.item index) (convert s)]
    cases (convert s).behind (.item index) with
    | error e => simp [bind, Except.bind]
    | ok a =>
      cases convertItems convert (index + 1) rest <;>
        simp [bind, Except.bind, pure, Except.pure, eq_comm]

theorem toList_eq_ok_iff (items : List Setting) (origin : Option String) (results : List α) :
    toList convert (.list items origin) = .ok results ↔
      Forall₂ (fun s a => convert s = .ok a) items results :=
  convertItems_eq_ok_iff items 0 results

/-- An entry that may be missing is converted, or leaves room for the default. -/
theorem exists_entryIn_iff (name : String) (entries : List (String × Setting)) (default a : α) :
    (∃ found, entryIn name convert entries = .ok found ∧ found.getD default = a) ↔
      Yields convert default (entries.lookup name) a := by
  unfold entryIn
  cases entries.lookup name with
  | none => simp [Yields, eq_comm]
  | some s =>
    show (∃ found, some <$> (convert s).behind (.entry name) = .ok found ∧ _) ↔ convert s = .ok a
    rw [← behind_eq_ok_iff (.entry name) (convert s)]
    generalize (convert s).behind (.entry name) = x
    cases x <;> simp [Functor.map, Except.map]

/-- The settings of polling come each from its own entry. -/
theorem toPollingSettings_eq_ok_iff (entries : List (String × Setting)) (origin : Option String)
    (p : PollingSettings) :
    toPollingSettings (.table entries origin) = .ok p ↔
      Yields (toList toUInt64) ({} : PollingSettings).intervalsMs (entries.lookup "intervals_ms")
        p.intervalsMs ∧
      Yields toUInt32 ({} : PollingSettings).attemptsBeforeNextInterval
        (entries.lookup "attempts_before_next_interval") p.attemptsBeforeNextInterval ∧
      Yields toUInt32 ({} : PollingSettings).maxFailedPolls (entries.lookup "max_failed_polls")
        p.maxFailedPolls := by
  simp only [← exists_entryIn_iff, toPollingSettings]
  obtain ⟨intervals, attempts, failed⟩ := p
  cases entryIn "attempts_before_next_interval" toUInt32 entries with
  | error e => simp [bind, Except.bind, Except.map]
  | ok attempts' =>
    cases entryIn "intervals_ms" (toList toUInt64) entries with
    | error e => simp [bind, Except.bind, Except.map]
    | ok intervals' =>
      cases entryIn "max_failed_polls" toUInt32 entries with
      | error e => simp [bind, Except.bind, Except.map]
      | ok failed' =>
        simp [bind, Except.bind, Except.map, pure, Except.pure, PollingSettings.Draft.finish]

/-- The settings come each from its own entry of the root. -/
theorem toSettings_eq_ok_iff (root : Setting) (s : Settings) :
    root.toSettings = .ok s ↔
      Yields (toList toWordingRule) [] (root.entry? "error_rewrites") s.wordingRules ∧
        Yields toPollingSettings {} (root.entry? "polling") s.polling := by
  unfold entry?
  rw [← exists_entryIn_iff, ← exists_entryIn_iff]
  unfold toSettings
  obtain ⟨polling, rules⟩ := s
  cases entryIn "error_rewrites" (toList toWordingRule) root.entries with
  | error e => simp [bind, Except.bind]
  | ok rules' =>
    cases entryIn "polling" toPollingSettings root.entries with
    | error e => simp [bind, Except.bind]
    | ok polling' => simp [bind, Except.bind, pure, Except.pure, and_comm]

/-- In a tree with nothing but a table under `polling`, the settings of polling come each from its
own entry of that table. -/
theorem yields_toPollingSettings_iff {root : Setting} (tabular : root.PollingTabular)
    (p : PollingSettings) :
    Yields toPollingSettings {} (root.entry? "polling") p ↔
      Yields (toList toUInt64) ({} : PollingSettings).intervalsMs
        (root.pollingValue? .intervalsMs) p.intervalsMs ∧
      Yields toUInt32 ({} : PollingSettings).attemptsBeforeNextInterval
        (root.pollingValue? .attemptsBeforeNextInterval) p.attemptsBeforeNextInterval ∧
      Yields toUInt32 ({} : PollingSettings).maxFailedPolls
        (root.pollingValue? .maxFailedPolls) p.maxFailedPolls := by
  unfold pollingValue?
  cases found : root.entry? "polling" with
  | none =>
    obtain ⟨intervals, attempts, failed⟩ := p
    simp [Yields]
  | some s =>
    obtain ⟨entries, origin, rfl⟩ := tabular s found
    exact toPollingSettings_eq_ok_iff entries origin p

/-! ## Tables -/

/-- No table is converted. -/
def RefusesTables (convert : Setting → Converted α) : Prop :=
  ∀ entries origin a, convert (.table entries origin) ≠ .ok a

theorem toList_refusesTables : RefusesTables (toList convert) := fun _ _ _ => nofun

theorem toUInt32_refusesTables : RefusesTables toUInt32 := fun _ _ _ => nofun

/-- For a conversion that takes no table it makes no difference how one is put into the tree. -/
theorem settled_eq_ok_iff (refuses : RefusesTables convert) (s : Setting) (a : α) :
    convert s.settled = .ok a ↔ convert s = .ok a := by
  by_cases table : s.IsTable
  · obtain ⟨entries, origin, same⟩ := settled_isTable_iff.mpr table
    obtain ⟨entries', origin', rfl⟩ := table
    rw [same]
    exact iff_of_false (refuses _ _ a) (refuses _ _ a)
  · rw [settled_of_not_isTable table]

theorem yields_or_settled_iff (refuses : RefusesTables convert) (default : α)
    (upper lower : Option Setting) (a : α) :
    Yields convert default (upper.or (lower.map settled)) a ↔
      Yields convert default (upper.or lower) a := by
  cases upper with
  | some s => rfl
  | none =>
    cases lower with
    | none => rfl
    | some s => exact settled_eq_ok_iff refuses s a

end TaskOrchestration.Setting
