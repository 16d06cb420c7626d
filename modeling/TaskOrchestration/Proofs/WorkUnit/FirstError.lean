import TaskOrchestration.WorkUnit

/-!
# Which error is found first, and how it is worded

`TaskReport.HasError` spells out when a task has an error message and which one, and
`Watchlist.FirstError` which of several errors counts: that of the first task, and only if no task
has one, that of the first group. `Rewords` spells out what a list of rules makes of a message. The
lemmas `…_eq_some_iff` and `apply_eq_iff` say that this is what is computed.
-/

namespace TaskOrchestration

/-! ## The error message of a task -/

/-- The error says something: a text that is not blank, bare or as its description. -/
inductive TaskError.Tells : TaskError → String → Prop
  | bare {text : String} (legible : Text.allBlank text = false) : Tells (.message text) text
  | described {text : String} {traceback : Option String} (legible : Text.allBlank text = false) :
    Tells (.structured (some text) traceback) text

/-- A text is taken for the description of an error exactly if the error says so. -/
theorem TaskError.description?_eq_some_iff {p : TaskError} {text : String} :
    p.description? = some text ↔ p.Tells text := by
  unfold TaskError.description?
  simp only [Option.filter_eq_some_iff, Bool.not_eq_true']
  constructor
  · rintro ⟨found, legible⟩
    match p with
    | .message text' =>
      obtain rfl : text' = text := Option.some.inj found
      exact .bare legible
    | .structured description traceback =>
      obtain rfl : description = some text := found
      exact .described legible
  · rintro (⟨legible⟩ | ⟨legible⟩) <;> exact ⟨rfl, legible⟩

/-- The task has an error, with a message. -/
inductive TaskReport.HasError (t : TaskReport) : String → Prop
  /-- The report has a message. -/
  | told {p : TaskError} {message : String} (error : t.error = some p) (tells : p.Tells message) :
    HasError t message
  /-- The task has failed and its report does not say why. -/
  | untold (silent : ∀ p message, t.error = some p → ¬ p.Tells message)
    (failed : t.state = some TaskState.failed) : HasError t unexplainedFailure

/-- A task has an error exactly if it has an error message, and it is that one. -/
theorem TaskReport.errorMessage?_eq_some_iff {t : TaskReport} {message : String} :
    t.errorMessage? = some message ↔ t.HasError message := by
  have told {text : String} :
      t.error.bind TaskError.description? = some text ↔ ∃ p, t.error = some p ∧ p.Tells text := by
    simp only [Option.bind_eq_some_iff, TaskError.description?_eq_some_iff]
  unfold TaskReport.errorMessage?
  cases found : t.error.bind TaskError.description? with
  | some text =>
    obtain ⟨p, error, tells⟩ := told.mp found
    constructor
    · intro same
      obtain rfl : text = message := Option.some.inj same
      exact .told error tells
    · intro has
      cases has with
      | told error' tells' => exact found.symm.trans (told.mpr ⟨_, error', tells'⟩)
      | untold silent _ => exact absurd tells (silent p text error)
  | none =>
    have silent (p : TaskError) (text : String) (error : t.error = some p) : ¬ p.Tells text := by
      intro tells
      rw [told.mpr ⟨p, error, tells⟩] at found
      cases found
    constructor
    · intro same
      by_cases failed : t.state = some TaskState.failed
      · simp only [failed, beq_self_eq_true, if_true] at same
        obtain rfl := Option.some.inj same
        exact .untold silent failed
      · simp [failed] at same
    · intro has
      cases has with
      | told error tells => exact absurd tells (silent _ _ error)
      | untold _ failed => simp [failed]

/-! ## The first of several errors -/

/-- None of the tasks has an error. -/
def Clean (tasks : List TaskReport) : Prop := ∀ t ∈ tasks, ∀ message, ¬ t.HasError message

theorem clean_iff {tasks : List TaskReport} :
    Clean tasks ↔ ∀ t ∈ tasks, t.errorMessage? = none := by
  unfold Clean
  simp only [← TaskReport.errorMessage?_eq_some_iff, ← Option.eq_none_iff_forall_ne_some]

/-- The first of the tasks that has an error. -/
structure FirstWithError (tasks : List TaskReport) (t : TaskReport) (message : String) : Prop where
  split : ∃ before after, tasks = before ++ t :: after ∧ Clean before
  hasError : t.HasError message

/-- What is tracked has an error: its first, with the reference of the task or group and with the
message. -/
inductive Watchlist.FirstError (v : Watchlist) : String → String → Prop
  /-- A task has an error. -/
  | task {t : TaskReport} {message : String} (first : FirstWithError v.tasks t message) :
    FirstError v t.href message
  /-- No task has an error, but a member of a group has. -/
  | group {before after : List TrackedGroup} {g : TrackedGroup} {m : TaskReport} {message : String}
    (clean : Clean v.tasks) (split : v.groups = before ++ g :: after)
    (cleanGroups : ∀ g' ∈ before, Clean g'.members)
    (first : FirstWithError g.members m message) : FirstError v g.href message

/-- Looking for an error among tasks finds that of the first one that has any. -/
theorem findSome?_error_eq_some_iff {α : Type} (tasks : List TaskReport)
    (f : TaskReport → String → α) {a : α} :
    (tasks.findSome? fun t => t.errorMessage?.map (f t)) = some a ↔
      ∃ t message, FirstWithError tasks t message ∧ f t message = a := by
  simp only [List.findSome?_eq_some_iff, Option.map_eq_some_iff, Option.map_eq_none_iff]
  constructor
  · rintro ⟨before, t, after, split, ⟨message, error, same⟩, clean⟩
    exact ⟨t, message,
      ⟨⟨before, after, split, clean_iff.mpr clean⟩, TaskReport.errorMessage?_eq_some_iff.mp error⟩,
      same⟩
  · rintro ⟨t, message, ⟨⟨before, after, split, clean⟩, error⟩, same⟩
    exact ⟨before, t, after, split,
      ⟨message, TaskReport.errorMessage?_eq_some_iff.mpr error, same⟩, clean_iff.mp clean⟩

/-- A group has the error of its first member that has any. -/
theorem TrackedGroup.errorMessage?_eq_some_iff {g : TrackedGroup} {message : String} :
    g.errorMessage? = some message ↔ ∃ m, FirstWithError g.members m message := by
  have found := findSome?_error_eq_some_iff g.members (fun _ message => message) (a := message)
  simp only [Option.map_id', exists_eq_right] at found
  exact found

/-- The error that is reported of all that is tracked is the first one. -/
theorem Watchlist.reportedError?_eq_some_iff {v : Watchlist} {href message : String} :
    v.reportedError? = some (href, message) ↔ v.FirstError href message := by
  have ofTasks := findSome?_error_eq_some_iff v.tasks (fun t message => (t.href, message))
    (a := (href, message))
  have noTask : (v.tasks.findSome? fun t => t.errorMessage?.map fun message => (t.href, message))
      = none ↔ Clean v.tasks := by
    rw [List.findSome?_eq_none_iff, clean_iff]
    simp only [Option.map_eq_none_iff]
  have noMember (g : TrackedGroup) : g.errorMessage? = none ↔ Clean g.members :=
    List.findSome?_eq_none_iff.trans clean_iff.symm
  unfold reportedError? members
  rw [List.findSome?_append, List.findSome?_map, List.findSome?_map, Option.or_eq_some_iff]
  constructor
  · rintro (found | ⟨clean, found⟩)
    · obtain ⟨t, message, first, same⟩ := ofTasks.mp found
      obtain ⟨rfl, rfl⟩ := Prod.mk.inj same
      exact .task first
    · obtain ⟨before, g, after, split, error, cleanGroups⟩ := List.findSome?_eq_some_iff.mp found
      obtain ⟨message', inGroup, same⟩ := Option.map_eq_some_iff.mp error
      obtain ⟨rfl, rfl⟩ := Prod.mk.inj same
      obtain ⟨m, first⟩ := TrackedGroup.errorMessage?_eq_some_iff.mp inGroup
      refine .group (noTask.mp clean) split (fun g' hg => ?_) first
      exact (noMember g').mp (Option.map_eq_none_iff.mp (cleanGroups g' hg))
  · intro first
    cases first with
    | @task t message first => exact .inl (ofTasks.mpr ⟨t, message, first, rfl⟩)
    | @group before after g m message clean split cleanGroups first =>
      refine .inr ⟨noTask.mpr clean, ?_⟩
      refine List.findSome?_eq_some_iff.mpr ⟨before, g, after, split, ?_, ?_⟩
      · have inGroup : g.errorMessage? = some message :=
          TrackedGroup.errorMessage?_eq_some_iff.mpr ⟨m, first⟩
        exact Option.map_eq_some_iff.mpr ⟨message, inGroup, rfl⟩
      · exact fun g' hg => Option.map_eq_none_iff.mpr ((noMember g').mpr (cleanGroups g' hg))

/-! ## The wording of a message -/

/-- What a list of rules makes of a message. -/
inductive Rewords (rules : List WordingRule) (message : String) : String → Prop
  /-- The last rule for this very message replaces it. -/
  | replaced {before after : List WordingRule} {rule : WordingRule}
    (split : rules = before ++ rule :: after) (applies : rule.message = message)
    (last : ∀ later ∈ after, later.message ≠ message) : Rewords rules message rule.replacement
  /-- Without a rule for it the message stays. -/
  | kept (unknown : ∀ rule ∈ rules, rule.message ≠ message) : Rewords rules message message

/-- The rule that is looked up for a message is the last one for it. -/
theorem find?_reverse_eq_some_iff {rules : List WordingRule} {message : String}
    {rule : WordingRule} :
    (rules.reverse.find? fun r => r.message == message) = some rule ↔
      rule.message = message ∧ ∃ before after, rules = before ++ rule :: after ∧
        ∀ later ∈ after, later.message ≠ message := by
  -- What is before the rule in the reversed list is behind it in the list.
  simp only [List.find?_eq_some_iff_append, List.reverse_eq_append_iff, List.reverse_cons,
    List.append_assoc, List.singleton_append, beq_iff_eq, Bool.not_eq_true', beq_eq_false_iff_ne]
  refine and_congr_right fun _ => ⟨?_, ?_⟩
  · rintro ⟨after, before, split, others⟩
    exact ⟨before.reverse, after.reverse, split, fun r hr => others r (List.mem_reverse.mp hr)⟩
  · rintro ⟨before, after, split, others⟩
    refine ⟨after.reverse, before.reverse, ?_, fun r hr => others r (List.mem_reverse.mp hr)⟩
    rw [List.reverse_reverse, List.reverse_reverse, split]

/-- A message is shown as the rules have it. -/
theorem Wording.apply_eq_iff {w : Wording} {message shown : String} :
    w.apply message = shown ↔ Rewords w.rules message shown := by
  unfold Wording.apply
  constructor
  · intro same
    split at same
    · next rule found =>
      obtain ⟨applies, before, after, split, last⟩ := find?_reverse_eq_some_iff.mp found
      exact same ▸ .replaced split applies last
    · next missing =>
      have unknown := List.find?_eq_none.mp missing
      refine same ▸ .kept fun rule member applies => ?_
      exact unknown rule (List.mem_reverse.mpr member) (beq_iff_eq.mpr applies)
  · intro rewords
    cases rewords with
    | @replaced before after rule split applies last =>
      rw [find?_reverse_eq_some_iff.mpr ⟨applies, before, after, split, last⟩]
    | kept unknown =>
      have missing : (w.rules.reverse.find? fun r => r.message == message) = none := by
        refine List.find?_eq_none.mpr fun rule member applies => ?_
        exact unknown rule (List.mem_reverse.mp member) (beq_iff_eq.mp applies)
      rw [missing]

/-- A way in which a host adds to the rules of a policy. -/
inductive WordingStep
  /-- With all other settings. -/
  | settings (s : Settings)
  /-- Several rules. -/
  | several (rules : List WordingRule)
  /-- One rule. -/
  | one (rule : WordingRule)

/-- The rules that are added. -/
def WordingStep.added : WordingStep → List WordingRule
  | .settings s => s.wordingRules
  | .several rules => rules
  | .one rule => [rule]

/-- The policy with rules added. -/
def Policy.extend (p : Policy) : WordingStep → Policy
  | .settings s => p.withSettings s
  | .several rules => p.withWording (p.wording.addAll rules)
  | .one rule => p.withWording (p.wording.add rule)

/-- Rules that are added come after all others, in the order of the steps. -/
theorem Policy.foldl_extend_rules (steps : List WordingStep) (p : Policy) :
    (steps.foldl extend p).wording.rules = p.wording.rules ++ steps.flatMap WordingStep.added := by
  induction steps generalizing p with
  | nil => exact (List.append_nil _).symm
  | cons step rest ih =>
    have added : (p.extend step).wording.rules = p.wording.rules ++ step.added := by
      cases step <;> rfl
    rw [List.foldl_cons, ih, added, List.append_assoc, List.flatMap_cons]

end TaskOrchestration
