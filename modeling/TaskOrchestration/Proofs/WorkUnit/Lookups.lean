import TaskOrchestration.WorkUnit.Refresh

/-!
# What lookups and discovery leave behind

A refresh changes nothing but the tasks and groups, and is determined by them
(`refresh_of_tracked`). When a lookup fails, whatever it was about is still tracked and not done, so
the unit is not done either (`isDone_of_refresh_error`). Discovery appends a bare group for each
reference that no tracked group has (`discover_groups`), so that every group that a task names is
tracked.
-/

namespace TaskOrchestration

variable {σ : Type}

/-- The item whose step failed stays in the list. -/
theorem sweep_error {α : Type} {step : α → σ → Except OrchestrationError α × σ} {items : List α}
    {s : σ} {e : OrchestrationError} (h : (sweep step items s).2.1 = some e) :
    ∃ a ∈ (sweep step items s).1, ∃ s', (step a s').1 = .error e := by
  induction items generalizing s with
  | nil => exact absurd h (by simp [sweep])
  | cons a rest ih =>
    unfold sweep at h ⊢
    split at h
    · next e' s' failed =>
      obtain rfl : e' = e := Option.some.inj h
      exact ⟨a, List.mem_cons_self, s, by rw [failed]⟩
    · next a' s' stepped =>
      obtain ⟨b, hb, found⟩ := ih h
      exact ⟨b, List.mem_cons_of_mem _ hb, found⟩

/-- What every step keeps of an item, a sweep keeps of all items. -/
theorem map_sweep {α β : Type} {f : α → β} {step : α → σ → Except OrchestrationError α × σ}
    (keeps : ∀ {a a' : α} {s : σ}, (step a s).1 = .ok a' → f a' = f a) (items : List α) (s : σ) :
    (sweep step items s).1.map f = items.map f := by
  induction items generalizing s with
  | nil => rfl
  | cons a rest ih =>
    unfold sweep
    split
    · rfl
    · next a' s' stepped =>
      have kept : f a' = f a := keeps (by rw [stepped])
      rw [List.map_cons, List.map_cons, kept, ih s']

/-- A sweep neither adds nor drops items. -/
theorem length_sweep {α : Type} (step : α → σ → Except OrchestrationError α × σ) (items : List α)
    (s : σ) : (sweep step items s).1.length = items.length := by
  have same : (sweep step items s).1.map (fun _ => ()) = items.map fun _ => () :=
    map_sweep (fun _ => rfl) items s
  simpa using congrArg List.length same

/-- A sweep succeeds if every step does, where each step keeps the state fit for the next one. -/
theorem sweep_ok {α : Type} {step : α → σ → Except OrchestrationError α × σ} {P Q : α → Prop}
    {Fit : σ → Prop}
    (steps : ∀ a s, P a → Fit s → ∃ a' s', step a s = (.ok a', s') ∧ Q a' ∧ Fit s')
    {items : List α} (before : ∀ a ∈ items, P a) {s : σ} (fit : Fit s) :
    ∃ items' s', sweep step items s = (items', none, s') ∧ (∀ a ∈ items', Q a) ∧ Fit s' := by
  induction items generalizing s with
  | nil => exact ⟨[], s, rfl, fun _ member => absurd member List.not_mem_nil, fit⟩
  | cons a rest ih =>
    obtain ⟨a', s₁, stepped, head, fit₁⟩ := steps a s (before a List.mem_cons_self) fit
    obtain ⟨rest', s₂, swept, tail, fit₂⟩ :=
      ih (fun b member => before b (List.mem_cons_of_mem _ member)) fit₁
    refine ⟨a' :: rest', s₂, ?_, List.forall_mem_cons.mpr ⟨head, tail⟩, fit₂⟩
    unfold sweep
    rw [stepped]
    dsimp only
    rw [swept]

/-- A task whose lookup fails is not done. -/
theorem TaskReport.isDone_of_refresh_error {b : Backend σ} {t : TaskReport} {s : σ}
    {e : OrchestrationError} (h : (t.refresh b s).1 = .error e) : t.isDone = false := by
  cases done : t.isDone with
  | false => rfl
  | true =>
    rw [TaskReport.refresh_of_isDone b done] at h
    cases h

/-- A group whose lookup fails is not done. -/
theorem TrackedGroup.isDone_of_refresh_error {b : Backend σ} {g : TrackedGroup} {s : σ}
    {e : OrchestrationError} (h : (g.refresh b s).1 = .error e) : g.isDone = false := by
  cases done : g.isDone with
  | false => rfl
  | true =>
    unfold TrackedGroup.refresh at h
    rw [if_pos done] at h
    cases h

/-- A group keeps its reference. -/
theorem TrackedGroup.href_of_refresh {b : Backend σ} {g g' : TrackedGroup} {s : σ}
    (h : (g.refresh b s).1 = .ok g') : g'.href = g.href := by
  unfold TrackedGroup.refresh at h
  split at h
  · rw [← Except.ok.inj h]
  · split at h
    · cases h
    · split at h
      · cases h
      · rw [← Except.ok.inj h]
        rfl

namespace WorkUnit

theorem knownTasks_congr {u v : WorkUnit} (tasks : u.tasks = v.tasks) :
    u.knownTasks = v.knownTasks :=
  congrArg (·.getD []) tasks

theorem knownTasks_of_some {u : WorkUnit} {tasks : List TaskReport} (known : u.tasks = some tasks) :
    u.knownTasks = tasks :=
  congrArg (·.getD []) known

/-! ## Done -/

/-- A unit is done once its operation has answered and every task and every group is done. -/
theorem isDone_iff (u : WorkUnit) :
    u.isDone = true ↔ u.isInitiated = true ∧ (∀ t ∈ u.knownTasks, t.isDone = true) ∧
      ∀ g ∈ u.groups, g.isDone = true := by
  have empty : u.watchlist.isEmpty = true ↔ u.knownTasks = [] ∧ u.groups = [] := by
    simp [Watchlist.isEmpty, Watchlist.members, watchlist]
  unfold isDone
  rw [Bool.and_eq_true, Bool.or_eq_true, Watchlist.allDone_iff]
  refine and_congr_right fun _ => ⟨?_, ?_⟩
  · rintro (isEmpty | ⟨-, done⟩)
    · obtain ⟨noTasks, noGroups⟩ := empty.mp isEmpty
      simp [noTasks, noGroups]
    · exact done
  · intro done
    cases isEmpty : u.watchlist.isEmpty with
    | true => exact .inl rfl
    | false => exact .inr ⟨rfl, done⟩

/-- No member reports an error if and only if no task and no group has an error message. -/
theorem reportedError?_eq_none_iff (u : WorkUnit) :
    u.watchlist.reportedError? = none ↔
      (∀ t ∈ u.knownTasks, t.errorMessage? = none) ∧ ∀ g ∈ u.groups, g.errorMessage? = none := by
  simp [Watchlist.reportedError?, Watchlist.members, watchlist, Tracked.errorMessage?,
    List.findSome?_append, List.findSome?_map, Function.comp_def]

/-! ## Refreshing -/

/-- Units that track the same are refreshed alike, and keep everything else. -/
theorem refresh_of_tracked (b : Backend σ) {u v : WorkUnit} (tasks : v.tasks = u.tasks)
    (groups : v.groups = u.groups) (s : σ) :
    v.refresh b s =
      ({ v with tasks := (u.refresh b s).1.tasks, groups := (u.refresh b s).1.groups },
        (u.refresh b s).2) := by
  unfold refresh knownTasks
  rw [tasks, groups]
  dsimp only
  split <;> rfl

/-- A refresh changes nothing but what is tracked. -/
theorem refresh_frame (b : Backend σ) (u : WorkUnit) (s : σ) :
    (u.refresh b s).1 =
      { u with tasks := (u.refresh b s).1.tasks, groups := (u.refresh b s).1.groups } :=
  congrArg Prod.fst (refresh_of_tracked b rfl rfl s)

/-- A task whose lookup fails ends the refresh. -/
theorem refresh_of_task_error {b : Backend σ} {u : WorkUnit} {s s' : σ} {tasks : List TaskReport}
    {e : OrchestrationError}
    (h : sweep (TaskReport.refresh b) u.knownTasks s = (tasks, some e, s')) :
    u.refresh b s = ({ u with tasks := u.tasks.map fun _ => tasks }, some e, s') := by
  unfold refresh
  rw [h]

/-- After the tasks the groups are refreshed. -/
theorem refresh_of_tasks_ok {b : Backend σ} {u : WorkUnit} {s s' : σ} {tasks : List TaskReport}
    (h : sweep (TaskReport.refresh b) u.knownTasks s = (tasks, none, s')) :
    u.refresh b s =
      ({ u with
          tasks := u.tasks.map fun _ => tasks
          groups := (sweep (TrackedGroup.refresh b) u.groups s').1 },
        (sweep (TrackedGroup.refresh b) u.groups s').2) := by
  unfold refresh
  rw [h]

theorem refresh_isInitiated (b : Backend σ) (u : WorkUnit) (s : σ) :
    (u.refresh b s).1.isInitiated = u.isInitiated := by
  unfold refresh isInitiated
  dsimp only
  split <;> exact Option.isSome_map

/-- The references of the tracked groups. -/
def groupHrefs (u : WorkUnit) : List String := u.groups.map TrackedGroup.href

theorem isDone_congr {u v : WorkUnit} (tasks : u.tasks = v.tasks) (groups : u.groups = v.groups) :
    u.isDone = v.isDone := by
  unfold isDone isInitiated watchlist knownTasks
  rw [tasks, groups]

theorem groupHrefs_congr {u v : WorkUnit} (groups : u.groups = v.groups) :
    u.groupHrefs = v.groupHrefs :=
  congrArg (·.map TrackedGroup.href) groups

/-- The tracked groups keep their references and their order. -/
theorem refresh_groupHrefs (b : Backend σ) (u : WorkUnit) (s : σ) :
    (u.refresh b s).1.groupHrefs = u.groupHrefs := by
  rcases swept : sweep (TaskReport.refresh b) u.knownTasks s with ⟨tasks, _ | e, s'⟩
  · rw [refresh_of_tasks_ok swept]
    exact map_sweep TrackedGroup.href_of_refresh u.groups s'
  · rw [refresh_of_task_error swept]
    rfl

/-- A unit with a lookup that failed is not done. -/
theorem isDone_of_refresh_error {b : Backend σ} {u : WorkUnit} {s : σ} {e : OrchestrationError}
    (h : (u.refresh b s).2.1 = some e) : (u.refresh b s).1.isDone = false := by
  rw [← Bool.not_eq_true, isDone_iff]
  rintro ⟨initiated, tasksDone, groupsDone⟩
  rcases swept : sweep (TaskReport.refresh b) u.knownTasks s with ⟨tasks, _ | e', s'⟩
  · rw [refresh_of_tasks_ok swept] at h groupsDone
    obtain ⟨g, hg, s'', failed⟩ := sweep_error h
    exact absurd (groupsDone g hg) (by rw [TrackedGroup.isDone_of_refresh_error failed]; decide)
  · have ended : (sweep (TaskReport.refresh b) u.knownTasks s).2.1 = some e' := by rw [swept]
    obtain ⟨t, ht, s'', failed⟩ := sweep_error ended
    have tracked : t ∈ (u.refresh b s).1.knownTasks := by
      rw [refresh_isInitiated, isInitiated, Option.isSome_iff_exists] at initiated
      obtain ⟨known, hknown⟩ := initiated
      rw [refresh_of_task_error swept, knownTasks, hknown]
      rw [swept] at ht
      exact ht
    exact absurd (tasksDone t tracked) (by rw [TaskReport.isDone_of_refresh_error failed]; decide)

/-! ## Discovery -/

/-- The references of the groups that the tasks reveal, in the order of the tasks. -/
def revealed (u : WorkUnit) : List String := u.knownTasks.filterMap TaskReport.taskGroupHref

/-- The references among those revealed that are not known yet, each where it is revealed first. -/
def unknownAmong (known revealed : List String) : List String :=
  (revealed.filter fun href => href ∉ known).eraseDups

theorem mem_unknownAmong {known revealed : List String} {href : String} :
    href ∈ unknownAmong known revealed ↔ href ∈ revealed ∧ href ∉ known := by
  simp [unknownAmong]

/-- A reference that is known already is passed over. -/
theorem unknownAmong_cons_of_mem {known rest : List String} {href : String} (old : href ∈ known) :
    unknownAmong known (href :: rest) = unknownAmong known rest := by
  unfold unknownAmong
  rw [List.filter_cons_of_neg (by simpa using old)]

/-- A reference that is not known yet is known from then on. -/
theorem unknownAmong_cons_of_notMem {known rest : List String} {href : String}
    (fresh : href ∉ known) :
    unknownAmong known (href :: rest) = href :: unknownAmong (known ++ [href]) rest := by
  have later : (rest.filter fun h => h ∉ known).filter (fun h => !h == href) =
      rest.filter fun h => h ∉ known ++ [href] := by
    rw [List.filter_filter]
    refine List.filter_congr fun h _ => ?_
    by_cases same : h = href <;> simp [same]
  unfold unknownAmong
  rw [List.filter_cons_of_pos (by simpa using fresh), List.eraseDups_cons, later]

theorem nodup_unknownAmong (known revealed : List String) :
    (unknownAmong known revealed).Nodup := by
  induction revealed generalizing known with
  | nil => exact List.nodup_nil
  | cons href rest ih =>
    by_cases old : href ∈ known
    · rw [unknownAmong_cons_of_mem old]
      exact ih known
    · rw [unknownAmong_cons_of_notMem old, List.nodup_cons]
      refine ⟨fun again => (mem_unknownAmong.mp again).2 ?_, ih _⟩
      exact List.mem_append_right _ List.mem_cons_self

/-- A bare group is appended for each reference that is not known yet. -/
theorem foldl_addGroup (hrefs : List String) (groups : List TrackedGroup) :
    hrefs.foldl addGroup groups =
      groups ++ (unknownAmong (groups.map TrackedGroup.href) hrefs).map .ofHref := by
  induction hrefs generalizing groups with
  | nil => exact (List.append_nil groups).symm
  | cons href rest ih =>
    have tracked : (groups.any fun g => g.href == href) = true ↔
        href ∈ groups.map TrackedGroup.href := by simp
    rw [List.foldl_cons, ih]
    unfold addGroup
    by_cases known : href ∈ groups.map TrackedGroup.href
    · rw [if_pos (tracked.mpr known), unknownAmong_cons_of_mem known]
    · rw [if_neg (fun h => known (tracked.mp h)), unknownAmong_cons_of_notMem known]
      simp [TrackedGroup.ofHref]

/-- Discovery appends bare groups, and nothing else. -/
theorem discover_groups (u : WorkUnit) :
    u.discover.groups = u.groups ++ (unknownAmong u.groupHrefs u.revealed).map .ofHref :=
  foldl_addGroup u.revealed u.groups

theorem discover_groupHrefs (u : WorkUnit) :
    u.discover.groupHrefs = u.groupHrefs ++ unknownAmong u.groupHrefs u.revealed := by
  unfold groupHrefs
  rw [discover_groups]
  simp [TrackedGroup.ofHref, groupHrefs, Function.comp_def]

/-- Discovery tracks no group a second time. -/
theorem nodup_discover_groupHrefs {u : WorkUnit} (h : u.groupHrefs.Nodup) :
    u.discover.groupHrefs.Nodup := by
  rw [discover_groupHrefs, List.nodup_append]
  refine ⟨h, nodup_unknownAmong _ _, fun href old href' added same => ?_⟩
  exact (mem_unknownAmong.mp added).2 (same ▸ old)

/-- After discovery every reference that the tasks reveal is that of a tracked group. -/
theorem mem_discover_groupHrefs {u : WorkUnit} {href : String} (isRevealed : href ∈ u.revealed) :
    href ∈ u.discover.groupHrefs := by
  rw [discover_groupHrefs, List.mem_append, mem_unknownAmong]
  exact (Classical.em (href ∈ u.groupHrefs)).imp_right fun fresh => ⟨isRevealed, fresh⟩

/-- After discovery every group that a task names is tracked. -/
theorem exists_group_of_discover (u : WorkUnit) {t : TaskReport} (ht : t ∈ u.knownTasks)
    {href : String} (named : t.taskGroupHref = some href) :
    ∃ g ∈ u.discover.groups, g.href = href :=
  List.mem_map.mp (mem_discover_groupHrefs (List.mem_filterMap.mpr ⟨t, ht, named⟩))

end WorkUnit

end TaskOrchestration
