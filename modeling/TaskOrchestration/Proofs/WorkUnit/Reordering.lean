import TaskOrchestration.Proofs.WorkUnit.Contacts
import TaskOrchestration.Proofs.WorkUnit.Counting
import TaskOrchestration.Proofs.WorkUnit.Withheld

/-!
# The order of what is tracked does not matter

While the answers of the backend depend on nothing but what is asked, each task and each group is
refreshed by itself: a refresh goes through the lists and replaces every entry by the answer to it
(`refresh_followed`). Neither what is discovered after that nor how the call ends depends on the
order, but for the order of the groups that are new and for the choice among several errors.
`run_of_reordered` says so of two units that track the same in different orders.
-/

namespace TaskOrchestration

variable {σ : Type}

/-! ## Answers that depend on nothing but what is asked -/

/-- What there is to say of every task and group. -/
structure Registry where
  task : String → TaskReport
  group : String → GroupReport
  members : String → List TaskReport

namespace Backend

/-- The state after calls. -/
def after (b : Backend σ) : List Call → σ → σ
  | [], s => s
  | .task href :: rest, s => b.after rest (b.task href s).2
  | .group href :: rest, s => b.after rest (b.group href s).2
  | .members href :: rest, s => b.after rest (b.members href s).2
  | .cancel href :: rest, s => b.after rest (b.cancel href s).2

/-- None of the lookups among the calls fails, and each is answered as it is in the registry. -/
def Follows (b : Backend σ) (d : Registry) : List Call → σ → Prop
  | [], _ => True
  | .task href :: rest, s =>
    (b.task href s).1 = .ok (d.task href) ∧ b.Follows d rest (b.task href s).2
  | .group href :: rest, s =>
    (b.group href s).1 = .ok (d.group href) ∧ b.Follows d rest (b.group href s).2
  | .members href :: rest, s =>
    (b.members href s).1 = .ok (d.members href) ∧ b.Follows d rest (b.members href s).2
  | .cancel href :: rest, s => b.Follows d rest (b.cancel href s).2

theorem after_append (b : Backend σ) (calls later : List Call) (s : σ) :
    b.after (calls ++ later) s = b.after later (b.after calls s) := by
  induction calls generalizing s with
  | nil => rfl
  | cons call rest ih => cases call <;> exact ih _

theorem follows_append {b : Backend σ} {d : Registry} {calls later : List Call} {s : σ} :
    b.Follows d (calls ++ later) s ↔
      b.Follows d calls s ∧ b.Follows d later (b.after calls s) := by
  induction calls generalizing s with
  | nil => exact (iff_of_eq (true_and _)).symm
  | cons call rest ih =>
    cases call with
    | task | group | members => exact (and_congr_right fun _ => ih).trans and_assoc.symm
    | cancel => exact ih

end Backend

/-- Between the two journals some calls were made, and `P` holds if the answers to them follow the
registry. -/
def Remote.Heeds (r : Remote σ) (d : Registry) (j j' : Journal σ) (P : Prop) : Prop :=
  ∃ calls : List Call,
    j' = { state := r.backend.after calls j.state, contacts := j.contacts ++ calls.map .call } ∧
      (r.backend.Follows d calls j.state → P)

namespace Remote.Heeds

variable {r : Remote σ} {d : Registry} {j j' j'' : Journal σ} {P Q : Prop}

/-- What holds without a call depends on none. -/
theorem silent (holds : P) : r.Heeds d j j P :=
  ⟨[], by simp [Backend.after], fun _ => holds⟩

theorem imp (h : r.Heeds d j j' P) (weaker : P → Q) : r.Heeds d j j' Q :=
  have ⟨calls, made, follows⟩ := h
  ⟨calls, made, fun followed => weaker (follows followed)⟩

theorem task (r : Remote σ) (d : Registry) (href : String) (j : Journal σ) :
    r.Heeds d j (r.journaled.backend.task href j).2
      ((r.journaled.backend.task href j).1 = .ok (d.task href)) :=
  ⟨[.task href], rfl, And.left⟩

theorem group (r : Remote σ) (d : Registry) (href : String) (j : Journal σ) :
    r.Heeds d j (r.journaled.backend.group href j).2
      ((r.journaled.backend.group href j).1 = .ok (d.group href)) :=
  ⟨[.group href], rfl, And.left⟩

theorem members (r : Remote σ) (d : Registry) (href : String) (j : Journal σ) :
    r.Heeds d j (r.journaled.backend.members href j).2
      ((r.journaled.backend.members href j).1 = .ok (d.members href)) :=
  ⟨[.members href], rfl, And.left⟩

/-- Calls may be made one after the other. -/
theorem and (h : r.Heeds d j j' P) (h' : r.Heeds d j' j'' Q) : r.Heeds d j j'' (P ∧ Q) := by
  obtain ⟨calls, rfl, follows⟩ := h
  obtain ⟨later, rfl, follows'⟩ := h'
  refine ⟨calls ++ later, ?_, fun followed => ?_⟩
  · rw [Backend.after_append, List.map_append, List.append_assoc]
  · have ⟨before, since⟩ := Backend.follows_append.mp followed
    exact ⟨follows before, follows' since⟩

end Remote.Heeds

/-! ## Lookups -/

/-- What is known of the task after it was looked up. -/
def TaskReport.refreshed (d : Registry) (t : TaskReport) : TaskReport := t.absorb (d.task t.href)

/-- What is known of the group after it was looked up, unless it was done. -/
def TrackedGroup.refreshed (d : Registry) (g : TrackedGroup) : TrackedGroup :=
  if g.isDone then g else g.absorb (d.group g.href) (d.members g.href)

/-- The unit after everything that it tracks was looked up. -/
def WorkUnit.refreshed (d : Registry) (u : WorkUnit) : WorkUnit :=
  { u with
    tasks := u.tasks.map fun tasks => tasks.map (TaskReport.refreshed d)
    groups := u.groups.map (TrackedGroup.refreshed d) }

section Lookups

variable (r : Remote σ) (d : Registry)

theorem TaskReport.refresh_heeds (t : TaskReport) (j : Journal σ) :
    r.Heeds d j (t.refresh r.journaled.backend j).2
      ((t.refresh r.journaled.backend j).1 = .ok (t.refreshed d)) := by
  unfold refresh
  split
  · next done => exact .silent (by rw [refreshed, t.absorb_of_isDone done])
  · have asked := Remote.Heeds.task r d t.href j
    generalize r.journaled.backend.task t.href j = answer at asked ⊢
    obtain ⟨e | fresh, j'⟩ := answer
    · exact asked.imp nofun
    · exact asked.imp fun answered => by rw [Except.ok.inj answered]; rfl

theorem TrackedGroup.refresh_heeds (g : TrackedGroup) (j : Journal σ) :
    r.Heeds d j (g.refresh r.journaled.backend j).2
      ((g.refresh r.journaled.backend j).1 = .ok (g.refreshed d)) := by
  unfold refresh refreshed
  split
  · exact .silent rfl
  · have asked := Remote.Heeds.group r d g.href j
    generalize r.journaled.backend.group g.href j = answer at asked ⊢
    obtain ⟨e | report, j'⟩ := answer
    · exact asked.imp nofun
    · have askedMembers := Remote.Heeds.members r d g.href j'
      dsimp only
      generalize r.journaled.backend.members g.href j' = answer at askedMembers ⊢
      obtain ⟨e | members, j''⟩ := answer
      · exact (asked.and askedMembers).imp fun h => nomatch h.2
      · refine (asked.and askedMembers).imp fun ⟨answered, named⟩ => ?_
        rw [Except.ok.inj answered, Except.ok.inj named]

/-- A sweep whose answers follow the registry replaces every item. -/
theorem sweep_heeds {α : Type} {step : α → Journal σ → Except OrchestrationError α × Journal σ}
    {f : α → α} (steps : ∀ a j, r.Heeds d j (step a j).2 ((step a j).1 = .ok (f a)))
    (items : List α) (j : Journal σ) :
    r.Heeds d j (sweep step items j).2.2
      ((sweep step items j).1 = items.map f ∧ (sweep step items j).2.1 = none) := by
  induction items generalizing j with
  | nil => exact .silent ⟨rfl, rfl⟩
  | cons a rest ih =>
    have first := steps a j
    unfold sweep
    generalize step a j = stepped at first ⊢
    obtain ⟨e | a', j'⟩ := stepped
    · exact first.imp fun succeeded => by cases succeeded
    · refine (first.and (ih j')).imp fun swept => ⟨?_, swept.2.2⟩
      rw [List.map_cons, ← swept.2.1, ← Except.ok.inj swept.1]

/-- A refresh whose answers follow the registry replaces everything that is tracked. -/
theorem WorkUnit.refresh_heeds (u : WorkUnit) (j : Journal σ) :
    r.Heeds d j (u.refresh r.journaled.backend j).2.2
      ((u.refresh r.journaled.backend j).1 = u.refreshed d ∧
        (u.refresh r.journaled.backend j).2.1 = none) := by
  have tasks := sweep_heeds r d (TaskReport.refresh_heeds r d) u.knownTasks j
  rcases swept : sweep (TaskReport.refresh r.journaled.backend) u.knownTasks j with
    ⟨found, _ | e, j'⟩ <;> rw [swept] at tasks
  · have groups := sweep_heeds r d (TrackedGroup.refresh_heeds r d) u.groups j'
    rw [refresh_of_tasks_ok swept]
    refine (tasks.and groups).imp fun ⟨⟨all, _⟩, others, succeeded⟩ => ⟨?_, succeeded⟩
    dsimp only at all
    rw [others, all, refreshed]
    unfold knownTasks
    cases u.tasks <;> rfl
  · rw [refresh_of_task_error swept]
    exact tasks.imp fun h => nomatch h.2

end Lookups

/-! ## Runs -/

/-- Calls of the host that answer the same way: that all is done, that there is as long to wait, or
that a task or group reports an error, not necessarily the same one. -/
inductive AnswersAlike :
    Except OrchestrationError Outcome → Except OrchestrationError Outcome → Prop
  | done : AnswersAlike (.ok .done) (.ok .done)
  | suspend (delayMs : UInt64) : AnswersAlike (.ok (.suspend delayMs)) (.ok (.suspend delayMs))
  | reported {href message href' message' : String} :
      AnswersAlike (.error (.remoteOperation href message))
        (.error (.remoteOperation href' message'))

namespace WorkUnit

/-- The order of what is known and revealed matters only for the order of what is unknown. -/
theorem unknownAmong_perm {known known' revealed revealed' : List String}
    (sameKnown : known.Perm known') (sameRevealed : revealed.Perm revealed') :
    (unknownAmong known revealed).Perm (unknownAmong known' revealed') := by
  refine (List.perm_ext_iff_of_nodup (nodup_unknownAmong _ _) (nodup_unknownAmong _ _)).mpr
    fun href => ?_
  rw [mem_unknownAmong, mem_unknownAmong, sameKnown.mem_iff, sameRevealed.mem_iff]

/-- The units track the same tasks and groups, but for their order. -/
structure SameTracked (u v : WorkUnit) : Prop where
  initiated : u.isInitiated = v.isInitiated
  tasks : u.knownTasks.Perm v.knownTasks
  groups : u.groups.Perm v.groups

namespace SameTracked

variable {u v : WorkUnit}

theorem congr {u' v' : WorkUnit} (h : SameTracked u v) (tasks : u'.tasks = u.tasks)
    (groups : u'.groups = u.groups) (tasks' : v'.tasks = v.tasks) (groups' : v'.groups = v.groups) :
    SameTracked u' v' := by
  constructor
  · unfold isInitiated
    rw [tasks, tasks']
    exact h.initiated
  · rw [knownTasks_congr tasks, knownTasks_congr tasks']
    exact h.tasks
  · rw [groups, groups']
    exact h.groups

theorem refreshed (h : SameTracked u v) (d : Registry) :
    SameTracked (u.refreshed d) (v.refreshed d) := by
  have known (w : WorkUnit) :
      (w.refreshed d).knownTasks = w.knownTasks.map (TaskReport.refreshed d) := by
    unfold WorkUnit.refreshed knownTasks
    cases w.tasks <;> rfl
  constructor
  · exact Option.isSome_map.trans (h.initiated.trans Option.isSome_map.symm)
  · rw [known, known]
    exact h.tasks.map _
  · exact h.groups.map _

/-- The same groups are discovered. -/
theorem unknown (h : SameTracked u v) :
    (unknownAmong u.groupHrefs u.revealed).Perm (unknownAmong v.groupHrefs v.revealed) :=
  unknownAmong_perm (h.groups.map _) (h.tasks.filterMap _)

theorem discover (h : SameTracked u v) : SameTracked u.discover v.discover where
  initiated := h.initiated
  tasks := h.tasks
  groups := by
    rw [discover_groups, discover_groups]
    exact h.groups.append (h.unknown.map _)

theorem isDone (h : SameTracked u v) : u.isDone = v.isDone := by
  rw [Bool.eq_iff_iff, isDone_iff, isDone_iff, h.initiated]
  simp only [h.tasks.mem_iff, h.groups.mem_iff]

theorem clean_iff (h : SameTracked u v) :
    u.watchlist.reportedError? = none ↔ v.watchlist.reportedError? = none := by
  rw [reportedError?_eq_none_iff, reportedError?_eq_none_iff]
  simp only [h.tasks.mem_iff, h.groups.mem_iff]

end SameTracked

/-- Calls without interruption that leave the same tracked answer the same way. -/
theorem Ending.alike {w w' v v' : WorkUnit} {answer answer' : Except OrchestrationError Outcome}
    (ends : Ending w none answer v) (ends' : Ending w' none answer' v') (same : SameTracked v v')
    (policy : v.policy = v'.policy) (polls : v.polls = v'.polls) : AnswersAlike answer answer' := by
  have isDone : w.isDone = w'.isDone := by
    cases ends <;> cases ends' <;> exact same.isDone
  have clean : w.watchlist.reportedError? = none ↔ w'.watchlist.reportedError? = none := by
    cases ends <;> cases ends' <;> exact same.clean_iff
  -- So both calls end in the same of the three ways.
  cases ends with
  | reported found =>
    cases ends' with
    | reported => exact .reported
    | done clean' | waiting clean' => rw [clean.mpr clean'] at found; cases found
  | done clean₁ isDone₁ =>
    cases ends' with
    | reported found => rw [clean.mp clean₁] at found; cases found
    | done => exact .done
    | waiting _ notDone => rw [← isDone, isDone₁] at notDone; cases notDone
  | waiting clean₁ notDone =>
    cases ends' with
    | reported found => rw [clean.mp clean₁] at found; cases found
    | done _ isDone' => rw [isDone, isDone'] at notDone; cases notDone
    | waiting =>
      have policy : w.policy = w'.policy := policy
      have polls : w.polls = w'.polls := polls
      rw [policy, polls]
      exact .suspend _

/-- A run whose lookups follow the registry replaces everything that is tracked, discovers what
that reveals, and is not interrupted. -/
theorem run_of_followed (r : Remote σ) (d : Registry) {u : WorkUnit} {s : σ}
    (initiated : u.isInitiated = true) (awaiting : u.state.awaitsBackend = true)
    (followed : r.backend.Follows d (u.attend r (.run .execute) s).1.calls s) :
    (u.serve r (.run .execute) s).1.Keeps (u.refreshed d).discover ∧
      (u.serve r (.run .execute) s).1.Counts u.policy (u.polls.afterPoll none) ∧
      ∃ w, Ending w none (u.serve r (.run .execute) s).1.result
        (u.serve r (.run .execute) s).1.unit := by
  have isOpen := isFinal_of_awaiting awaiting
  have asks : u.Asks (.run .execute) := asks_of_run isOpen
  obtain ⟨calls, made, heeded⟩ := refresh_heeds r d u { state := s }
  have contacts : (u.attend r (.run .execute) s).1.contacts = calls.map .call := by
    have left := (serve_gathers r.journaled asks { state := s }).2
    rw [gathered_of_initiated r.journaled initiated] at left
    exact congrArg Journal.contacts (left.trans made)
  obtain ⟨found, succeeded⟩ := heeded (Turn.calls_of_contacts contacts ▸ followed)
  have looked : u.lookups r (.run .execute) s =
      (u.refreshed d, none, (u.refresh r.backend s).2.2) := by
    show u.refresh r.backend s = _
    rw [← refresh_journaled r u { state := s }, found, succeeded]
  obtain ⟨answered, gathered⟩ := gathered_of_found initiated looked
  obtain ⟨w, -, ends, -⟩ := serve_of_awaiting r initiated awaiting asks.notSkipped s
  have kept := (serve_gathers r asks s).1
  have counted := serve_counts r (.run .execute) u s
  have polled : u.pollEnd? r (.run .execute) s = some none := by
    unfold pollEnd?
    rw [initiated, isOpen, looked]
    rfl
  rw [gathered] at kept
  rw [answered] at ends
  rw [polled] at counted
  exact ⟨kept, counted, w, ends⟩

/-- The units differ in nothing but the order in which they track their tasks and groups. -/
structure Reordered (u v : WorkUnit) : Prop extends SameTracked u v where
  rest : v = { u with tasks := v.tasks, groups := v.groups }

/-- Two runs on units that are initiated and have not ended, and differ only in the order of their
tasks and groups, with lookups that never fail and answer both runs with the same of each reference:
they refresh the tasks and the groups that were tracked before to the same values, each in its own
order, discover the same groups, and answer the same way. -/
theorem run_of_reordered (r : Remote σ) (d : Registry) {u v : WorkUnit} (h : Arises u)
    (isOpen : u.state.isFinal = false) (initiated : u.isInitiated = true)
    (reordered : Reordered u v) {s s' : σ}
    (followed : r.backend.Follows d (u.attend r (.run .execute) s).1.calls s)
    (followed' : r.backend.Follows d (v.attend r (.run .execute) s').1.calls s') :
    let p := (u.serve r (.run .execute) s).1
    let p' := (v.serve r (.run .execute) s').1
    (p.unit.tasks = u.tasks.map (List.map (TaskReport.refreshed d)) ∧
      p'.unit.tasks = v.tasks.map (List.map (TaskReport.refreshed d))) ∧
    (∃ added added', p.unit.groups = u.groups.map (TrackedGroup.refreshed d) ++ added ∧
      p'.unit.groups = v.groups.map (TrackedGroup.refreshed d) ++ added' ∧ added.Perm added') ∧
    (∀ href, href ∈ p.unit.groupHrefs ↔ href ∈ p'.unit.groupHrefs) ∧
    AnswersAlike p.result p'.result := by
  intro p p'
  have policy : v.policy = u.policy := by rw [reordered.rest]
  have polls : v.polls = u.polls := by rw [reordered.rest]
  have state : v.state = u.state := by rw [reordered.rest]; rfl
  have awaiting := awaitsBackend_of_started isOpen (h.started initiated)
  obtain ⟨kept, counted, w, ends⟩ := run_of_followed r d initiated awaiting followed
  obtain ⟨kept', counted', w', ends'⟩ := run_of_followed r d
    (reordered.initiated ▸ initiated) (by rw [state, awaiting]) followed'
  have same := reordered.toSameTracked.refreshed d
  have left : SameTracked p.unit p'.unit :=
    same.discover.congr kept.tasks kept.groups kept'.tasks kept'.groups
  refine ⟨⟨kept.tasks, kept'.tasks⟩,
    ⟨_, _, kept.groups.trans (discover_groups _), kept'.groups.trans (discover_groups _),
      same.unknown.map _⟩, fun href => (left.groups.map _).mem_iff, ?_⟩
  exact ends.alike ends' left (by rw [counted.policy, counted'.policy, policy])
    (by rw [counted.polls, counted'.polls, polls])

end WorkUnit

/-- The remote whose operation starts nothing, and whose backend answers as the registry has it. -/
def Remote.reading (d : Registry) : Remote Unit where
  backend := {
    task := fun href s => (.ok (d.task href), s)
    group := fun href s => (.ok (d.group href), s)
    members := fun href s => (.ok (d.members href), s)
    cancel := fun _ s => (.ok (), s) }
  operation := {
    name := "import"
    invoke := fun s => (.ok (.many []), s) }

theorem Remote.reading_follows (d : Registry) (calls : List Call) :
    (Remote.reading d).backend.Follows d calls () := by
  induction calls with
  | nil => trivial
  | cons call rest ih =>
    cases call with
    | task | group | members => exact ⟨rfl, ih⟩
    | cancel => exact ih

namespace WorkUnit

/-- Each of two tasks reveals a group while one group is tracked already. The groups are discovered
in the order of the tasks; either way there is something left to wait for. -/
theorem run_of_reordered_revealing :
    let d : Registry := {
      task := fun href => { href, taskGroupHref := some (href ++ "group/") }
      group := fun href => { href }
      members := fun _ => [{ href := "/tasks/3/", done := some true }] }
    let r := Remote.reading d
    let first : TaskReport := { href := "/tasks/1/" }
    let second : TaskReport := { href := "/tasks/2/" }
    let record : OutputRecord := {
      tasks := some [first, second], taskGroups := some [.ofHref "/groups/1/"]
      state := .suspended }
    let u := ofRecord {} record
    let v : WorkUnit := { u with tasks := some [second, first] }
    let p := (u.serve r (.run .execute) ()).1
    let p' := (v.serve r (.run .execute) ()).1
    Arises u ∧ u.state.isFinal = false ∧ u.isInitiated = true ∧ Reordered u v ∧
      r.backend.Follows d (u.attend r (.run .execute) ()).1.calls () ∧
      r.backend.Follows d (v.attend r (.run .execute) ()).1.calls () ∧
      p.unit.groupHrefs = ["/groups/1/", "/tasks/1/group/", "/tasks/2/group/"] ∧
      p'.unit.groupHrefs = ["/groups/1/", "/tasks/2/group/", "/tasks/1/group/"] ∧
      (∀ href, href ∈ p.unit.groupHrefs ↔ href ∈ p'.unit.groupHrefs) ∧
      AnswersAlike p.result p'.result := by
  intro d r first second record u v p p'
  have arises : Arises u := .ofRecord {} record
  have reordered : Reordered u v := {
    initiated := rfl
    tasks := .swap second first []
    groups := .refl _
    rest := rfl }
  have follows (calls : List Call) : r.backend.Follows d calls () := Remote.reading_follows d calls
  obtain ⟨-, -, hrefs, alike⟩ :=
    run_of_reordered r d arises rfl rfl reordered (follows _) (follows _)
  exact ⟨arises, rfl, rfl, reordered, follows _, follows _, by decide +kernel, by decide +kernel,
    hrefs, alike⟩

end WorkUnit

end TaskOrchestration
