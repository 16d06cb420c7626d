import TaskOrchestration.Proofs.Backend.Replaying
import TaskOrchestration.Proofs.Group.Refreshing

/-!
# The two lookups of a group agree

The lookup of a group takes its state from a script, and the lookup of its members must not ask that
script again. It goes by the state that was served last (`served`), which nothing replaces but the
next lookup of the group that succeeds (`after_served`). If in addition the scripts of tasks hold
states under their own references (`WellNamed`, kept by `WellNamed.after`), the two answers match
entry by entry, and so do the members that a refresh makes of them (`lookups_agree`).
-/

namespace TaskOrchestration

namespace ScriptedBackend

/-- Every state that is scripted for a task carries the reference of the task. -/
def WellNamed (s : ScriptedBackend) : Prop :=
  ∀ href script, s.taskScripts.get? href = some script → ∀ t ∈ script, t.href = href

/-- An action scripts no state for a task under another reference. -/
def Action.WellNamed : Action → Prop
  | .setTask href states => ∀ t ∈ states, t.href = href
  | _ => True

/-- None of these actions, one after the other, is a lookup of the group that succeeds. -/
def Unrenewed (group : String) : List Action → ScriptedBackend → Prop
  | [], _ => True
  | a :: rest, s =>
    (a = .call (.group group) → ∃ e, (s.group group).1 = .error e) ∧
      Unrenewed group rest (s.after a)

variable {s s' : ScriptedBackend} {href group other : String}

/-! ## States under their own references -/

theorem takeNext_subset {α : Type} {script left : List α} {a : α}
    (taken : takeNext script = some (a, left)) : a ∈ script ∧ left ⊆ script := by
  rcases script with _ | ⟨b, _ | ⟨c, rest⟩⟩
  · cases taken
  · obtain ⟨rfl, rfl⟩ : b = a ∧ [b] = left := by simpa [takeNext] using taken
    exact ⟨List.mem_cons_self, List.Subset.refl _⟩
  · obtain ⟨rfl, rfl⟩ : b = a ∧ c :: rest = left := by simpa [takeNext] using taken
    exact ⟨List.mem_cons_self, List.subset_cons_self ..⟩

theorem WellNamed.congr (h : s.WellNamed) (same : s'.taskScripts = s.taskScripts) :
    s'.WellNamed := by
  unfold WellNamed
  rw [same]
  exact h

theorem WellNamed.setTask (h : s.WellNamed) {states : List TaskReport}
    (own : ∀ t ∈ states, t.href = href) : (s.setTask href states).WellNamed := by
  intro other script found
  rw [get?_setTask] at found
  split at found
  · next same =>
    obtain rfl := Option.some.inj found
    rwa [same]
  · exact h other script found

/-- A task is served under its own reference. -/
theorem WellNamed.serveTask (h : s.WellNamed) (href : String) :
    (s.serveTask href).2.WellNamed ∧ ∀ t, (s.serveTask href).1 = .ok t → t.href = href := by
  unfold ScriptedBackend.serveTask
  split
  · exact ⟨h, fun _ served => by cases served⟩
  · next script found =>
    split
    · exact ⟨h, fun _ served => by cases served⟩
    · next state left taken =>
      obtain ⟨first, others⟩ := takeNext_subset taken
      have own := h href script found
      refine ⟨h.setTask fun t member => own t (others member), ?_⟩
      rintro t served
      obtain rfl := Except.ok.inj served
      exact own _ first

/-- Tasks that are served in turn come in that order, each under its own reference. -/
theorem WellNamed.serveTasks (h : s.WellNamed) (hrefs : List String) :
    (s.serveTasks hrefs).2.WellNamed ∧
      ∀ states, (s.serveTasks hrefs).1 = .ok states → states.map TaskReport.href = hrefs := by
  induction hrefs generalizing s with
  | nil =>
    refine ⟨h, ?_⟩
    rintro states served
    obtain rfl := Except.ok.inj served
    rfl
  | cons first rest ih =>
    obtain ⟨named, own⟩ := h.serveTask first
    rcases served : s.serveTask first with ⟨e | state, s'⟩
    · rw [served] at named
      rw [ScriptedBackend.serveTasks, served]
      exact ⟨named, fun _ answered => by cases answered⟩
    · rw [served] at named own
      obtain ⟨named, later⟩ := ih named
      rw [serveTasks_cons served]
      refine ⟨named, fun all answered => ?_⟩
      rcases served : (s'.serveTasks rest).1 with e | states
      · rw [served] at answered
        cases answered
      · rw [served] at answered
        obtain rfl : state :: states = all := Except.ok.inj answered
        rw [List.map_cons, own state rfl, later states served]

theorem WellNamed.settleCancelled (h : s.WellNamed) (href : String) :
    (s.settleCancelled href).WellNamed := by
  unfold ScriptedBackend.settleCancelled
  split
  · exact h
  · next script found =>
    dsimp only
    split
    · exact h
    · refine h.setTask fun t member => ?_
      obtain rfl := List.mem_singleton.mp member
      cases script with
      | nil => rfl
      | cons current rest => exact h href _ found current List.mem_cons_self

/-- Whatever is done with the backend, its scripts hold states under their own references, as long
as no others are set. -/
theorem WellNamed.after (h : s.WellNamed) {a : Action} (named : a.WellNamed) :
    (s.after a).WellNamed := by
  cases a with
  | call c =>
    cases c with
    | task href =>
      show (s.task href).2.WellNamed
      cases down : s.isDown href with
      | true =>
        obtain ⟨s', failed, same⟩ := task_of_down down
        rw [failed]
        exact h.congr same
      | false =>
        rw [task_of_up down]
        exact (h.serveTask href).1
    | group href => exact h.congr (group_taskScripts s href)
    | members group =>
      show (s.members group).2.WellNamed
      unfold members
      split
      · exact (h.serveTasks _).1
      · exact h
    | cancel href =>
      show (s.cancel href).2.WellNamed
      unfold cancel
      split
      · exact h
      · dsimp only
        split
        · exact h.settleCancelled href
        · exact h
  | setTask => exact h.setTask named
  | setGroup | breakLookups | refuseCancel => exact h

theorem WellNamed.afterAll (h : s.WellNamed) {actions : List Action}
    (named : ∀ a ∈ actions, a.WellNamed) : (s.afterAll actions).WellNamed := by
  induction actions generalizing s with
  | nil => exact h
  | cons a rest ih =>
    obtain ⟨first, others⟩ := List.forall_mem_cons.mp named
    exact ih (h.after first) others

/-! ## The state that was served last -/

theorem serveTask_served (s : ScriptedBackend) (href : String) :
    (s.serveTask href).2.served = s.served := by
  unfold serveTask
  split
  · rfl
  · split <;> rfl

theorem serveTasks_served (hrefs : List String) (s : ScriptedBackend) :
    (s.serveTasks hrefs).2.served = s.served := by
  induction hrefs generalizing s with
  | nil => rfl
  | cons href rest ih =>
    have first := serveTask_served s href
    rcases served : s.serveTask href with ⟨e | state, s'⟩
    · rw [served] at first
      rwa [serveTasks, served]
    · rw [served] at first
      rw [serveTasks_cons served]
      exact (ih s').trans first

theorem checkOutage_served (s : ScriptedBackend) (operation href : String) :
    (s.checkOutage operation href).2.served = s.served := by
  unfold checkOutage
  split
  · split <;> rfl
  · rfl

theorem task_served (s : ScriptedBackend) (href : String) :
    (s.task href).2.served = s.served := by
  have checked := checkOutage_served s "get_task" href
  unfold task
  rcases answer : s.checkOutage "get_task" href with ⟨e | _, s'⟩
  · rwa [answer] at checked
  · rw [answer] at checked
    exact (serveTask_served s' href).trans checked

/-- A lookup of a group that succeeds is remembered under its reference, and any other leaves all as
it is. -/
theorem group_served (s : ScriptedBackend) (href : String) :
    (∃ e, (s.group href).1 = .error e) ∧ (s.group href).2.served = s.served ∨
      ∃ state, (s.group href).1 = .ok state ∧
        (s.group href).2.served = s.served.insert href state := by
  have checked := checkOutage_served s "get_task_group" href
  unfold group
  rcases answer : s.checkOutage "get_task_group" href with ⟨e | _, s'⟩
  · rw [answer] at checked
    exact .inl ⟨⟨e, rfl⟩, checked⟩
  · rw [answer] at checked
    dsimp only at checked ⊢
    rw [← checked]
    unfold serveGroup
    split
    · exact .inl ⟨⟨_, rfl⟩, rfl⟩
    · split
      · exact .inl ⟨⟨_, rfl⟩, rfl⟩
      · exact .inr ⟨_, rfl, rfl⟩

theorem members_served (s : ScriptedBackend) (group : String) :
    (s.members group).2.served = s.served := by
  unfold members
  split
  · exact serveTasks_served _ s
  · rfl

theorem cancel_served (s : ScriptedBackend) (href : String) :
    (s.cancel href).2.served = s.served := by
  unfold cancel settleCancelled
  dsimp only
  repeat' split
  all_goals rfl

/-- Only a lookup of the group that succeeds changes which of its states was served last. -/
theorem after_served {a : Action}
    (unrenewed : a = .call (.group group) → ∃ e, (s.group group).1 = .error e) :
    (s.after a).served.get? group = s.served.get? group := by
  cases a with
  | call c =>
    cases c with
    | task href => exact congrArg (·.get? group) (task_served s href)
    | group href =>
      rcases group_served s href with ⟨-, same⟩ | ⟨state, answered, served⟩
      · exact congrArg (·.get? group) same
      · have another : group ≠ href := by
          rintro rfl
          obtain ⟨e, failed⟩ := unrenewed rfl
          cases answered.symm.trans failed
        show (s.group href).2.served.get? group = _
        rw [served, Dictionary.get?_insert, if_neg another]
    | members other => exact congrArg (·.get? group) (members_served s other)
    | cancel href => exact congrArg (·.get? group) (cancel_served s href)
  | setTask | setGroup | breakLookups | refuseCancel => rfl

/-- Until the group is looked up again, its members are those of the state that was served last. -/
theorem WellNamed.members_of_served (h : s.WellNamed) {state : GroupReport}
    (served : s.served.get? group = some state) {states : List TaskReport}
    (answered : (s.members group).1 = .ok states) :
    states.map TaskReport.href = state.memberHrefs := by
  unfold members lastServed? at answered
  rw [served] at answered
  exact (h.serveTasks state.memberHrefs).2 states answered

theorem members_of_unrenewed (named : s.WellNamed) {state : GroupReport}
    (served : s.served.get? group = some state) {actions : List Action}
    (own : ∀ a ∈ actions, a.WellNamed) (unrenewed : Unrenewed group actions s)
    {states : List TaskReport} (answered : ((s.afterAll actions).members group).1 = .ok states) :
    states.map TaskReport.href = state.memberHrefs := by
  induction actions generalizing s with
  | nil => exact named.members_of_served served answered
  | cons a rest ih =>
    obtain ⟨first, others⟩ := List.forall_mem_cons.mp own
    exact ih (named.after first) ((after_served unrenewed.1).trans served) others unrenewed.2
      answered

end ScriptedBackend

namespace TrackedGroup

/-- A refresh that succeeds and finds a group not done has taken in both answers. -/
theorem exists_answers_of_refresh {σ : Type} {b : Backend σ} {g g' : TrackedGroup}
    {s : σ} (pending : g.isDone = false) (refreshed : (g.refresh b s).1 = .ok g') :
    ∃ report s' members s'', b.group g.href s = (.ok report, s') ∧
      b.members g.href s' = (.ok members, s'') ∧ g' = g.absorb report members := by
  unfold refresh at refreshed
  rw [if_neg (by rw [pending]; decide)] at refreshed
  split at refreshed
  · cases refreshed
  · next report s' answered =>
    split at refreshed
    · cases refreshed
    · next members s'' listed =>
      exact ⟨report, s', members, s'', answered, listed, (Except.ok.inj refreshed).symm⟩

/-- A group whose members are reported one for each that it names has exactly these, and is done by
them. -/
theorem absorb_of_listed (g : TrackedGroup) {report : GroupReport} {members : List TaskReport}
    (listed : members.map TaskReport.href = report.memberHrefs) :
    (g.absorb report members).members.map TaskReport.href = report.memberHrefs ∧
      ((g.absorb report members).isDone = true ↔
        report.memberHrefs ≠ [] ∧ report.allTasksDispatched ≠ some false ∧
          ∀ m ∈ (g.absorb report members).members, m.isDone = true) := by
  have updated := g.absorb_updated report members
  have nonempty : members ≠ [] ↔ report.memberHrefs ≠ [] := by
    rw [← listed]
    exact not_congr List.map_eq_nil_iff.symm
  have named : ∀ href ∈ report.memberHrefs, ∃ m ∈ members, m.href = href := by
    rw [← listed]
    exact fun href among => List.mem_map.mp among
  refine ⟨updated.hrefs.trans listed, ?_⟩
  rw [updated.isDone_iff, nonempty]
  exact and_congr_right fun _ => and_congr_right fun _ => and_iff_left named

end TrackedGroup

namespace ScriptedBackend

/-- With scripts that hold states under their own references: once a group was looked up, and until
it is looked up again, its members are answered one for each reference that the group named, in that
order and under those references, whatever else is done with the backend, new scripts included. So a
group that is not done has these members after every refresh that succeeds, and is done then exactly
if there are any, all tasks were dispatched, and all members are done. -/
theorem lookups_agree {s : ScriptedBackend} (named : s.WellNamed) :
    (∀ group state, (s.group group).1 = .ok state →
      ∀ actions : List Action, (∀ a ∈ actions, a.WellNamed) →
        Unrenewed group actions (s.group group).2 →
        ∀ states, (((s.group group).2.afterAll actions).members group).1 = .ok states →
          states.map TaskReport.href = state.memberHrefs) ∧
    ∀ g g' : TrackedGroup, g.isDone = false → (g.refresh backend s).1 = .ok g' →
      g'.members.map TaskReport.href = g'.memberHrefs ∧
      (g'.isDone = true ↔
        g'.memberHrefs ≠ [] ∧ g'.allTasksDispatched ≠ some false ∧
          ∀ m ∈ g'.members, m.isDone = true) := by
  have remembered {group : String} {state : GroupReport}
      (answered : (s.group group).1 = .ok state) :
      (s.group group).2.served.get? group = some state := by
    rcases group_served s group with ⟨⟨e, failed⟩, -⟩ | ⟨state', answered', served⟩
    · cases answered.symm.trans failed
    · obtain rfl := Except.ok.inj (answered.symm.trans answered')
      rw [served, Dictionary.get?_insert, if_pos rfl]
  have named' (group : String) : (s.group group).2.WellNamed :=
    named.congr (group_taskScripts s group)
  refine ⟨fun group state answered actions own unrenewed states listed => ?_,
    fun g g' pending refreshed => ?_⟩
  · exact members_of_unrenewed (named' group) (remembered answered) own unrenewed listed
  · obtain ⟨report, s', members, s'', answered, listed, rfl⟩ :=
      TrackedGroup.exists_answers_of_refresh pending refreshed
    obtain ⟨found, rfl⟩ := Prod.mk.inj answered
    have hrefs : members.map TaskReport.href = report.memberHrefs :=
      (named' g.href).members_of_served (remembered found) (congrArg Prod.fst listed)
    exact g.absorb_of_listed hrefs

/-- Requests to cancel are honoured, and a group of two tasks is to lose the first of them. -/
def shrinkingBackend : ScriptedBackend :=
  afterAll { honorsCancel := true } [
    .setTask "m1" [{ href := "m1", state := some "running" }],
    .setTask "m2" [{ href := "m2", state := some "running" }],
    .setGroup "g1" [{ href := "g1", memberHrefs := ["m1", "m2"] },
      { href := "g1", memberHrefs := ["m2"] }]]

/-- Between the two lookups one member is cancelled, the other gets another script, and so does the
group, whose next lookup fails. Its members are still two. -/
theorem lookups_agree_after_rewriting :
    let s := shrinkingBackend
    let actions : List Action := [.call (.cancel "m1"),
      .setTask "m2" [{ href := "m2", state := some "completed" }], .setGroup "g1" [],
      .call (.group "g1")]
    let state : GroupReport := { href := "g1", memberHrefs := ["m1", "m2"] }
    s.WellNamed ∧ (s.group "g1").1 = .ok state ∧ (∀ a ∈ actions, a.WellNamed) ∧
      Unrenewed "g1" actions (s.group "g1").2 ∧
      ∃ states, (((s.group "g1").2.afterAll actions).members "g1").1 = .ok states ∧
        states.map TaskReport.href = state.memberHrefs := by
  intro s actions state
  have empty : ({ honorsCancel := true } : ScriptedBackend).WellNamed := nofun
  have named : s.WellNamed := empty.afterAll (by simp [Action.WellNamed])
  have found : (s.group "g1").1 = .ok state := rfl
  have own : ∀ a ∈ actions, a.WellNamed := by simp [actions, Action.WellNamed]
  have unrenewed : Unrenewed "g1" actions (s.group "g1").2 :=
    ⟨nofun, nofun, nofun, fun _ => ⟨_, rfl⟩, trivial⟩
  have answered : (((s.group "g1").2.afterAll actions).members "g1").1 = .ok _ := rfl
  exact ⟨named, found, own, unrenewed, _, answered,
    (lookups_agree named).1 "g1" state found actions own unrenewed _ answered⟩

end ScriptedBackend

end TaskOrchestration
