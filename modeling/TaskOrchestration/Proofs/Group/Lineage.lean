import TaskOrchestration.Proofs.Group.Members

/-!
# How long a finished member stays as it is

A refresh makes the members anew from what is reported, and takes over what was known of the first
old member of each reference. So the state and the error of a member that is done last as long as it
is the first of its reference and no report leaves it out. A report without it makes the group
forget it, and one that lists it twice can put a task that is not done in front of it; either way
the next report of it counts. `Secures` is the condition on a group. It lasts from one refresh to
the next (`Secures.lasts`), and `finished_member_stays` says that nothing less keeps a state and an
error.
-/

namespace TaskOrchestration

/-- Two reports of a task agree on how it ended: on its state and its error. -/
def TaskReport.SameEnd (t t' : TaskReport) : Prop := t.state = t'.state ∧ t.error = t'.error

/-- The backend that has these reports of members for every group. -/
def Backend.listing (members : List TaskReport) : Backend Unit where
  task href s := (.error (.transport "get_task" href "404 task not found"), s)
  group href s := (.ok { href }, s)
  members _ s := (.ok members, s)
  cancel _ s := (.ok (), s)

namespace TrackedGroup

/-- Groups, each of which a successful refresh has made of the one before it. Every refresh may meet
another backend, so nothing is supposed of the answers. -/
inductive Lineage : TrackedGroup → List TrackedGroup → Prop
  | start (g : TrackedGroup) : Lineage g []
  | refresh {σ : Type} {g g' : TrackedGroup} {later : List TrackedGroup} (b : Backend σ) (s : σ)
      (refreshed : (g.refresh b s).1 = .ok g') : Lineage g' later → Lineage g (g' :: later)

/-- The state and the error of the task are safe from the next report: the whole group is done and
all that it has under that reference ended so, or the first member of that reference is done and
ended so. -/
def Secures (g : TrackedGroup) (m : TaskReport) : Prop :=
  if g.isDone then ∀ x ∈ g.members, x.href = m.href → x.SameEnd m
  else ∃ known, g.member? m.href = some known ∧ known.isDone = true ∧ known.SameEnd m

variable {σ : Type} {g g' : TrackedGroup} {m : TaskReport}

theorem secures_of_done_iff (done : g.isDone = true) :
    g.Secures m ↔ ∀ x ∈ g.members, x.href = m.href → x.SameEnd m := by
  unfold Secures
  rw [if_pos done]

theorem secures_of_pending_iff (pending : g.isDone = false) :
    g.Secures m ↔ ∃ known, g.member? m.href = some known ∧ known.isDone = true ∧
      known.SameEnd m := by
  unfold Secures
  rw [if_neg (by rw [pending]; decide)]

/-! ## One refresh -/

/-- A refresh that succeeds has found the group done, or has taken in two answers. -/
theorem refresh_ok_cases {b : Backend σ} {s : σ} (refreshed : (g.refresh b s).1 = .ok g') :
    (g.isDone = true ∧ g' = g) ∨
      (g.isDone = false ∧ ∃ report members, g' = g.absorb report members) := by
  unfold refresh at refreshed
  split at refreshed
  · next done => exact .inl ⟨done, (Except.ok.inj refreshed).symm⟩
  · next pending =>
    refine .inr ⟨Bool.eq_false_iff.mpr pending, ?_⟩
    split at refreshed
    · cases refreshed
    · next report s' answered =>
      split at refreshed
      · cases refreshed
      · next members s'' listed => exact ⟨report, members, (Except.ok.inj refreshed).symm⟩

/-- A member after a refresh is what a report of the same reference was absorbed to. -/
theorem exists_report_of_mem_absorb {report : GroupReport} {members : List TaskReport}
    {x : TaskReport} (member : x ∈ (g.absorb report members).members) :
    ∃ r ∈ members, r.href = x.href ∧ x = g.absorbMember r := by
  obtain ⟨r, reported, rfl⟩ := List.mem_map.mp member
  exact ⟨r, reported, (g.absorbMember_href r).symm, rfl⟩

/-- A report of a member that is known to be done changes nothing. -/
theorem absorbMember_of_isDone {known r : TaskReport} (found : g.member? r.href = some known)
    (done : known.isDone = true) : g.absorbMember r = known := by
  unfold absorbMember
  rw [found]
  exact TaskReport.absorb_of_isDone done r

/-- What a group secures is so of all members of that reference after the next refresh. -/
theorem Secures.next (h : g.Secures m) {b : Backend σ} {s : σ}
    (refreshed : (g.refresh b s).1 = .ok g') :
    ∀ x ∈ g'.members, x.href = m.href → x.SameEnd m := by
  rcases refresh_ok_cases refreshed with ⟨done, rfl⟩ | ⟨pending, report, members, rfl⟩
  · exact (secures_of_done_iff done).mp h
  · obtain ⟨known, found, done, same⟩ := (secures_of_pending_iff pending).mp h
    intro x member href
    obtain ⟨r, -, reference, rfl⟩ := exists_report_of_mem_absorb member
    rw [← reference.trans href] at found
    rw [absorbMember_of_isDone found done]
    exact same

/-- The first member of a reference, once it is done, stands for that reference after a refresh too,
unless the report leaves the reference out. -/
theorem eq_of_member?_absorb {known x : TaskReport} (found : g.member? m.href = some known)
    (done : known.isDone = true) {report : GroupReport} {members : List TaskReport}
    (listed : (g.absorb report members).member? m.href = some x) : x = known := by
  obtain ⟨member, href⟩ := member?_mem listed
  obtain ⟨r, -, reference, rfl⟩ := exists_report_of_mem_absorb member
  rw [← reference.trans href] at found
  exact absorbMember_of_isDone found done

/-- What a group secures it secures after the next refresh too, if it still has that member. -/
theorem Secures.lasts (h : g.Secures m) {b : Backend σ} {s : σ}
    (refreshed : (g.refresh b s).1 = .ok g') (listed : (g'.member? m.href).isSome = true) :
    g'.Secures m := by
  have next := h.next refreshed
  obtain ⟨x, found⟩ := Option.isSome_iff_exists.mp listed
  obtain ⟨member, href⟩ := member?_mem found
  rcases refresh_ok_cases refreshed with ⟨done, rfl⟩ | ⟨pending, report, members, rfl⟩
  · exact h
  · cases done' : (g.absorb report members).isDone with
    | true => exact (secures_of_done_iff done').mpr next
    | false =>
      obtain ⟨known, first, done, -⟩ := (secures_of_pending_iff pending).mp h
      obtain rfl := eq_of_member?_absorb first done found
      exact (secures_of_pending_iff done').mpr ⟨x, found, done, next x member href⟩

/-! ## What is not secured -/

/-- A group after a report that names none of its tasks, and these reports of its members. -/
def listed (g : TrackedGroup) (members : List TaskReport) : TrackedGroup :=
  g.absorb { href := g.href } members

/-- The backend with these reports makes a lineage. -/
theorem Lineage.listed (members : List TaskReport) (pending : g.isDone = false)
    {later : List TrackedGroup} (rest : (g.listed members).Lineage later) :
    g.Lineage (g.listed members :: later) := by
  refine .refresh (Backend.listing members) () ?_ rest
  unfold TrackedGroup.refresh
  rw [if_neg (by rw [pending]; decide)]
  rfl

/-- What is not secured can change with the next report: a report of that reference with another
state is taken over. -/
theorem secures_of_next (kept : ∀ g', g.Lineage [g'] →
    ∀ x ∈ g'.members, x.href = m.href → x.SameEnd m) : g.Secures m := by
  cases done : g.isDone with
  | true =>
    refine (secures_of_done_iff done).mpr (kept g (.refresh (Backend.listing []) () ?_ (.start g)))
    rw [refresh_of_isDone _ done]
  | false =>
    -- a report of the same reference whose state differs from that of the task
    obtain ⟨state, other⟩ : ∃ state : Option String, state ≠ m.state := by
      cases h : m.state with
      | none => exact ⟨some "", by simp⟩
      | some _ => exact ⟨none, by simp⟩
    let r : TaskReport := { href := m.href, state }
    have lineage : g.Lineage [g.listed [r]] := .listed [r] done (.start _)
    have same : (g.absorbMember r).SameEnd m :=
      kept _ lineage _ (List.mem_singleton.mpr rfl) (g.absorbMember_href r)
    refine (secures_of_pending_iff done).mpr ?_
    unfold absorbMember at same
    split at same
    · next known found =>
      unfold TaskReport.absorb at same
      split at same
      · next ended => exact ⟨known, found, ended, same⟩
      · exact absurd same.1 other
    · exact absurd same.1 other

/-! ## Any number of refreshes -/

/-- What a group secures is so of all members of that reference after any number of refreshes, as
long as none of those before the last has left the reference out. -/
theorem Secures.along (h : g.Secures m) {between : List TrackedGroup}
    (lineage : g.Lineage (between ++ [g']))
    (listed : ∀ x ∈ between, (x.member? m.href).isSome = true) :
    ∀ x ∈ g'.members, x.href = m.href → x.SameEnd m := by
  induction between generalizing g with
  | nil =>
    cases lineage with
    | refresh b s refreshed _ => exact h.next refreshed
  | cons y between ih =>
    cases lineage with
    | refresh b s refreshed rest =>
      exact ih (h.lasts refreshed (listed y List.mem_cons_self)) rest
        fun x among => listed x (List.mem_cons_of_mem _ among)

/-- For every group and every task, whatever is answered: the members of that reference have the
state and the error of the task after any number of refreshes that have not left the reference out
before the last one, exactly if the group secures them. -/
theorem finished_member_stays (g : TrackedGroup) (m : TaskReport) :
    g.Secures m ↔ ∀ between g', g.Lineage (between ++ [g']) →
      (∀ x ∈ between, (x.member? m.href).isSome = true) →
      ∀ x ∈ g'.members, x.href = m.href → x.SameEnd m := by
  constructor
  · intro secured between g' lineage listed
    exact secured.along lineage listed
  · intro kept
    exact secures_of_next fun g' lineage => kept [] g' lineage (by simp)

/-- A task as reported while it runs, and when it has failed or is completed. -/
def runningTask : TaskReport := { href := "/tasks/1/", state := some "running" }

@[inherit_doc runningTask]
def failedTask : TaskReport :=
  { href := "/tasks/1/", state := some TaskState.failed, error := some (.message "disk full") }

@[inherit_doc runningTask]
def completedTask : TaskReport := { href := "/tasks/1/", state := some "completed" }

/-- Another task of the same group. -/
def otherTask : TaskReport := { href := "/tasks/2/", state := some "running" }

/-- A task that has failed stays so when it is reported as running, and then as completed. -/
theorem failed_member_stays :
    let g₁ := (ofHref "/groups/1/").listed [failedTask, otherTask]
    let g₂ := g₁.listed [otherTask, runningTask]
    let g₃ := g₂.listed [otherTask, completedTask]
    g₁.Secures failedTask ∧ g₁.Lineage [g₂, g₃] ∧ ∀ x ∈ g₃.members, x.href = failedTask.href →
      x.SameEnd failedTask := by
  intro g₁ g₂ g₃
  have secured : g₁.Secures failedTask := by
    refine (secures_of_pending_iff (by decide +kernel)).mpr ?_
    exact ⟨failedTask, by decide +kernel, by decide +kernel, rfl, rfl⟩
  have lineage : g₁.Lineage [g₂, g₃] :=
    .listed _ (by decide +kernel) (.listed _ (by decide +kernel) (.start _))
  refine ⟨secured, lineage, ?_⟩
  exact (finished_member_stays g₁ failedTask).mp secured [g₂] g₃ lineage (by decide +kernel)

/-- A task that has failed is completed later, after a report that left it out; and so it is when it
was listed twice, as running before it was listed as failed. -/
theorem failed_member_completes :
    let g₁ := (ofHref "/groups/1/").listed [failedTask, otherTask]
    let g₂ := g₁.listed [otherTask]
    let g₃ := g₂.listed [completedTask, otherTask]
    let h₁ := (ofHref "/groups/1/").listed [runningTask, failedTask]
    let h₂ := h₁.listed [completedTask]
    (ofHref "/groups/1/").Lineage [g₁, g₂, g₃] ∧ (ofHref "/groups/1/").Lineage [h₁, h₂] ∧
      failedTask.isDone = true ∧ failedTask ∈ g₁.members ∧ failedTask ∈ h₁.members ∧
      completedTask.href = failedTask.href ∧ completedTask ∈ g₃.members ∧
      completedTask ∈ h₂.members ∧ ¬ completedTask.SameEnd failedTask := by
  intro g₁ g₂ g₃ h₁ h₂
  have first : (ofHref "/groups/1/").Lineage [g₁, g₂, g₃] :=
    .listed _ (by decide +kernel) (.listed _ (by decide +kernel)
      (.listed _ (by decide +kernel) (.start _)))
  have second : (ofHref "/groups/1/").Lineage [h₁, h₂] :=
    .listed _ (by decide +kernel) (.listed _ (by decide +kernel) (.start _))
  exact ⟨first, second, by decide +kernel, by decide +kernel, by decide +kernel, rfl,
    by decide +kernel, by decide +kernel, fun same => absurd same.1 (by decide +kernel)⟩

end TrackedGroup

end TaskOrchestration
