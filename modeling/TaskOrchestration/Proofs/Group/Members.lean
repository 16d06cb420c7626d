import TaskOrchestration.Group.Tracking

/-!
# What is known of the members of a group

When a group is done (`isDone_iff`), when it has an error message, and what the look-up of a member
by its reference finds.
-/

namespace TaskOrchestration

/-- A merge keeps the reference exactly if the report has none or the same one. -/
theorem TaskReport.merge_href_iff {known fresh : TaskReport} :
    (known.merge fresh).href = known.href ↔ fresh.href = "" ∨ fresh.href = known.href := by
  have blank : fresh.href.isEmpty = true ↔ fresh.href = "" := String.isEmpty_iff
  unfold merge
  dsimp only
  split
  · next empty => exact ⟨fun _ => .inl (blank.mp empty), fun _ => rfl⟩
  · next present => exact ⟨.inr, fun h => h.resolve_left fun empty => present (blank.mpr empty)⟩

/-- A group of which nothing is outstanding. -/
structure TrackedGroup.Complete (g : TrackedGroup) : Prop where
  /-- The group was looked up. -/
  resolved : g.resolved = true
  /-- It has a member. -/
  hasMember : ∃ m, m ∈ g.members
  /-- No task is still to be dispatched. -/
  dispatched : g.allTasksDispatched ≠ some false
  /-- Every member is done. -/
  membersDone : ∀ m ∈ g.members, m.isDone = true
  /-- Every task that the group names is among its members. -/
  named : ∀ href ∈ g.memberHrefs, ∃ m ∈ g.members, m.href = href

namespace TrackedGroup

variable {σ : Type}

/-- A group is done exactly when nothing of it is outstanding. -/
theorem isDone_iff (g : TrackedGroup) : g.isDone = true ↔ g.Complete := by
  have nonempty : (!g.members.isEmpty) = true ↔ ∃ m, m ∈ g.members := by
    rw [Bool.not_eq_true', List.isEmpty_eq_false_iff_exists_mem]
  have dispatched : (g.allTasksDispatched != some false) = true ↔
      g.allTasksDispatched ≠ some false := bne_iff_ne
  have membersDone : g.members.all TaskReport.isDone = true ↔ ∀ m ∈ g.members, m.isDone = true :=
    List.all_eq_true
  have named : (g.memberHrefs.all fun href => (g.member? href).isSome) = true ↔
      ∀ href ∈ g.memberHrefs, ∃ m ∈ g.members, m.href = href := by
    simp [member?]
  unfold isDone
  simp only [Bool.and_eq_true]
  rw [nonempty, dispatched, membersDone, named]
  refine ⟨?_, fun h => ⟨⟨⟨⟨h.resolved, h.hasMember⟩, h.dispatched⟩, h.membersDone⟩, h.named⟩⟩
  rintro ⟨⟨⟨⟨resolved, hasMember⟩, dispatched⟩, membersDone⟩, named⟩
  exact ⟨resolved, hasMember, dispatched, membersDone, named⟩

/-- A group has an error message exactly when one of its members has. -/
theorem errorMessage?_eq_none_iff (g : TrackedGroup) :
    g.errorMessage? = none ↔ ∀ m ∈ g.members, m.errorMessage? = none :=
  List.findSome?_eq_none_iff

/-- A group that is done is not looked up. -/
theorem refresh_of_isDone (b : Backend σ) {g : TrackedGroup} (h : g.isDone = true) (s : σ) :
    g.refresh b s = (.ok g, s) := if_pos h

theorem member?_mem {g : TrackedGroup} {href : String} {m : TaskReport}
    (found : g.member? href = some m) : m ∈ g.members ∧ m.href = href := by
  unfold member? at found
  exact ⟨List.mem_of_find?_eq_some found, by simpa using List.find?_some found⟩

theorem member?_eq_none_iff {g : TrackedGroup} {href : String} :
    g.member? href = none ↔ ∀ m ∈ g.members, m.href ≠ href := by
  simp [member?]

/-- A reported member keeps its reference. -/
theorem absorbMember_href (g : TrackedGroup) (m : TaskReport) :
    (g.absorbMember m).href = m.href := by
  unfold absorbMember
  split
  · next known found =>
    have same := (member?_mem found).2
    unfold TaskReport.absorb
    split
    · exact same
    · exact (TaskReport.merge_href_iff.mpr (.inr same.symm)).trans same
  · rfl

end TrackedGroup

end TaskOrchestration
