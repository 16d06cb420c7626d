import TaskOrchestration.Proofs.Group.Members
import TaskOrchestration.WorkUnit.Refresh

/-!
# What a refresh makes of a group

A refresh of a group that is not done makes two calls and takes in both answers or neither.
`Takes` says what becomes of one member that is reported, `Updated` what the two answers together
make of the group, and `Refreshed` lists the four ways in which a refresh can end.
`refresh_takes_all_or_nothing` says that every refresh ends in one of them.
-/

namespace TaskOrchestration

variable {σ : Type}

/-- A merge with a report of the same reference takes over all but what the report leaves out. -/
theorem TaskReport.merge_of_href {known fresh : TaskReport}
    (same : known.href = fresh.href) :
    known.merge fresh = { fresh with
      name := fresh.name <|> known.name
      description := fresh.description <|> known.description
      taskGroupHref := fresh.taskGroupHref <|> known.taskGroupHref } := by
  unfold merge
  rw [same, ite_self]

namespace TrackedGroup

/-- What a member that is reported becomes, by what the group knows of the first member of that
reference. -/
inductive Takes (g : TrackedGroup) (report : TaskReport) : TaskReport → Prop
  /-- What is done stays as it is. -/
  | kept {known : TaskReport} (found : g.member? report.href = some known)
      (done : known.isDone = true) : Takes g report known
  /-- What is not done is replaced, but for the labels and the group that the report leaves out. -/
  | replaced {known : TaskReport} (found : g.member? report.href = some known)
      (pending : known.isDone = false) :
      Takes g report { report with
        name := report.name <|> known.name
        description := report.description <|> known.description
        taskGroupHref := report.taskGroupHref <|> known.taskGroupHref }
  /-- What was not known is taken as it is reported. -/
  | added (unknown : ∀ m ∈ g.members, m.href ≠ report.href) : Takes g report report

/-- The group `g'` is what a report of the group and reports of its members make of `g`. -/
structure Updated (g : TrackedGroup) (report : GroupReport) (members : List TaskReport)
    (g' : TrackedGroup) : Prop where
  href : g'.href = g.href
  resolved : g'.resolved = true
  memberHrefs : g'.memberHrefs = report.memberHrefs
  dispatched : g'.allTasksDispatched = report.allTasksDispatched
  /-- A name that the report leaves out stays. -/
  name : g'.name = if report.name.isSome then report.name else g.name
  /-- There is one member for each that is reported, in that order. -/
  hrefs : g'.members.map TaskReport.href = members.map TaskReport.href
  takes : ∀ (i : Nat) r m, members[i]? = some r → g'.members[i]? = some m → g.Takes r m
  /-- The group is done by its members alone. -/
  isDone_iff : g'.isDone = true ↔
    members ≠ [] ∧ report.allTasksDispatched ≠ some false ∧
      (∀ m ∈ g'.members, m.isDone = true) ∧
      ∀ href ∈ report.memberHrefs, ∃ r ∈ members, r.href = href

/-- How a refresh of a group ends: the calls that were made, what is known of the group then, the
error that comes back, and the backend after the calls. -/
inductive Refreshed (b : Backend σ) (g : TrackedGroup) (s : σ) :
    List Call → TrackedGroup → Option OrchestrationError → σ → Prop
  /-- The group was done, and nothing was asked. -/
  | idle (done : g.isDone = true) : Refreshed b g s [] g none s
  /-- The group could not be looked up, and its members were not asked for. -/
  | unanswered {e : OrchestrationError} {s' : σ} (pending : g.isDone = false)
      (failed : b.group g.href s = (.error e, s')) :
      Refreshed b g s [.group g.href] g (some e) s'
  /-- The members could not be looked up, and the report of the group is dropped. -/
  | halfAnswered {report : GroupReport} {e : OrchestrationError} {s' s'' : σ}
      (pending : g.isDone = false) (answered : b.group g.href s = (.ok report, s'))
      (failed : b.members g.href s' = (.error e, s'')) :
      Refreshed b g s [.group g.href, .members g.href] g (some e) s''
  /-- Both answers were taken in. -/
  | answered {report : GroupReport} {members : List TaskReport} {g' : TrackedGroup} {s' s'' : σ}
      (pending : g.isDone = false) (answered : b.group g.href s = (.ok report, s'))
      (listed : b.members g.href s' = (.ok members, s'')) (updated : g.Updated report members g') :
      Refreshed b g s [.group g.href, .members g.href] g' none s''

/-! ## Members -/

theorem absorbMember_takes (g : TrackedGroup) (report : TaskReport) :
    g.Takes report (g.absorbMember report) := by
  unfold absorbMember
  cases found : g.member? report.href with
  | none => exact .added (member?_eq_none_iff.mp found)
  | some known =>
    dsimp only
    cases done : known.isDone with
    | true =>
      rw [TaskReport.absorb_of_isDone done]
      exact .kept found done
    | false =>
      unfold TaskReport.absorb
      rw [if_neg (by rw [done]; decide), TaskReport.merge_of_href (member?_mem found).2]
      exact .replaced found done

/-! ## Groups -/

/-- The references of the members are those of the reports. -/
theorem absorb_hrefs (g : TrackedGroup) (report : GroupReport) (members : List TaskReport) :
    (g.absorb report members).members.map TaskReport.href = members.map TaskReport.href := by
  show (members.map g.absorbMember).map TaskReport.href = _
  rw [List.map_map]
  exact List.map_congr_left fun r _ => g.absorbMember_href r

theorem absorb_updated (g : TrackedGroup) (report : GroupReport) (members : List TaskReport) :
    g.Updated report members (g.absorb report members) where
  href := rfl
  resolved := rfl
  memberHrefs := rfl
  dispatched := rfl
  name := by
    show (report.name <|> g.name) = _
    cases report.name <;> rfl
  hrefs := g.absorb_hrefs report members
  takes i r m reported taken := by
    have absorbed : (members.map g.absorbMember)[i]? = some (g.absorbMember r) := by
      rw [List.getElem?_map, reported]
      rfl
    obtain rfl : g.absorbMember r = m := Option.some.inj (absorbed.symm.trans taken)
    exact g.absorbMember_takes r
  isDone_iff := by
    have named (href : String) : (∃ m ∈ (g.absorb report members).members, m.href = href) ↔
        ∃ r ∈ members, r.href = href := by
      rw [← List.mem_map, ← List.mem_map, g.absorb_hrefs report members]
    have nonempty : (∃ m, m ∈ (g.absorb report members).members) ↔ members ≠ [] := by
      rw [← List.isEmpty_eq_false_iff_exists_mem, List.isEmpty_eq_false_iff]
      exact not_congr List.map_eq_nil_iff
    rw [isDone_iff, ← nonempty]
    constructor
    · intro h
      exact ⟨h.hasMember, h.dispatched, h.membersDone, fun href among => (named href).mp
        (h.named href among)⟩
    · rintro ⟨hasMember, dispatched, membersDone, among⟩
      exact ⟨rfl, hasMember, dispatched, membersDone, fun href h => (named href).mpr (among href h)⟩

/-- For every group and every backend, refreshing the group in its place ends in one of the four
ways: a group that is done is left alone without a call; if one of the two calls fails, the error
comes back, no further call is made, and the group is as it was in every field; and if both are
answered, the group takes in what they say, member by member. -/
theorem refresh_takes_all_or_nothing (b : Backend σ) (g : TrackedGroup) (s : σ)
    (calls : List Call) :
    ∃ made g' failure s', Refreshed b g s made g' failure s' ∧
      sweep (refresh b.recorded) [g] { state := s, calls } =
        ([g'], failure, { state := s', calls := calls ++ made }) := by
  have asked (href : String) (s : σ) (calls : List Call) :
      b.recorded.group href { state := s, calls } = ((b.group href s).1,
        { state := (b.group href s).2, calls := calls ++ [.group href] }) := rfl
  have askedMembers (href : String) (s : σ) (calls : List Call) :
      b.recorded.members href { state := s, calls } = ((b.members href s).1,
        { state := (b.members href s).2, calls := calls ++ [.members href] }) := rfl
  cases done : g.isDone with
  | true =>
    refine ⟨[], g, none, s, .idle done, ?_⟩
    unfold sweep
    rw [refresh_of_isDone _ done, List.append_nil]
    rfl
  | false =>
    have pending : ¬ g.isDone = true := by rw [done]; decide
    unfold sweep refresh
    rw [if_neg pending, asked]
    rcases answer : b.group g.href s with ⟨e | report, s'⟩
    · exact ⟨_, g, some e, s', .unanswered done answer, rfl⟩
    · dsimp only
      rw [askedMembers, List.append_assoc]
      rcases list : b.members g.href s' with ⟨e | members, s''⟩
      · exact ⟨_, g, some e, s'', .halfAnswered done answer list, rfl⟩
      · exact ⟨_, g.absorb report members, none, s'',
          .answered done answer list (g.absorb_updated report members), rfl⟩

end TrackedGroup

end TaskOrchestration
