import TaskOrchestration.Proofs.WorkUnit.Contacts
import TaskOrchestration.Proofs.WorkUnit.Histories
import TaskOrchestration.Proofs.WorkUnit.Journaling

/-!
# Every group that a task reveals is tracked once

A call that asks something of the remote, without an error that interrupts it, appends a bare group
for each reference that the tasks reveal and no tracked group has; any other call leaves the groups
it finds.
`Reachable.discovers` says what this comes to over a whole life: no group is lost and none is
tracked twice, and a unit with a group just discovered goes on.
-/

namespace TaskOrchestration

variable {σ : Type}

namespace WorkUnit

/-! ## One call -/

theorem lookups_groupHrefs (r : Remote σ) (q : Request) (u : WorkUnit) (s : σ) :
    (u.lookups r q s).1.groupHrefs = u.groupHrefs := by
  cases q <;> exact refresh_groupHrefs r.backend u _

/-- Without interruption the groups are discovered among those that were tracked before. -/
theorem gathered_of_answered {r : Remote σ} {q : Request} {u : WorkUnit} {s : σ}
    (answered : u.interruption r q s = none) :
    ∃ found : WorkUnit,
      (u.gathered r q s).1 = found.discover ∧ found.groupHrefs = u.groupHrefs := by
  cases initiated : u.isInitiated with
  | true =>
    obtain ⟨found, s', looked, gathered⟩ := exists_found_of_answered initiated answered
    have kept := lookups_groupHrefs r q u s
    rw [looked] at kept
    exact ⟨found, by rw [gathered], kept⟩
  | false =>
    obtain ⟨response, s', -, gathered⟩ := exists_response_of_answered initiated answered
    exact ⟨{ u with tasks := some response.tasks }, by rw [gathered], rfl⟩

/-- An interruption leaves the groups that were tracked before. -/
theorem gathered_of_interrupted {r : Remote σ} {q : Request} {u : WorkUnit} {s : σ}
    (interrupted : u.interruption r q s ≠ none) :
    (u.gathered r q s).1.groupHrefs = u.groupHrefs := by
  have kept := lookups_groupHrefs r q u s
  unfold interruption at interrupted
  unfold gathered
  split
  · next initiated =>
    rw [if_pos initiated] at interrupted
    generalize u.lookups r q s = outcome at interrupted kept
    obtain ⟨found, _ | e, s'⟩ := outcome
    · exact absurd rfl interrupted
    · exact kept
  · next uninitiated =>
    rw [if_neg uninitiated] at interrupted
    generalize r.operation.invoke s = outcome at interrupted
    obtain ⟨e | response, s'⟩ := outcome
    · rfl
    · exact absurd rfl interrupted

/-- A call that nothing interrupts leaves a unit whose groups were just discovered. -/
theorem exists_discover_of_answered {r : Remote σ} {q : Request} {u : WorkUnit} {s : σ}
    (asks : u.Asks q) (answered : u.interruption r q s = none) :
    ∃ found : WorkUnit, found.groupHrefs = u.groupHrefs ∧
      (u.serve r q s).1.unit.tasks = found.tasks ∧
      (u.serve r q s).1.unit.groups = found.discover.groups := by
  obtain ⟨kept, -⟩ := serve_gathers r asks s
  obtain ⟨found, same, hrefs⟩ := gathered_of_answered answered
  refine ⟨found, hrefs, ?_, ?_⟩
  · rw [kept.tasks, same]
    rfl
  · rw [kept.groups, same]

/-- Any other call leaves the groups that were tracked before. -/
theorem serve_groupHrefs_of_unanswered {r : Remote σ} {q : Request} {u : WorkUnit} {s : σ}
    (h : ¬ (u.Asks q ∧ u.interruption r q s = none)) :
    (u.serve r q s).1.unit.groupHrefs = u.groupHrefs := by
  by_cases asks : u.Asks q
  · have kept := groupHrefs_congr (serve_gathers r asks s).1.groups
    exact kept.trans (gathered_of_interrupted fun answered => h ⟨asks, answered⟩)
  · exact groupHrefs_congr (serve_of_idle r asks s).1.groups

/-- Without interruption a bare group is appended for each reference that the tasks reveal and that
was not known. -/
theorem serve_groupHrefs {r : Remote σ} {q : Request} {u : WorkUnit} {s : σ} (asks : u.Asks q)
    (answered : u.interruption r q s = none) :
    (u.serve r q s).1.unit.groupHrefs =
        u.groupHrefs ++ unknownAmong u.groupHrefs (u.serve r q s).1.unit.revealed ∧
      ∀ href ∈ unknownAmong u.groupHrefs (u.serve r q s).1.unit.revealed,
        .ofHref href ∈ (u.serve r q s).1.unit.groups := by
  obtain ⟨found, hrefs, tasks, groups⟩ := exists_discover_of_answered asks answered
  have revealed : (u.serve r q s).1.unit.revealed = found.revealed :=
    congrArg (fun tasks => (tasks.getD []).filterMap TaskReport.taskGroupHref) tasks
  rw [revealed, ← hrefs, groups, discover_groups]
  refine ⟨(groupHrefs_congr groups).trans found.discover_groupHrefs, fun href added => ?_⟩
  exact List.mem_append_right _ (List.mem_map_of_mem added)

/-- A call tracks no group a second time. -/
theorem nodup_serve_groupHrefs (r : Remote σ) (q : Request) {u : WorkUnit} (s : σ)
    (h : u.groupHrefs.Nodup) : (u.serve r q s).1.unit.groupHrefs.Nodup := by
  by_cases reviewed : u.Asks q ∧ u.interruption r q s = none
  · obtain ⟨found, hrefs, -, groups⟩ := exists_discover_of_answered reviewed.1 reviewed.2
    rw [groupHrefs_congr groups]
    exact nodup_discover_groupHrefs (hrefs ▸ h)
  · rw [serve_groupHrefs_of_unanswered reviewed]
    exact h

/-- A unit with a bare group is not done. -/
theorem isDone_of_bare_group {u : WorkUnit} {href : String}
    (tracked : TrackedGroup.ofHref href ∈ u.groups) : u.isDone = false := by
  rw [← Bool.not_eq_true, isDone_iff]
  rintro ⟨-, -, groupsDone⟩
  have bare : (TrackedGroup.ofHref href).isDone = false := rfl
  rw [groupsDone _ tracked] at bare
  cases bare

/-- A coherent unit that asks something of its remote says that it is done only if it is. -/
theorem Coherent.isDone_of_done {u : WorkUnit} (h : Coherent u) {r : Remote σ} {q : Request} {s : σ}
    (asks : u.Asks q) (done : (u.serve r q s).1.result = .ok .done) :
    (u.serve r q s).1.unit.isDone = true := by
  obtain ⟨w, -, ends, -⟩ :=
    serve_ending r asks.isOpen (h.started_iff asks.isOpen) asks.notSkipped asks.tracked s
  rw [done] at ends
  generalize (u.serve r q s).1.unit = v at ends
  generalize u.interruption r q s = failure at ends
  cases ends with
  | done _ isDone => exact isDone

/-! ## Whole lives -/

/-- No group is tracked twice by a unit that calls and reloads make of a fresh one. -/
theorem Reachable.nodup_groupHrefs {u : WorkUnit} (h : Reachable u) : u.groupHrefs.Nodup := by
  induction h with
  | fresh policy => exact List.nodup_nil
  | serve r q s _ ih => exact nodup_serve_groupHrefs r q s ih
  | reload policy reachable taken ih =>
    rw [reachable.coherent.ofRecordJson_record policy] at taken
    rw [← Except.ok.inj taken]
    exact ih

/-- For every unit that calls and reloads make of a fresh one, and every call on it: no two of its
groups have one reference, and a reload keeps them all. The call keeps the groups in their order and
appends others behind them. If it asks something of the remote and no error interrupts that, these
are the groups that its tasks reveal and that were not tracked, in the order in which they are
revealed first, and every group that a task names is tracked once; otherwise there are none. A call
that appends a group does not say that the unit is done, and asks nothing about that group. -/
theorem Reachable.discovers {u : WorkUnit} (h : Reachable u) (r : Remote σ) (q : Request) (s : σ) :
    let turn := (u.attend r q s).1
    let v := (u.attend r q s).2.1
    u.groupHrefs.Nodup ∧
    (∀ policy w, ofRecordJson policy u.record.toJson = .ok w → w.groupHrefs = u.groupHrefs) ∧
    ∃ added, v.groupHrefs = u.groupHrefs ++ added ∧
      (u.Asks q ∧ u.interruption r q s = none →
        added = (v.revealed.filter fun href => href ∉ u.groupHrefs).eraseDups ∧
        ∀ t ∈ v.knownTasks, ∀ href, t.taskGroupHref = some href → v.groupHrefs.count href = 1) ∧
      (¬ (u.Asks q ∧ u.interruption r q s = none) → added = []) ∧
      (added ≠ [] → turn.answer ≠ .ok .done) ∧
      ∀ href ∈ added,
        .call (.group href) ∉ turn.contacts ∧ .call (.members href) ∉ turn.contacts := by
  intro turn v
  have left : v = (u.serve r q s).1.unit := attend_unit r q u s
  have nodup : v.groupHrefs.Nodup := left ▸ nodup_serve_groupHrefs r q s h.nodup_groupHrefs
  have reloaded : ∀ policy w, ofRecordJson policy u.record.toJson = .ok w →
      w.groupHrefs = u.groupHrefs := by
    intro policy w taken
    rw [h.coherent.ofRecordJson_record policy] at taken
    rw [← Except.ok.inj taken]
    rfl
  refine ⟨h.nodup_groupHrefs, reloaded, ?_⟩
  by_cases reviewed : u.Asks q ∧ u.interruption r q s = none
  · obtain ⟨appended, bare⟩ := serve_groupHrefs (r := r) (s := s) reviewed.1 reviewed.2
    rw [← left] at appended bare
    refine ⟨unknownAmong u.groupHrefs v.revealed, appended, fun _ => ⟨rfl, ?_⟩,
      fun not => absurd reviewed not, ?_, ?_⟩
    · intro t ht href named
      have isRevealed : href ∈ v.revealed := List.mem_filterMap.mpr ⟨t, ht, named⟩
      have isTracked : href ∈ v.groupHrefs := by
        rw [appended, List.mem_append, mem_unknownAmong]
        exact (Classical.em (href ∈ u.groupHrefs)).imp_right fun fresh => ⟨isRevealed, fresh⟩
      rw [nodup.count, if_pos isTracked]
    · intro some done
      obtain ⟨href, added⟩ := List.exists_mem_of_ne_nil _ some
      have isDone := h.coherent.isDone_of_done reviewed.1 ((attend_answer r q u s).symm.trans done)
      rw [← left, isDone_of_bare_group (bare href added)] at isDone
      cases isDone
    · intro href added
      -- What is asked is about groups that were tracked before the call.
      have fresh : href ∉ u.groupHrefs := (mem_unknownAmong.mp added).2
      refine ⟨fun asked => ?_, fun asked => ?_⟩ <;>
        cases mayAsk_of_mem_contacts r asked <;>
        next tracked => exact fresh (List.mem_map_of_mem tracked)
  · refine ⟨[], ?_, fun yes => absurd yes reviewed, fun _ => rfl, fun some => absurd rfl some, ?_⟩
    · rw [left, serve_groupHrefs_of_unanswered reviewed, List.append_nil]
    · exact fun _ added => absurd added List.not_mem_nil

end WorkUnit

/-- The remote whose operation starts two tasks, which turn out to be done and to belong to one
group. -/
def Remote.sharedGroup : Remote Unit where
  backend := {
    task := fun href s =>
      (.ok { href, done := some true, taskGroupHref := some "/groups/1/" }, s)
    group := fun href s => (.ok { href }, s)
    members := fun href s => (.ok [{ href, done := some true }], s)
    cancel := fun _ s => (.ok (), s) }
  operation := {
    name := "import"
    invoke := fun s => (.ok (.many [{ href := "/tasks/1/" }, { href := "/tasks/2/" }]), s) }

namespace WorkUnit

/-- The second run of a unit finds one group that both of its tasks reveal, and goes on. -/
theorem discovers_shared_group :
    let r := Remote.sharedGroup
    let u := (({} : WorkUnit).serve r (.run .execute) ()).1.unit
    let turn := (u.attend r (.run .execute) ()).1
    let v := (u.attend r (.run .execute) ()).2.1
    Reachable u ∧ u.groupHrefs = [] ∧ v.groupHrefs = ["/groups/1/"] ∧
      turn.answer ≠ .ok .done ∧ .call (.group "/groups/1/") ∉ turn.contacts := by
  intro r u turn v
  have reachable : Reachable u := .serve r (.run .execute) () (.fresh {})
  have before : u.groupHrefs = [] := by decide +kernel
  have after : v.groupHrefs = ["/groups/1/"] := by decide +kernel
  obtain ⟨-, -, added, appended, -, -, goesOn, unasked⟩ := reachable.discovers r (.run .execute) ()
  have found : added = ["/groups/1/"] := by
    rw [← after, ← List.nil_append added, ← before]
    exact appended.symm
  subst found
  exact ⟨reachable, before, after, goesOn nofun, (unasked _ List.mem_cons_self).1⟩

end WorkUnit

end TaskOrchestration
