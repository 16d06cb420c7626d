import TaskOrchestration.Proofs.WorkUnit.Chronicles
import TaskOrchestration.Proofs.WorkUnit.Contacts
import TaskOrchestration.Proofs.WorkUnit.PollCycle

/-!
# The references of the tasks

A merge takes over the reference of a report that has one, so a lookup that is answered with a
report of another task diverts the tracked task to that one. `Diverted` says of one lookup that this
happens. Without it a task keeps its reference, and all calls about it go by that reference;
`hrefs_stay_iff` says that for one task over its refreshes, and for the tasks of a unit over all
that a host does with it.
-/

namespace TaskOrchestration

variable {σ : Type}

/-! ## One task -/

namespace TaskReport

/-- The task is looked up, and what comes back is a report under another reference. A report without
a reference passes for one of the task itself. -/
def Diverted (b : Backend σ) (t : TaskReport) (s : σ) : Prop :=
  t.isDone = false ∧ ∃ fresh s', b.task t.href s = (.ok fresh, s') ∧
    fresh.href ≠ "" ∧ fresh.href ≠ t.href

/-- The task after so many refreshes, and the backend after them. A lookup that fails leaves what is
known of the task. -/
def refreshTimes (b : Backend σ) (t : TaskReport) (s : σ) : Nat → TaskReport × σ
  | 0 => (t, s)
  | n + 1 =>
    let (known, s) := refreshTimes b t s n
    match known.refresh b s with
    | (.ok t', s) => (t', s)
    | (.error _, s) => (known, s)

variable {b : Backend σ} {t t' : TaskReport} {s s' : σ}

/-- A refresh that succeeds keeps the reference exactly if it is not diverted. -/
theorem href_of_refresh_iff (refreshed : t.refresh b s = (.ok t', s')) :
    t'.href = t.href ↔ ¬ t.Diverted b s := by
  unfold refresh at refreshed
  split at refreshed
  · next done =>
    obtain ⟨same, -⟩ := Prod.mk.inj refreshed
    obtain rfl := Except.ok.inj same
    exact ⟨fun _ diverted => absurd done (by rw [diverted.1]; decide), fun _ => rfl⟩
  · next notDone =>
    have pending : t.isDone = false := Bool.eq_false_iff.mpr notDone
    split at refreshed
    · next fresh s₁ answered =>
      obtain ⟨same, -⟩ := Prod.mk.inj refreshed
      obtain rfl := Except.ok.inj same
      unfold absorb
      rw [if_neg notDone, merge_href_iff]
      constructor
      · rintro kept ⟨-, fresh', s₂, answered', present, foreign⟩
        obtain ⟨report, -⟩ := Prod.mk.inj (answered.symm.trans answered')
        obtain rfl := Except.ok.inj report
        exact kept.elim present foreign
      · intro own
        by_cases present : fresh.href = ""
        · exact .inl present
        · refine .inr (Decidable.byContradiction fun foreign => own ?_)
          exact ⟨pending, fresh, s₁, answered, present, foreign⟩
    · cases refreshed

/-- A refresh that fails is not diverted. -/
theorem not_diverted_of_error {e : OrchestrationError} (failed : t.refresh b s = (.error e, s')) :
    ¬ t.Diverted b s := by
  rintro ⟨pending, fresh, s₁, answered, -⟩
  unfold refresh at failed
  rw [if_neg (by rw [pending]; decide), answered] at failed
  cases failed

/-- Another refresh keeps the reference exactly if it is not diverted. -/
theorem refreshTimes_succ_href_iff (n : Nat) :
    (t.refreshTimes b s (n + 1)).1.href = (t.refreshTimes b s n).1.href ↔
      ¬ (t.refreshTimes b s n).1.Diverted b (t.refreshTimes b s n).2 := by
  rw [refreshTimes]
  rcases t.refreshTimes b s n with ⟨known, s₁⟩
  dsimp only
  rcases refreshed : known.refresh b s₁ with ⟨e | t', s₂⟩
  · exact ⟨fun _ => not_diverted_of_error refreshed, fun _ => rfl⟩
  · exact href_of_refresh_iff refreshed

/-- Over any number of refreshes a task keeps its reference exactly as long as none is diverted. -/
theorem refreshTimes_href_iff (b : Backend σ) (t : TaskReport) (s : σ) (n : Nat) :
    (∀ k, k ≤ n → (t.refreshTimes b s k).1.href = t.href) ↔
      ∀ k, k < n → ¬ (t.refreshTimes b s k).1.Diverted b (t.refreshTimes b s k).2 := by
  constructor
  · intro kept k before
    rw [← refreshTimes_succ_href_iff, kept k (Nat.le_of_lt before), kept (k + 1) before]
  · intro own k upTo
    induction k with
    | zero => rfl
    | succ k ih => exact ((refreshTimes_succ_href_iff k).mpr (own k upTo)).trans (ih (by omega))

end TaskReport

/-! ## The tasks of a unit -/

/-- The lookup of one of the tasks in turn is diverted. -/
inductive Diverts (b : Backend σ) : List TaskReport → σ → Prop
  | here {t : TaskReport} {rest : List TaskReport} {s : σ} (diverted : t.Diverted b s) :
      Diverts b (t :: rest) s
  | later {t t' : TaskReport} {rest : List TaskReport} {s s' : σ}
      (refreshed : t.refresh b s = (.ok t', s')) : Diverts b rest s' → Diverts b (t :: rest) s

/-- A sweep over tasks keeps their references exactly if no lookup is diverted. -/
theorem sweep_hrefs_iff {b : Backend σ} (tasks : List TaskReport) (s : σ) :
    (sweep (TaskReport.refresh b) tasks s).1.map TaskReport.href = tasks.map TaskReport.href ↔
      ¬ Diverts b tasks s := by
  induction tasks generalizing s with
  | nil => exact ⟨nofun, fun _ => rfl⟩
  | cons t rest ih =>
    unfold sweep
    rcases refreshed : t.refresh b s with ⟨e | t', s'⟩
    · refine ⟨fun _ diverts => ?_, fun _ => rfl⟩
      cases diverts with
      | here diverted => exact TaskReport.not_diverted_of_error refreshed diverted
      | later succeeded _ => cases refreshed.symm.trans succeeded
    · have first := TaskReport.href_of_refresh_iff refreshed
      dsimp only
      rw [List.map_cons, List.map_cons, List.cons.injEq, first, ih]
      constructor
      · rintro ⟨own, rested⟩ diverts
        cases diverts with
        | here diverted => exact own diverted
        | later succeeded later =>
          obtain ⟨-, rfl⟩ := Prod.mk.inj (refreshed.symm.trans succeeded)
          exact rested later
      · exact fun own => ⟨fun diverted => own (.here diverted),
          fun later => own (.later refreshed later)⟩

namespace WorkUnit

/-- The references of the tracked tasks. -/
def taskHrefs (u : WorkUnit) : List String := u.knownTasks.map TaskReport.href

/-- A call looks tasks up, and one of these lookups is diverted. -/
def Diverted (r : Remote σ) (q : Request) (u : WorkUnit) (s : σ) : Prop :=
  u.Asks q ∧ Diverts r.backend u.knownTasks (u.requested r q s)

theorem refresh_taskHrefs {b : Backend σ} {u : WorkUnit} (initiated : u.isInitiated = true)
    (s : σ) :
    (u.refresh b s).1.taskHrefs =
      (sweep (TaskReport.refresh b) u.knownTasks s).1.map TaskReport.href := by
  obtain ⟨known, hknown⟩ := Option.isSome_iff_exists.mp initiated
  have kept (tasks : List TaskReport) : (u.tasks.map fun _ => tasks).getD [] = tasks := by
    rw [hknown]
    rfl
  rcases swept : sweep (TaskReport.refresh b) u.knownTasks s with ⟨tasks, _ | e, s'⟩
  · rw [refresh_of_tasks_ok swept]
    exact congrArg (List.map TaskReport.href) (kept tasks)
  · rw [refresh_of_task_error swept]
    exact congrArg (List.map TaskReport.href) (kept tasks)

theorem taskHrefs_congr {u v : WorkUnit} (tasks : u.tasks = v.tasks) :
    u.taskHrefs = v.taskHrefs :=
  congrArg (List.map TaskReport.href) (knownTasks_congr tasks)

/-- A call keeps the references of the tasks exactly if no lookup is diverted. -/
theorem attend_taskHrefs_iff (r : Remote σ) {u : WorkUnit} (initiated : u.isInitiated = true)
    (q : Request) (s : σ) :
    (u.attend r q s).2.1.taskHrefs = u.taskHrefs ↔ ¬ u.Diverted r q s := by
  rw [attend_unit]
  by_cases asks : u.Asks q
  · have looked : u.gathered r q s = broughtIn (u.refresh r.backend (u.requested r q s)) :=
      (if_pos initiated).trans (congrArg broughtIn (lookups_eq r q u s))
    have brought (found : WorkUnit × Option OrchestrationError × σ) :
        (broughtIn found).1.taskHrefs = found.1.taskHrefs :=
      taskHrefs_congr (broughtIn_tracked found.1 found.2.1 found.2.2).1
    have left := taskHrefs_congr (serve_gathers r asks s).1.tasks
    rw [looked, brought, refresh_taskHrefs initiated] at left
    rw [left]
    exact (sweep_hrefs_iff _ _).trans (not_congr ⟨fun diverts => ⟨asks, diverts⟩, And.right⟩)
  · exact ⟨fun _ diverted => asks diverted.1,
      fun _ => taskHrefs_congr (serve_of_idle r asks s).1.tasks⟩

end WorkUnit

/-! ## What is seen of the calls -/

/-- The reference of the task that a call looks up. -/
def Call.taskHref? : Call → Option String
  | .task href => some href
  | _ => none

/-- All goes by these references of the tasks: they are those in the record, the tasks that are
looked up are looked up under them and in their order, and a call that asks to cancel anything asks
to cancel each of these tasks first. -/
structure Turn.GoesBy (hrefs : List String) (turn : Turn) : Prop where
  record : turn.record.tasks.map (·.map TaskReport.href) = some hrefs
  lookedUp : (turn.calls.filterMap Call.taskHref?).Sublist hrefs
  cancelled : turn.calls.filterMap Call.cancelledHref? = [] ∨
    hrefs <+: turn.calls.filterMap Call.cancelledHref?

/-- All that is seen of a move goes by these references of the tasks. -/
def Episode.GoesBy (hrefs : List String) : Episode → Prop
  | .call _ _ turn => turn.GoesBy hrefs
  | .takeUp _ _ => True

section Swept

variable {b : Backend σ} {s s' : σ} {calls : List Call} {failure : Option OrchestrationError}

theorem TaskReport.dueCalls_lookedUp (tasks : List TaskReport) :
    ((tasks.flatMap dueCalls).filterMap Call.taskHref?).Sublist (tasks.map href) := by
  induction tasks with
  | nil => exact List.Sublist.slnil
  | cons t rest ih =>
    have first : (t.dueCalls.filterMap Call.taskHref?).Sublist [t.href] := by
      unfold dueCalls
      split
      · exact List.nil_sublist _
      · exact List.Sublist.refl _
    rw [List.flatMap_cons, List.filterMap_append]
    exact first.append ih

/-- Tasks are looked up under their references, in their order. -/
theorem Swept.tasks_lookedUp {tasks tasks' : List TaskReport}
    (swept : Swept (TaskReport.refresh b) TaskReport.dueCalls (TaskReport.LookupFails b)
      tasks s calls tasks' failure s') :
    (calls.filterMap Call.taskHref?).Sublist (tasks.map TaskReport.href) := by
  cases swept with
  | all => exact TaskReport.dueCalls_lookedUp tasks
  | @upTo before _ after t _ _ _ _ split _ failed =>
    cases failed
    rw [split, List.map_append, List.filterMap_append]
    exact (TaskReport.dueCalls_lookedUp before).append ((List.nil_sublist _).cons_cons t.href)

/-- A sweep makes only calls of a kind that its steps make. -/
theorem Swept.forall_calls {α : Type} {step : α → σ → Except OrchestrationError α × σ}
    {due : α → List Call} {Fails : α → σ → List Call → OrchestrationError → σ → Prop}
    {items items' : List α} {P : Call → Prop}
    (swept : Swept step due Fails items s calls items' failure s')
    (dues : ∀ a, ∀ c ∈ due a, P c)
    (fails : ∀ {a s calls e s'}, Fails a s calls e s' → ∀ c ∈ calls, P c) :
    ∀ c ∈ calls, P c := by
  have flat (items : List α) : ∀ c ∈ items.flatMap due, P c := by
    intro c member
    obtain ⟨a, -, made⟩ := List.mem_flatMap.mp member
    exact dues a c made
  cases swept with
  | all => exact flat items
  | upTo _ _ failed =>
    intro c member
    exact (List.mem_append.mp member).elim (flat _ c) (fails failed c)

/-- To look tasks up cancels nothing. -/
theorem Swept.tasks_not_cancelled {tasks tasks' : List TaskReport}
    (swept : Swept (TaskReport.refresh b) TaskReport.dueCalls (TaskReport.LookupFails b)
      tasks s calls tasks' failure s') : ∀ c ∈ calls, c.cancelledHref? = none := by
  refine swept.forall_calls ?_ ?_
  · intro t c
    unfold TaskReport.dueCalls
    split <;> simp +contextual [Call.cancelledHref?]
  · intro t s calls e s' failed
    cases failed
    simp [Call.cancelledHref?]

/-- To look groups up neither looks a task up nor cancels anything. -/
theorem Swept.groups_silent {groups groups' : List TrackedGroup}
    (swept : Swept (TrackedGroup.refresh b) TrackedGroup.dueCalls (TrackedGroup.LookupFails b)
      groups s calls groups' failure s') :
    ∀ c ∈ calls, c.taskHref? = none ∧ c.cancelledHref? = none := by
  refine swept.forall_calls ?_ ?_
  · intro g c
    unfold TrackedGroup.dueCalls
    split <;> simp +contextual [or_imp, Call.taskHref?, Call.cancelledHref?]
  · intro g s calls e s' failed
    cases failed <;> simp [Call.taskHref?, Call.cancelledHref?]

end Swept

namespace WorkUnit

variable {u : WorkUnit}

/-- A cycle looks tasks up under their references, in their order, and cancels nothing. -/
theorem PollCycle.calls_fit {b : Backend σ} {s s' : σ} {calls : List Call} {tasks : List TaskReport}
    {groups : List TrackedGroup} {failure : Option OrchestrationError}
    (cycle : PollCycle b u s calls tasks groups failure s') :
    (calls.filterMap Call.taskHref?).Sublist u.taskHrefs ∧
      calls.filterMap Call.cancelledHref? = [] := by
  cases cycle with
  | tasks swept =>
    exact ⟨swept.tasks_lookedUp, List.filterMap_eq_nil_iff.mpr swept.tasks_not_cancelled⟩
  | @groups calls calls' _ _ _ _ _ sweptTasks swept =>
    have silent := swept.groups_silent
    have noTask : calls'.filterMap Call.taskHref? = [] :=
      List.filterMap_eq_nil_iff.mpr fun c made => (silent c made).1
    have noCancel : calls'.filterMap Call.cancelledHref? = [] :=
      List.filterMap_eq_nil_iff.mpr fun c made => (silent c made).2
    rw [List.filterMap_append, List.filterMap_append, noTask, noCancel, List.append_nil,
      List.append_nil]
    exact ⟨sweptTasks.tasks_lookedUp,
      List.filterMap_eq_nil_iff.mpr sweptTasks.tasks_not_cancelled⟩

/-- The requests to cancel look nothing up, and if there are any they begin with the tasks. -/
theorem requests_fit (q : Request) (u : WorkUnit) :
    (u.requests q).filterMap Call.taskHref? = [] ∧
      ((u.requests q).filterMap Call.cancelledHref? = [] ∨
        u.taskHrefs <+: (u.requests q).filterMap Call.cancelledHref?) := by
  match q with
  | .run _ => exact ⟨rfl, .inl rfl⟩
  | .cancel =>
    unfold requests cancelCalls
    rw [List.filterMap_map, List.filterMap_map]
    refine ⟨List.filterMap_eq_nil_iff.mpr fun _ _ => rfl, .inr ?_⟩
    have asked : (u.knownTasks ++ u.groups.flatMap TrackedGroup.members).filterMap
        (Call.cancelledHref? ∘ fun t => .cancel t.href) =
        (u.knownTasks ++ u.groups.flatMap TrackedGroup.members).map TaskReport.href :=
      congrFun List.filterMap_eq_map _
    rw [asked, List.map_append]
    exact List.prefix_append _ _

/-- The calls of any call of the host go by the references that the tasks have before it. -/
theorem attend_calls_fit (r : Remote σ) (initiated : u.isInitiated = true) (q : Request) (s : σ) :
    ((u.attend r q s).1.calls.filterMap Call.taskHref?).Sublist u.taskHrefs ∧
      ((u.attend r q s).1.calls.filterMap Call.cancelledHref? = [] ∨
        u.taskHrefs <+: (u.attend r q s).1.calls.filterMap Call.cancelledHref?) := by
  by_cases asks : u.Asks q
  · obtain ⟨calls, _, _, _, _, cycle, contacts, -⟩ := attend_polls r initiated asks s
    obtain ⟨lookedUp, cancelled⟩ := cycle.calls_fit
    obtain ⟨noTask, requested⟩ := requests_fit q u
    rw [Turn.calls_of_contacts contacts, List.filterMap_append, List.filterMap_append, noTask,
      cancelled, List.nil_append, List.append_nil]
    exact ⟨lookedUp, requested⟩
  · have silent : (u.attend r q s).1.contacts = ([] : List Call).map .call :=
      contacts_of_idle r asks s
    rw [Turn.calls_of_contacts silent]
    exact ⟨List.nil_sublist _, .inl rfl⟩

theorem attend_isInitiated (r : Remote σ) (initiated : u.isInitiated = true) (q : Request) (s : σ) :
    (u.attend r q s).2.1.isInitiated = true := by
  rw [attend_unit]
  exact serve_isInitiated r initiated q s

/-- All that is seen of a call goes by the references of the tasks exactly if no lookup is
diverted. -/
theorem attend_goesBy_iff (r : Remote σ) (initiated : u.isInitiated = true) (q : Request) (s : σ) :
    (u.attend r q s).1.GoesBy u.taskHrefs ↔ ¬ u.Diverted r q s := by
  obtain ⟨known, hknown⟩ := Option.isSome_iff_exists.mp (attend_isInitiated r initiated q s)
  have written : (u.attend r q s).1.record.tasks = some known := hknown
  have hrefs : (u.attend r q s).2.1.taskHrefs = known.map TaskReport.href :=
    congrArg (List.map TaskReport.href) (knownTasks_of_some hknown)
  rw [← attend_taskHrefs_iff r initiated, hrefs]
  constructor
  · intro goesBy
    have record := goesBy.record
    rw [written] at record
    exact Option.some.inj record
  · intro same
    obtain ⟨lookedUp, cancelled⟩ := attend_calls_fit r initiated q s
    exact ⟨by rw [written, ← same]; rfl, lookedUp, cancelled⟩

/-! ## All that a host does -/

/-- On the way of the host's moves the lookup of a task is diverted. -/
inductive DivertedIn (r : Remote σ) : List Move → WorkUnit → σ → Prop
  | here {q : Request} {rest : List Move} {u : WorkUnit} {s : σ} (diverted : u.Diverted r q s) :
      DivertedIn r (.call q :: rest) u s
  | call {q : Request} {rest : List Move} {u : WorkUnit} {s : σ} :
      DivertedIn r rest (u.attend r q s).2.1 (u.attend r q s).2.2 →
      DivertedIn r (.call q :: rest) u s
  | takeUp {policy : Policy} {rest : List Move} {u : WorkUnit} {s : σ} :
      DivertedIn r rest (ofRecord policy u.record) s → DivertedIn r (.takeUp policy :: rest) u s

/-- Along the moves of the host, all that is seen goes by the references of the tasks exactly if no
lookup is diverted. -/
theorem chronicle_goesBy_iff (r : Remote σ) (moves : List Move) (initiated : u.isInitiated = true)
    (s : σ) :
    ∃ episodes v s', chronicle r moves u s = .ok (episodes, v, s') ∧
      ((∀ e ∈ episodes, e.GoesBy u.taskHrefs) ↔ ¬ DivertedIn r moves u s) := by
  induction moves generalizing u s with
  | nil => exact ⟨[], u, s, rfl, fun _ => nofun, fun _ _ member => nomatch member⟩
  | cons move rest ih =>
    cases move with
    | call q =>
      obtain ⟨episodes, v, s', told, rested⟩ :=
        ih (attend_isInitiated r initiated q s) (u.attend r q s).2.2
      refine ⟨_, v, s', chronicle_call q told, ?_⟩
      have first := attend_goesBy_iff r initiated q s
      -- Once the call has gone well, the rest begins with the same references.
      have same := (attend_taskHrefs_iff r initiated q s).mpr
      rw [List.forall_mem_cons]
      constructor
      · rintro ⟨goesBy, later⟩ diverted
        have own := first.mp goesBy
        rw [← same own] at later
        cases diverted with
        | here diverted => exact own diverted
        | call diverted => exact rested.mp later diverted
      · intro own
        have here : ¬ u.Diverted r q s := fun diverted => own (.here diverted)
        refine ⟨first.mpr here, ?_⟩
        rw [← same here]
        exact rested.mpr fun diverted => own (.call diverted)
    | takeUp policy =>
      obtain ⟨episodes, v, s', told, rested⟩ := ih (u := ofRecord policy u.record) initiated s
      refine ⟨_, v, s', chronicle_takeUp policy told, ?_⟩
      rw [List.forall_mem_cons]
      constructor
      · rintro ⟨-, later⟩ diverted
        cases diverted with
        | takeUp diverted => exact rested.mp later diverted
      · exact fun own => ⟨trivial, rested.mpr fun diverted => own (.takeUp diverted)⟩

/-- A backend that reports each task under its own reference, or under none, diverts nothing. -/
theorem not_divertedIn_of_truthful {r : Remote σ} (truthful : ∀ href s fresh s',
      r.backend.task href s = (.ok fresh, s') → fresh.href = "" ∨ fresh.href = href)
    (moves : List Move) (u : WorkUnit) (s : σ) : ¬ DivertedIn r moves u s := by
  have task (t : TaskReport) (s : σ) : ¬ t.Diverted r.backend s := by
    rintro ⟨-, fresh, s', answered, present, foreign⟩
    exact (truthful _ _ _ _ answered).elim present foreign
  have tasks {known : List TaskReport} {s : σ} : ¬ Diverts r.backend known s := by
    intro diverts
    induction diverts with
    | here diverted => exact task _ _ diverted
    | later _ _ ih => exact ih
  intro diverted
  induction diverted with
  | here diverted => exact tasks diverted.2
  | call _ ih | takeUp _ ih => exact ih

/-- A task keeps its reference over any number of refreshes, and the tasks of a unit whose operation
has answered keep theirs over all that a host does with it, new units from its record included, and
are looked up and cancelled under them, exactly as long as no lookup of a task that is not done is
answered with a report of another reference. -/
theorem hrefs_stay_iff (r : Remote σ) (s : σ) :
    (∀ (t : TaskReport) (n : Nat),
      (∀ k, k ≤ n → (t.refreshTimes r.backend s k).1.href = t.href) ↔
        ∀ k, k < n → ¬ (t.refreshTimes r.backend s k).1.Diverted r.backend
          (t.refreshTimes r.backend s k).2) ∧
    ∀ (u : WorkUnit), u.isInitiated = true → ∀ moves,
      ∃ episodes v s', chronicle r moves u s = .ok (episodes, v, s') ∧
        ((∀ e ∈ episodes, e.GoesBy u.taskHrefs) ↔ ¬ DivertedIn r moves u s) := by
  constructor
  · exact fun t n => TaskReport.refreshTimes_href_iff r.backend t s n
  · exact fun u initiated moves => chronicle_goesBy_iff r moves initiated s

/-- A remote whose answer to a lookup is a task that is running, under a reference of its choice. -/
def reportingRemote (reported : String) : Remote Unit where
  backend := {
    task := fun _ s => (.ok { href := reported, state := some "running" }, s)
    group := fun href s => (.ok { href }, s)
    members := fun _ s => (.ok [], s)
    cancel := fun _ s => (.ok (), s) }
  operation := { name := "sync", invoke := fun s => (.ok .empty, s) }

/-- A unit that waits for two tasks. -/
def waitingUnit : WorkUnit where
  tasks := some [{ href := "/tasks/1/" }, { href := "/tasks/2/" }]
  lifecycle := .ofState .suspended

/-- Reports without a reference leave the tasks theirs: over a run, a new unit from the record, and
a call to cancel. -/
theorem hrefs_stay_under_blank_reports :
    let moves : List Move := [.call (.run .execute), .takeUp {}, .call .cancel]
    waitingUnit.isInitiated = true ∧
      ∃ episodes v s', chronicle (reportingRemote "") moves waitingUnit () =
          .ok (episodes, v, s') ∧
        ∀ e ∈ episodes, e.GoesBy ["/tasks/1/", "/tasks/2/"] := by
  intro moves
  have own : ¬ DivertedIn (reportingRemote "") moves waitingUnit () := by
    refine not_divertedIn_of_truthful ?_ moves waitingUnit ()
    intro href s fresh s' answered
    obtain ⟨report, -⟩ := Prod.mk.inj answered
    rw [← Except.ok.inj report]
    exact .inl rfl
  obtain ⟨episodes, v, s', told, goesBy⟩ :=
    (hrefs_stay_iff (reportingRemote "") ()).2 waitingUnit rfl moves
  exact ⟨rfl, episodes, v, s', told, goesBy.mpr own⟩

/-- A report under another reference takes the tasks over: they are looked up and cancelled under
that one from then on. -/
theorem hrefs_taken_over :
    let r := reportingRemote "/tasks/9/"
    let v := (waitingUnit.attend r (.run .execute) ()).2.1
    (({ href := "/tasks/1/" } : TaskReport).refreshTimes r.backend () 1).1.href = "/tasks/9/" ∧
      waitingUnit.taskHrefs = ["/tasks/1/", "/tasks/2/"] ∧
      v.taskHrefs = ["/tasks/9/", "/tasks/9/"] ∧
      (v.attend r .cancel ()).1.calls =
        [.cancel "/tasks/9/", .cancel "/tasks/9/", .task "/tasks/9/", .task "/tasks/9/"] := by
  decide +kernel

end WorkUnit

end TaskOrchestration
