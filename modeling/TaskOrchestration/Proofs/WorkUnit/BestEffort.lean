import TaskOrchestration.Proofs.WorkUnit.Histories
import TaskOrchestration.Proofs.WorkUnit.PollCycle

/-!
# Requests to cancel may be refused

A call to cancel asks for the end of every task and of every member of every group, whatever becomes
of the requests before, and then polls once. What a request is answered is not looked at: two
backends whose lookups answer alike (`Backend.LookAlike`) may refuse different requests, and a call
to cancel comes to the same with both (`attend_cancel_agrees`). That the unit was asked to cancel is
never forgotten (`History.toldToCancel`). `cancel_best_effort` puts the three together.
-/

namespace TaskOrchestration

variable {σ τ α : Type} {R : σ → τ → Prop}

/-! ## Backends that look alike -/

/-- The answers are the same, and the states after them are related. -/
structure Agree (R : σ → τ → Prop) (a : α × σ) (b : α × τ) : Prop where
  same : a.1 = b.1
  related : R a.2 b.2

/-- The one answer that both give. -/
theorem Agree.exists_answer {a : α × σ} {b : α × τ} (h : Agree R a b) :
    ∃ answer s t, a = (answer, s) ∧ b = (answer, t) ∧ R s t :=
  ⟨a.1, a.2, b.2, rfl, Prod.ext h.same.symm rfl, h.related⟩

/-- From states that are related, both backends answer every lookup alike. A request to cancel may
be granted by one and refused by the other, as long as no lookup can tell later. -/
structure Backend.LookAlike (R : σ → τ → Prop) (b : Backend σ) (b' : Backend τ) : Prop where
  task : ∀ href {s t}, R s t → Agree R (b.task href s) (b'.task href t)
  group : ∀ href {s t}, R s t → Agree R (b.group href s) (b'.group href t)
  members : ∀ href {s t}, R s t → Agree R (b.members href s) (b'.members href t)
  cancel : ∀ href {s t}, R s t → R (b.cancel href s).2 (b'.cancel href t).2

/-- The states are related, and the same was asked so far. -/
structure Journal.Related (R : σ → τ → Prop) (j : Journal σ) (j' : Journal τ) : Prop where
  state : R j.state j'.state
  contacts : j.contacts = j'.contacts

/-- The same contact may be noted on both sides. -/
theorem Journal.answer_agrees (contact : Contact) {ask : σ → Answer σ α} {ask' : τ → Answer τ α}
    {j : Journal σ} {j' : Journal τ} (h : j.Related R j')
    (asked : Agree R (ask j.state) (ask' j'.state)) :
    Agree (Journal.Related R) (Journal.answer contact ask j) (Journal.answer contact ask' j') :=
  ⟨asked.same, asked.related, congrArg (· ++ [contact]) h.contacts⟩

/-- Backends look alike also through journals. -/
theorem Backend.LookAlike.journaled {r : Remote σ} {r' : Remote τ}
    (alike : r.backend.LookAlike R r'.backend) :
    r.journaled.backend.LookAlike (Journal.Related R) r'.journaled.backend where
  task href _ _ h := Journal.answer_agrees _ h (alike.task href h.state)
  group href _ _ h := Journal.answer_agrees _ h (alike.group href h.state)
  members href _ _ h := Journal.answer_agrees _ h (alike.members href h.state)
  cancel href _ _ h :=
    ⟨alike.cancel href h.state, congrArg (· ++ [Contact.call (.cancel href)]) h.contacts⟩

/-! ## Lookups and requests to cancel -/

section LookAlike

variable {b : Backend σ} {b' : Backend τ} (alike : b.LookAlike R b')

include alike

theorem TaskReport.refresh_agrees (d : TaskReport) {s : σ} {t : τ} (h : R s t) :
    Agree R (d.refresh b s) (d.refresh b' t) := by
  unfold refresh
  split
  · exact ⟨rfl, h⟩
  · obtain ⟨answer, s', t', asked, asked', h'⟩ := (alike.task d.href h).exists_answer
    rw [asked, asked']
    cases answer <;> exact ⟨rfl, h'⟩

theorem TrackedGroup.refresh_agrees (g : TrackedGroup) {s : σ} {t : τ} (h : R s t) :
    Agree R (g.refresh b s) (g.refresh b' t) := by
  unfold refresh
  split
  · exact ⟨rfl, h⟩
  · obtain ⟨answer, s₁, t₁, asked, asked', h₁⟩ := (alike.group g.href h).exists_answer
    rw [asked, asked']
    cases answer with
    | error e => exact ⟨rfl, h₁⟩
    | ok report =>
      obtain ⟨listed, s₂, t₂, told, told', h₂⟩ := (alike.members g.href h₁).exists_answer
      dsimp only
      rw [told, told']
      cases listed <;> exact ⟨rfl, h₂⟩

/-- Whatever requests to cancel are answered, the lookups after them are answered alike. -/
theorem TaskReport.cancelAll_related (tasks : List TaskReport) {s : σ} {t : τ} (h : R s t) :
    R (TaskReport.cancelAll b tasks s) (TaskReport.cancelAll b' tasks t) := by
  induction tasks generalizing s t with
  | nil => exact h
  | cons d rest ih => exact ih (alike.cancel d.href h)

theorem TrackedGroup.cancelAll_related (groups : List TrackedGroup) {s : σ} {t : τ} (h : R s t) :
    R (TrackedGroup.cancelAll b groups s) (TrackedGroup.cancelAll b' groups t) := by
  induction groups generalizing s t with
  | nil => exact h
  | cons g rest ih => exact ih (TaskReport.cancelAll_related alike g.members h)

end LookAlike

/-- Sweeps whose steps agree leave the same items and end alike. -/
theorem exists_sweep_of_agree {step : α → σ → Except OrchestrationError α × σ}
    {step' : α → τ → Except OrchestrationError α × τ}
    (stepped : ∀ a {s t}, R s t → Agree R (step a s) (step' a t)) (items : List α) {s : σ} {t : τ}
    (h : R s t) :
    ∃ left failure s' t', sweep step items s = (left, failure, s') ∧
      sweep step' items t = (left, failure, t') ∧ R s' t' := by
  induction items generalizing s t with
  | nil => exact ⟨[], none, s, t, rfl, rfl, h⟩
  | cons a rest ih =>
    obtain ⟨answer, s', t', first, first', h'⟩ := (stepped a h).exists_answer
    unfold sweep
    rw [first, first']
    cases answer with
    | error e => exact ⟨_, _, s', t', rfl, rfl, h'⟩
    | ok a' =>
      obtain ⟨left, failure, s'', t'', swept, swept', h''⟩ := ih h'
      dsimp only
      rw [swept, swept']
      exact ⟨_, _, s'', t'', rfl, rfl, h''⟩

namespace WorkUnit

section LookAlike

variable {b : Backend σ} {b' : Backend τ} (alike : b.LookAlike R b')

include alike

/-- A refresh leaves the same unit and ends alike. -/
theorem exists_refresh_of_lookAlike (u : WorkUnit) {s : σ} {t : τ} (h : R s t) :
    ∃ found failure s' t', u.refresh b s = (found, failure, s') ∧
      u.refresh b' t = (found, failure, t') ∧ R s' t' := by
  obtain ⟨tasks, failure, s₁, t₁, swept, swept', h₁⟩ :=
    exists_sweep_of_agree (TaskReport.refresh_agrees alike) u.knownTasks h
  cases failure with
  | some e =>
    rw [refresh_of_task_error swept, refresh_of_task_error swept']
    exact ⟨_, _, s₁, t₁, rfl, rfl, h₁⟩
  | none =>
    obtain ⟨groups, failure, s₂, t₂, sweptGroups, sweptGroups', h₂⟩ :=
      exists_sweep_of_agree (TrackedGroup.refresh_agrees alike) u.groups h₁
    rw [refresh_of_tasks_ok swept, refresh_of_tasks_ok swept', sweptGroups, sweptGroups']
    exact ⟨_, _, s₂, t₂, rfl, rfl, h₂⟩

theorem cancelTracked_related (u : WorkUnit) {s : σ} {t : τ} (h : R s t) :
    R (u.cancelTracked b s) (u.cancelTracked b' t) :=
  TrackedGroup.cancelAll_related alike u.groups (TaskReport.cancelAll_related alike u.knownTasks h)

end LookAlike

/-! ## Calls -/

/-- Both phases have the same answer and leave the same unit. -/
structure EndAlike (p q : Phase Outcome) : Prop where
  result : p.result = q.result
  unit : p.unit = q.unit

/-- The name of the operation only shows in what is logged. -/
theorem review_endAlike (name name' : String) (u : WorkUnit) :
    EndAlike (u.review name) (u.review name') := by
  unfold review scan
  cases u.discover.watchlist.reportedError? <;> exact ⟨rfl, rfl⟩

theorem takeFailure_endAlike (name name' : String) (e : OrchestrationError) (u : WorkUnit) :
    EndAlike (u.takeFailure name e) (u.takeFailure name' e) := by
  unfold takeFailure
  dsimp only
  split
  · split
    · exact ⟨rfl, rfl⟩
    · unfold Phase.andThen
      split <;> exact ⟨rfl, rfl⟩
  · exact ⟨rfl, rfl⟩

section Remotes

variable {r : Remote σ} {r' : Remote τ} (alike : r.backend.LookAlike R r'.backend)

include alike

theorem poll_endAlike (u : WorkUnit) {s : σ} {t : τ} (h : R s t) :
    EndAlike (u.poll r s).1 (u.poll r' t).1 ∧ R (u.poll r s).2 (u.poll r' t).2 := by
  obtain ⟨found, failure, s', t', looked, looked', h'⟩ :=
    exists_refresh_of_lookAlike alike { u.awake with polls := u.awake.polls.countPoll } h
  rw [poll_eq, poll_eq, looked, looked']
  cases failure with
  | none => exact ⟨review_endAlike _ _ _, h'⟩
  | some e => exact ⟨takeFailure_endAlike _ _ e _, h'⟩

/-- A call to cancel comes to the same, whichever requests are refused. -/
theorem cancel_endAlike {u : WorkUnit} (initiated : u.isInitiated = true)
    (isOpen : u.state.isFinal = false) {s : σ} {t : τ} (h : R s t) :
    EndAlike (u.serve r .cancel s).1 (u.serve r' .cancel t).1 ∧
      R (u.serve r .cancel s).2 (u.serve r' .cancel t).2 := by
  obtain ⟨ended, h'⟩ := poll_endAlike alike { u with cancelRequested := true }
    (cancelTracked_related alike u h)
  rw [serve, serve, cancel_of_initiated r isOpen s initiated,
    cancel_of_initiated r' isOpen t initiated]
  exact ⟨⟨ended.result, ended.unit⟩, h'⟩

/-- The same is seen of it: what is answered, what is asked of the remote, and what is left. -/
theorem attend_cancel_agrees {u : WorkUnit} (initiated : u.isInitiated = true)
    (isOpen : u.state.isFinal = false) {s : σ} {t : τ} (h : R s t) :
    (u.attend r .cancel s).1.answer = (u.attend r' .cancel t).1.answer ∧
      (u.attend r .cancel s).1.contacts = (u.attend r' .cancel t).1.contacts ∧
      (u.attend r .cancel s).2.1 = (u.attend r' .cancel t).2.1 := by
  -- Journals are part of the states that are related, so that what is asked is compared as well.
  obtain ⟨ended, h'⟩ := cancel_endAlike alike.journaled initiated isOpen
    (s := { state := s }) (t := { state := t }) ⟨h, rfl⟩
  exact ⟨ended.result, h'.contacts, ended.unit⟩

end Remotes

/-! ## The request is kept -/

/-- The operation has answered, and the unit was asked to cancel. -/
structure ToldToCancel (u : WorkUnit) : Prop where
  initiated : u.isInitiated = true
  cancelRequested : u.cancelRequested = true

/-- No call takes back that the unit was asked to cancel. -/
theorem ToldToCancel.serve (r : Remote σ) (q : Request) (s : σ) {u : WorkUnit}
    (h : u.ToldToCancel) : (u.serve r q s).1.unit.ToldToCancel := by
  refine ⟨serve_isInitiated r h.initiated q s, ?_⟩
  by_cases asks : u.Asks q
  · rw [serve_cancelRequested r h.initiated asks s]
    cases q with
    | run _ => exact h.cancelRequested
    | cancel => rfl
  · rcases idle_cases asks with ended | rfl | ⟨-, uninitiated, -⟩
    · rw [serve_of_final r ended]
      exact h.cancelRequested
    · exact h.cancelRequested
    · rw [h.initiated] at uninitiated
      cases uninitiated

/-- The record keeps that the unit was asked to cancel. -/
theorem ToldToCancel.ofRecord (policy : Policy) {u : WorkUnit} (h : u.ToldToCancel) :
    (ofRecord policy u.record).ToldToCancel := ⟨h.initiated, h.cancelRequested⟩

/-- Once a unit was asked to cancel it stays so, in whatever calls and reloads follow. -/
theorem History.toldToCancel {u v : WorkUnit} {past : List (Request × Turn)}
    (h : History u past v) (told : u.ToldToCancel) : v.ToldToCancel :=
  h.keeps ToldToCancel.serve ToldToCancel.ofRecord told

/-- For every unit whose operation has answered and that has not ended, and whatever the remote
answers: a call to cancel first asks for the cancellation of every task in order, and then of every
member of every group in order, done or not and whatever becomes of the earlier requests; the calls
after these are those of one poll cycle. From then on the unit counts as asked to cancel, through
all later calls and reloads. Any other backend whose lookups answer alike, whichever requests to
cancel it refuses, gets the same calls, and the unit gives the same answer and is left the same. -/
theorem cancel_best_effort {u : WorkUnit} (initiated : u.isInitiated = true)
    (isOpen : u.state.isFinal = false) (r : Remote σ) (s : σ) :
    let turn := (u.attend r .cancel s).1
    let v := (u.attend r .cancel s).2.1
    (∃ calls tasks groups failure s',
      PollCycle r.backend u (u.cancelTracked r.backend s) calls tasks groups failure s' ∧
        turn.contacts = (u.cancelCalls ++ calls).map .call ∧ (u.attend r .cancel s).2.2 = s' ∧
        v.tasks = some tasks ∧
        ∃ hrefs, v.groups = groups ++ hrefs.map .ofHref ∧ (failure.isSome = true → hrefs = [])) ∧
    (∀ past w, History v past w → w.cancelRequested = true) ∧
    ∀ {τ : Type} (r' : Remote τ) (R : σ → τ → Prop), r.backend.LookAlike R r'.backend →
      ∀ t, R s t →
        turn.answer = (u.attend r' .cancel t).1.answer ∧
        turn.contacts = (u.attend r' .cancel t).1.contacts ∧ v = (u.attend r' .cancel t).2.1 := by
  intro turn v
  have asks : u.Asks .cancel := asks_of_initiated isOpen initiated nofun
  obtain ⟨calls, tasks, groups, failure, s', cycle, contacts, state, tasksLeft, groupsLeft, told⟩ :=
    attend_polls r initiated asks s
  have toldToCancel : v.ToldToCancel := ⟨congrArg Option.isSome tasksLeft, told⟩
  refine ⟨⟨calls, tasks, groups, failure, s', cycle, contacts, state, tasksLeft, groupsLeft⟩,
    fun past w later => (later.toldToCancel toldToCancel).cancelRequested, ?_⟩
  exact fun r' R alike t h => attend_cancel_agrees alike initiated isOpen h

/-- A remote with tasks that go on, and a backend that refuses to cancel some of them. -/
def refusingRemote (refused : List String) : Remote Unit where
  backend := {
    task := fun href s => (.ok { href, state := some "running" }, s)
    group := fun href s => (.ok { href, memberHrefs := ["/tasks/2/"] }, s)
    members := fun _ s => (.ok [{ href := "/tasks/2/", state := some "running" }], s)
    cancel := fun href s =>
      (if href ∈ refused then .error (.transport "cancel_task" href "timed out") else .ok (), s) }
  operation := { name := "sync", invoke := fun s => (.ok .empty, s) }

/-- Which requests are refused does not show in what is looked up. -/
theorem refusingRemote_lookAlike (refused refused' : List String) :
    (refusingRemote refused).backend.LookAlike (fun _ _ => True)
      (refusingRemote refused').backend where
  task _ _ _ _ := ⟨rfl, trivial⟩
  group _ _ _ _ := ⟨rfl, trivial⟩
  members _ _ _ _ := ⟨rfl, trivial⟩
  cancel _ _ _ _ := trivial

/-- A unit with a task, and a group with three members, the first of which is done. -/
def groupedUnit : WorkUnit where
  tasks := some [{ href := "/tasks/1/" }]
  groups := [{
    href := "/groups/1/"
    members := [{ href := "/tasks/2/", done := some true }, { href := "/tasks/3/" },
      { href := "/tasks/4/" }]
    resolved := true }]
  lifecycle := .ofState .suspended

/-- A refusal in the middle of a group keeps none of the other requests from being made, and nothing
comes of it. -/
theorem cancel_despite_refusal :
    let turn := (groupedUnit.attend (refusingRemote ["/tasks/3/"]) .cancel ()).1
    let granted := groupedUnit.attend (refusingRemote []) .cancel ()
    groupedUnit.isInitiated = true ∧ groupedUnit.state.isFinal = false ∧
      (∃ calls, turn.contacts = ([.cancel "/tasks/1/", .cancel "/tasks/2/", .cancel "/tasks/3/",
        .cancel "/tasks/4/"] ++ calls).map .call) ∧
      turn.answer = granted.1.answer := by
  intro turn granted
  have initiated : groupedUnit.isInitiated = true := by decide +kernel
  have isOpen : groupedUnit.state.isFinal = false := by decide +kernel
  obtain ⟨⟨calls, _, _, _, _, -, contacts, -⟩, -, blind⟩ :=
    cancel_best_effort initiated isOpen (refusingRemote ["/tasks/3/"]) ()
  exact ⟨initiated, isOpen, ⟨calls, contacts⟩,
    (blind (refusingRemote []) _ (refusingRemote_lookAlike _ _) () trivial).1⟩

end WorkUnit

end TaskOrchestration
