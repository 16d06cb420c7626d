import TaskOrchestration.Proofs.Backend.Replaying

/-!
# What a simulated outage reaches

An outage that is set for a reference fails the next lookups of it, as many as were set, whatever
else is done in between; then it is over, and no other call ever has a part in it. It reaches the
lookup of a task and the lookup of a group. The third kind of lookup asks for the members of a
group, and passes the outage by, neither failing nor counting it down. `breakLookups_strikes` says
both: the outage strikes the first lookups of the two kinds, and the first of all three kinds
exactly as long as no lookup of members is among these.

That an outage has no part in a call is said by a comparison with the backend on which it is not set
(`mended`): the answer is the same, and so is what becomes of the backend.
-/

namespace TaskOrchestration.ScriptedBackend

/-! ## Calls in the course of an outage -/

/-- What a call that succeeds brings. -/
inductive Report
  | task (state : TaskReport)
  | group (state : GroupReport)
  | members (states : List TaskReport)
  | cancelled

/-- Answers a call of any kind. -/
def perform (c : Call) (s : ScriptedBackend) : Answer ScriptedBackend Report :=
  match c with
  | .task href => ((s.task href).1.map .task, (s.task href).2)
  | .group href => ((s.group href).1.map .group, (s.group href).2)
  | .members href => ((s.members href).1.map .members, (s.members href).2)
  | .cancel href => ((s.cancel href).1.map fun _ => .cancelled, (s.cancel href).2)

/-- The backend on which no outage of the reference is set. -/
def mended (href : String) (s : ScriptedBackend) : ScriptedBackend :=
  { s with outages := s.outages.erase href }

/-- The outage of a reference fails a call, and nothing is changed by the call but the outage. -/
structure Struck (s : ScriptedBackend) (href : String) (c : Call) : Prop where
  failed : (s.perform c).1 = .error (.transport c.name href "simulated backend outage")
  unmoved : (s.perform c).2.mended href = s.mended href

/-- The outage of a reference has no part in what is answered: all is as without the outage, and the
outage lasts as long as before. -/
structure Spared {α : Type} (s : ScriptedBackend) (href : String)
    (ask : ScriptedBackend → Answer ScriptedBackend α) : Prop where
  same : ask (s.mended href) = ((ask s).1, (ask s).2.mended href)
  outage : (ask s).2.outages.get? href = s.outages.get? href

/-- The lookups of a reference: as a task, as a group, and of the members of that group. -/
def lookupsOf (href : String) : List Call := [.task href, .group href, .members href]

/-- The lookups of a reference that look at its outage. -/
def exposedLookupsOf (href : String) : List Call := [.task href, .group href]

/-- Those of the calls that come up in a sequence of actions, each as often as it does. -/
def callsAmong (calls : List Call) (actions : List Action) : List Call :=
  actions.filterMap fun
    | .call c => if c ∈ calls then some c else none
    | _ => none

/-- The outage of a reference strikes a call that is due, and has no part in one that is not. -/
structure StruckIf (due : Prop) (s : ScriptedBackend) (href : String) (c : Call) : Prop where
  struck : due → s.Struck href c
  spared : ¬ due → s.Spared href (perform c)

/-- In a sequence of actions the outage of a reference strikes the first `n` of these calls, and has
no part in any other. -/
def StrikesFirst (href : String) (calls : List Call) (n : Nat) (s : ScriptedBackend)
    (actions : List Action) : Prop :=
  ∀ before c later, actions = before ++ .call c :: later →
    StruckIf (c ∈ calls ∧ (callsAmong calls before).length < n) (s.afterAll before) href c

variable {α : Type} {s : ScriptedBackend} {href other operation : String}
  {ask : ScriptedBackend → Answer ScriptedBackend α}

/-! ## Answers that take no notice of outages -/

/-- A way of answering that takes no notice of outages and changes none. -/
def Heedless (ask : ScriptedBackend → Answer ScriptedBackend α) : Prop :=
  ∀ s outages, ask { s with outages } = ((ask s).1, { (ask s).2 with outages })

theorem serveTask_heedless (href : String) : Heedless (serveTask href) := by
  intro s outages
  unfold serveTask
  dsimp only
  split
  · rfl
  · split <;> rfl

theorem serveGroup_heedless (href : String) : Heedless (serveGroup href) := by
  intro s outages
  unfold serveGroup
  dsimp only
  split
  · rfl
  · split <;> rfl

theorem serveTasks_heedless (hrefs : List String) : Heedless (serveTasks hrefs) := by
  intro s outages
  induction hrefs generalizing s with
  | nil => rfl
  | cons href hrefs ih =>
    simp only [serveTasks, serveTask_heedless href s outages]
    rcases s.serveTask href with ⟨_ | state, s'⟩
    · rfl
    · simp only [ih s']
      rcases s'.serveTasks hrefs with ⟨_ | states, s''⟩ <;> rfl

theorem members_heedless (group : String) : Heedless (members group) := by
  intro s outages
  unfold members lastServed?
  dsimp only
  split
  · exact serveTasks_heedless _ s outages
  · rfl

theorem cancel_heedless (href : String) : Heedless (cancel href) := by
  intro s outages
  unfold cancel settleCancelled
  dsimp only
  repeat' split
  all_goals rfl

theorem Heedless.outages (h : Heedless ask) (s : ScriptedBackend) :
    (ask s).2.outages = s.outages :=
  congrArg (fun answer => answer.2.outages) (h s s.outages)

theorem Heedless.spared (h : Heedless ask) (s : ScriptedBackend) (href : String) :
    s.Spared href ask where
  same := by
    unfold mended
    rw [h s, h.outages s]
  outage := by rw [h.outages s]

/-! ## Lookups that look at an outage -/

/-- Answers unless the next lookup of a reference is set to fail. -/
def guarded (operation href : String) (ask : ScriptedBackend → Answer ScriptedBackend α)
    (s : ScriptedBackend) : Answer ScriptedBackend α :=
  match s.checkOutage operation href with
  | (.error e, s) => (.error e, s)
  | (.ok (), s) => ask s

theorem task_eq_guarded (href : String) :
    task href = guarded "get_task" href (serveTask href) := rfl

theorem group_eq_guarded (href : String) :
    group href = guarded "get_task_group" href (serveGroup href) := rfl

theorem guarded_of_up (up : s.isDown href = false) : guarded operation href ask s = ask s := by
  unfold guarded
  rw [checkOutage_of_up up]

/-- A lookup that is set to fail counts the outage down and does nothing else. -/
theorem guarded_of_down {n : UInt32} (found : s.outages.get? href = some n) (pos : 0 < n) :
    guarded operation href ask s =
      (.error (.transport operation href "simulated backend outage"),
        { s with outages := s.outages.insert href (n - 1) }) := by
  unfold guarded checkOutage
  rw [found]
  dsimp only
  rw [if_pos pos]

theorem get?_mended (s : ScriptedBackend) (href other : String) :
    (s.mended href).outages.get? other = if other = href then none else s.outages.get? other :=
  s.outages.get?_erase href other

theorem mended_insert (s : ScriptedBackend) (href : String) (n : UInt32) :
    ({ s with outages := s.outages.insert href n } : ScriptedBackend).mended href =
      s.mended href := by
  unfold mended
  rw [Dictionary.erase_insert]

theorem mended_insert_of_ne (s : ScriptedBackend) (another : other ≠ href) (n : UInt32) :
    ({ s with outages := s.outages.insert other n } : ScriptedBackend).mended href =
      { s.mended href with outages := (s.mended href).outages.insert other n } := by
  unfold mended
  rw [Dictionary.erase_insert_of_ne s.outages another]

theorem isDown_iff : s.isDown href = true ↔ ∃ n, s.outages.get? href = some n ∧ 0 < n := by
  unfold isDown
  cases s.outages.get? href <;> simp

/-- A lookup looks at no outage but that of its own reference, and takes no notice of that one once
it is over. -/
theorem Heedless.guarded_spared (h : Heedless ask)
    (misses : other ≠ href ∨ s.isDown href = false) :
    s.Spared href (guarded operation other ask) := by
  by_cases another : other = href
  · subst another
    have up := misses.resolve_left (absurd rfl)
    have mended : (s.mended other).isDown other = false := by
      unfold isDown
      rw [get?_mended, if_pos rfl]
    have spared := h.spared s other
    constructor
    · rw [guarded_of_up up, guarded_of_up mended, spared.same]
    · rw [guarded_of_up up, spared.outage]
  · have outage : (s.mended href).outages.get? other = s.outages.get? other := by
      rw [get?_mended, if_neg another]
    cases down : s.isDown other with
    | false =>
      have up : (s.mended href).isDown other = false := by
        unfold isDown at down ⊢
        rwa [outage]
      have spared := h.spared s href
      constructor
      · rw [guarded_of_up down, guarded_of_up up, spared.same]
      · rw [guarded_of_up down, spared.outage]
    | true =>
      obtain ⟨n, found, pos⟩ := isDown_iff.mp down
      constructor
      · rw [guarded_of_down found pos, guarded_of_down (outage.trans found) pos,
          mended_insert_of_ne s another]
      · rw [guarded_of_down found pos]
        exact (Dictionary.get?_insert ..).trans (if_neg (Ne.symm another))

/-- The outage of the reference will fail `n` more lookups. -/
def Lasts (s : ScriptedBackend) (href : String) (n : Nat) : Prop :=
  ∃ left : UInt32, s.outages.get? href = some left ∧ left.toNat = n

variable {n : Nat}

theorem Lasts.isDown_eq_false (h : s.Lasts href 0) : s.isDown href = false := by
  obtain ⟨left, found, ended⟩ := h
  unfold isDown
  rw [found]
  simpa [UInt32.lt_iff_toNat_lt] using ended

/-- As long as an outage lasts, it fails the lookups that look at it, and each of them shortens
it. -/
theorem Lasts.guarded (h : s.Lasts href (n + 1)) (operation : String)
    (ask : ScriptedBackend → Answer ScriptedBackend α) :
    ∃ s', guarded operation href ask s =
        (.error (.transport operation href "simulated backend outage"), s') ∧
      s'.mended href = s.mended href ∧ s'.Lasts href n := by
  obtain ⟨left, found, lasts⟩ := h
  have pos : 0 < left := by
    rw [UInt32.lt_iff_toNat_lt, lasts]
    exact Nat.succ_pos n
  have shorter : (left - 1).toNat = n := by
    rw [UInt32.toNat_sub_of_le left 1 (by rw [UInt32.le_iff_toNat_le, lasts]; simp), lasts]
    simp
  exact ⟨_, guarded_of_down found pos, mended_insert s href _,
    left - 1, (Dictionary.get?_insert ..).trans (if_pos rfl), shorter⟩

/-! ## One call -/

theorem StruckIf.of_struck {due : Prop} {c : Call} (struck : s.Struck href c) (holds : due) :
    StruckIf due s href c := ⟨fun _ => struck, fun undue => absurd holds undue⟩

theorem StruckIf.of_spared {due : Prop} {c : Call} (spared : s.Spared href (perform c))
    (undue : ¬ due) : StruckIf due s href c := ⟨fun holds => absurd holds undue, fun _ => spared⟩

theorem after_call (s : ScriptedBackend) (c : Call) : s.after (.call c) = (s.perform c).2 := by
  cases c <;> rfl

theorem Spared.map (h : s.Spared href ask) (f : α → Report) :
    s.Spared href fun s => ((ask s).1.map f, (ask s).2) where
  same := by
    dsimp only
    rw [h.same]
  outage := h.outage

/-- An outage has no part in a call that does not look at it, and in no call at all once it is
over. -/
theorem perform_spared {c : Call} (misses : c ∉ exposedLookupsOf href ∨ s.isDown href = false) :
    s.Spared href (perform c) := by
  cases c with
  | task other =>
    have misses : other ≠ href ∨ s.isDown href = false :=
      misses.imp_left fun unexposed same => unexposed (by simp [exposedLookupsOf, same])
    have spared : s.Spared href (task other) := (serveTask_heedless other).guarded_spared misses
    exact spared.map .task
  | group other =>
    have misses : other ≠ href ∨ s.isDown href = false :=
      misses.imp_left fun unexposed same => unexposed (by simp [exposedLookupsOf, same])
    have spared : s.Spared href (group other) := (serveGroup_heedless other).guarded_spared misses
    exact spared.map .group
  | members group => exact ((members_heedless group).spared s href).map .members
  | cancel other => exact ((cancel_heedless other).spared s href).map fun _ => .cancelled

/-- The lookups that look at an outage are struck as long as it lasts. -/
theorem Lasts.struck (h : s.Lasts href (n + 1)) {c : Call} (exposed : c ∈ exposedLookupsOf href) :
    s.Struck href c ∧ (s.after (.call c)).Lasts href n := by
  have struck {c : Call} {s' : ScriptedBackend}
      (failed : s.perform c = (.error (.transport c.name href "simulated backend outage"), s'))
      (unmoved : s'.mended href = s.mended href) (left : s'.Lasts href n) :
      s.Struck href c ∧ (s.after (.call c)).Lasts href n := by
    rw [after_call, failed]
    exact ⟨⟨by rw [failed], by rw [failed, unmoved]⟩, left⟩
  simp only [exposedLookupsOf, List.mem_cons, List.not_mem_nil, or_false] at exposed
  rcases exposed with rfl | rfl
  · obtain ⟨s', failed, unmoved, left⟩ := h.guarded "get_task" (serveTask href)
    rw [← task_eq_guarded] at failed
    exact struck (by rw [perform, failed]; rfl) unmoved left
  · obtain ⟨s', failed, unmoved, left⟩ := h.guarded "get_task_group" (serveGroup href)
    rw [← group_eq_guarded] at failed
    exact struck (by rw [perform, failed]; rfl) unmoved left

theorem exists_of_serveTask_error {e : OrchestrationError}
    (failed : (s.serveTask href).1 = .error e) :
    ∃ message, e = .transport "get_task" href message := by
  unfold serveTask at failed
  split at failed
  · exact ⟨_, (Except.error.inj failed).symm⟩
  · split at failed
    · exact ⟨_, (Except.error.inj failed).symm⟩
    · cases failed

/-- Several scripts in turn fail for a task that has nothing to serve. -/
theorem exists_of_serveTasks_error {hrefs : List String} {e : OrchestrationError}
    (failed : (s.serveTasks hrefs).1 = .error e) :
    ∃ href message, e = .transport "get_task" href message := by
  induction hrefs generalizing s with
  | nil => cases failed
  | cons href rest ih =>
    rcases served : s.serveTask href with ⟨e' | state, s'⟩
    · rw [serveTasks, served] at failed
      obtain rfl : e' = e := Except.error.inj failed
      exact ⟨href, exists_of_serveTask_error (congrArg Prod.fst served)⟩
    · rw [serveTasks_cons served] at failed
      rcases later : (s'.serveTasks rest).1 with e' | states
      · rw [later] at failed
        obtain rfl : e' = e := Except.error.inj failed
        exact ih later
      · rw [later] at failed
        cases failed

/-- A lookup of members may fail, but not by an outage. -/
theorem not_struck_members (s : ScriptedBackend) (href : String) :
    ¬ s.Struck href (.members href) := by
  rintro ⟨failed, -⟩
  have failed : (s.members href).1 =
      .error (.transport "get_task_group_members" href "simulated backend outage") := by
    unfold perform at failed
    dsimp only at failed
    rcases answer : (s.members href).1 with e | states
    · rw [answer] at failed
      exact congrArg Except.error (Except.error.inj failed)
    · rw [answer] at failed
      cases failed
  unfold members at failed
  split at failed
  · obtain ⟨_, _, other⟩ := exists_of_serveTasks_error failed
    injection other with operation
    exact absurd operation (by decide)
  · injection failed with failed
    injection failed with _ _ message
    exact absurd message (by decide)

/-! ## Any number of actions -/

variable {calls : List Call} {actions : List Action}

/-- Of the actions that are no calls, only setting it anew changes how long an outage lasts. -/
theorem Lasts.setting (h : s.Lasts href n) {a : Action} (setting : ∀ c, a ≠ .call c)
    (unset : ∀ count, a ≠ .breakLookups href count) : (s.after a).Lasts href n := by
  obtain ⟨left, found, lasts⟩ := h
  refine ⟨left, ?_, lasts⟩
  cases a with
  | call c => exact absurd rfl (setting c)
  | breakLookups other count =>
    have another : href ≠ other := fun same => unset count (same ▸ rfl)
    exact (Dictionary.get?_insert ..).trans ((if_neg another).trans found)
  | setTask | setGroup | refuseCancel => exact found

theorem callsAmong_cons (a : Action) (rest : List Action) :
    callsAmong calls (a :: rest) = callsAmong calls [a] ++ callsAmong calls rest := by
  unfold callsAmong
  rw [← List.filterMap_append, List.singleton_append]

theorem mem_of_mem_callsAmong {c : Call} (member : c ∈ callsAmong calls actions) : c ∈ calls := by
  obtain ⟨a, -, taken⟩ := List.mem_filterMap.mp member
  cases a with
  | call c' =>
    obtain ⟨among, rfl⟩ : c' ∈ calls ∧ c' = c := by simpa using taken
    exact among
  | setTask | setGroup | breakLookups | refuseCancel => cases taken

theorem callsAmong_call (c : Call) :
    callsAmong calls [.call c] = if c ∈ calls then [c] else [] := by
  unfold callsAmong
  split <;> simp_all

theorem callsAmong_setting {a : Action} (setting : ∀ c, a ≠ .call c) :
    callsAmong calls [a] = [] := by
  cases a with
  | call c => exact absurd rfl (setting c)
  | setTask | setGroup | breakLookups | refuseCancel => rfl

theorem strikesFirst_cons (a : Action) (rest : List Action) :
    StrikesFirst href calls n s (a :: rest) ↔
      (∀ c, a = .call c → StruckIf (c ∈ calls ∧ 0 < n) s href c) ∧
      StrikesFirst href calls (n - (callsAmong calls [a]).length) (s.after a) rest := by
  have fewer (before : List Action) : (callsAmong calls (a :: before)).length < n ↔
      (callsAmong calls before).length < n - (callsAmong calls [a]).length := by
    rw [callsAmong_cons, List.length_append, Nat.lt_sub_iff_add_lt']
  constructor
  · intro strikes
    constructor
    · rintro c rfl
      exact strikes [] c rest rfl
    · rintro before c later rfl
      rw [← fewer]
      exact strikes (a :: before) c later rfl
  · rintro ⟨first, strikes⟩ before c later split
    cases before with
    | nil =>
      obtain ⟨rfl, rfl⟩ := List.cons.inj split
      exact first c rfl
    | cons b before =>
      obtain ⟨rfl, rfl⟩ := List.cons.inj split
      rw [fewer]
      exact strikes before c later rfl

theorem Lasts.of_spared (h : s.Lasts href n) {c : Call} (spared : s.Spared href (perform c)) :
    (s.after (.call c)).Lasts href n := by
  obtain ⟨left, found, lasts⟩ := h
  rw [after_call]
  exact ⟨left, spared.outage.trans found, lasts⟩

/-- A call that does not look at an outage, or comes when it is over, leaves it as it is. -/
theorem Lasts.not_due (h : s.Lasts href n) {c : Call}
    (misses : c ∉ exposedLookupsOf href ∨ n = 0) :
    s.Spared href (perform c) ∧ (s.after (.call c)).Lasts href n := by
  have spared : s.Spared href (perform c) := by
    rcases misses with unexposed | rfl
    · exact perform_spared (.inl unexposed)
    · exact perform_spared (.inr h.isDown_eq_false)
  exact ⟨spared, h.of_spared spared⟩

/-- A call is struck if it is due, and counted down, unless it asks for members while the outage
lasts. -/
theorem Lasts.struckIf_iff (h : s.Lasts href n) (exposed : exposedLookupsOf href ⊆ calls)
    (within : calls ⊆ lookupsOf href) (c : Call) :
    (StruckIf (c ∈ calls ∧ 0 < n) s href c ↔
      .members href ∉ (callsAmong calls [.call c]).take n) ∧
    (.members href ∉ (callsAmong calls [.call c]).take n →
      (s.after (.call c)).Lasts href (n - (callsAmong calls [.call c]).length)) := by
  rw [callsAmong_call]
  by_cases counted : c ∈ calls
  · rw [if_pos counted]
    cases n with
    | zero =>
      obtain ⟨spared, left⟩ := h.not_due (.inr rfl)
      exact ⟨iff_of_true (.of_spared spared fun due => Nat.lt_irrefl 0 due.2) List.not_mem_nil,
        fun _ => left⟩
    | succ n =>
      have due : c ∈ calls ∧ 0 < n + 1 := ⟨counted, Nat.succ_pos n⟩
      have kinds : c ∈ exposedLookupsOf href ∨ c = .members href := by
        simpa [lookupsOf, exposedLookupsOf, or_assoc] using within counted
      rcases kinds with direct | rfl
      · obtain ⟨struck, left⟩ := h.struck direct
        have other : .members href ≠ c := by
          rintro rfl
          simp [exposedLookupsOf] at direct
        exact ⟨iff_of_true (.of_struck struck due) (by simpa using other), fun _ => left⟩
      · have asks : .members href ∈ [Call.members href].take (n + 1) := by simp
        have passes : ¬ StruckIf (Call.members href ∈ calls ∧ 0 < n + 1) s href (.members href) :=
          fun meets => not_struck_members s href (meets.struck due)
        exact ⟨iff_of_false passes fun clean => clean asks, fun clean => absurd asks clean⟩
  · rw [if_neg counted]
    obtain ⟨spared, left⟩ := h.not_due (.inl fun direct => counted (exposed direct))
    exact ⟨iff_of_true (.of_spared spared fun due => counted due.1) (by simp), fun _ => left⟩

/-- The first of these calls are struck exactly as long as none of them asks for members. -/
theorem Lasts.strikesFirst_iff (h : s.Lasts href n) (exposed : exposedLookupsOf href ⊆ calls)
    (within : calls ⊆ lookupsOf href) (unset : ∀ count, .breakLookups href count ∉ actions) :
    StrikesFirst href calls n s actions ↔ .members href ∉ (callsAmong calls actions).take n := by
  -- The induction is on the actions; what is left of the outage is carried along.
  induction actions generalizing s n with
  | nil => exact ⟨fun _ => by simp [callsAmong], fun _ before _ _ split => by simp at split⟩
  | cons a rest ih =>
    have later (count : UInt32) : .breakLookups href count ∉ rest := fun member =>
      unset count (List.mem_cons_of_mem a member)
    rw [strikesFirst_cons, callsAmong_cons a rest, List.take_append, List.mem_append, not_or]
    by_cases call : ∃ c, a = .call c
    · obtain ⟨c, rfl⟩ := call
      obtain ⟨meets, next⟩ := h.struckIf_iff exposed within c
      have first : (∀ c', Action.call c = .call c' →
          StruckIf (c' ∈ calls ∧ 0 < n) s href c') ↔
          StruckIf (c ∈ calls ∧ 0 < n) s href c := by
        simp
      rw [first, meets]
      exact and_congr_right fun clean => ih (next clean) later
    · have setting (c : Call) : a ≠ .call c := fun same => call ⟨c, same⟩
      have next : (s.after a).Lasts href n := h.setting setting fun count same =>
        unset count (same ▸ List.mem_cons_self)
      rw [callsAmong_setting setting]
      refine and_congr ⟨fun _ => by simp, fun _ c same => absurd same (setting c)⟩ ?_
      exact ih next later

/-- An outage that is set for some number of lookups of a reference fails exactly the first of these
lookups, as many as that, and has no part in any other call, until it is set anew: of the lookups as
a task or as a group. Of all its lookups it fails exactly the first if and only if none of them asks
for members. -/
theorem breakLookups_strikes (s : ScriptedBackend) (href : String) (n : UInt32)
    {actions : List Action} (unset : ∀ count, .breakLookups href count ∉ actions) :
    StrikesFirst href (exposedLookupsOf href) n.toNat (s.breakLookups href n) actions ∧
    (StrikesFirst href (lookupsOf href) n.toNat (s.breakLookups href n) actions ↔
      .members href ∉ (callsAmong (lookupsOf href) actions).take n.toNat) := by
  have lasts : (s.breakLookups href n).Lasts href n.toNat :=
    ⟨n, (Dictionary.get?_insert ..).trans (if_pos rfl), rfl⟩
  have within : exposedLookupsOf href ⊆ lookupsOf href := by
    simp [exposedLookupsOf, lookupsOf]
  refine ⟨(lasts.strikesFirst_iff (List.Subset.refl _) within unset).mpr fun member => ?_,
    lasts.strikesFirst_iff within (List.Subset.refl _) unset⟩
  simpa [exposedLookupsOf] using mem_of_mem_callsAmong (List.mem_of_mem_take member)

/-- A backend with a group of one task. -/
def staffedBackend : ScriptedBackend where
  taskScripts := ⟨[("m1", [{ href := "m1", state := some "running" }])]⟩
  groupScripts := ⟨[("g1", [{ href := "g1", memberHrefs := ["m1"] }])]⟩

/-- An outage for two lookups, which come as a task and as a group, with a cancellation and a lookup
of another task in between. The members are asked for when it is over. -/
theorem breakLookups_strikes_before_members :
    let actions : List Action := [.call (.task "g1"), .call (.cancel "g1"), .call (.task "m1"),
      .call (.group "g1"), .call (.members "g1"), .call (.group "g1")]
    (∀ count, .breakLookups "g1" count ∉ actions) ∧
      StrikesFirst "g1" (lookupsOf "g1") 2 (staffedBackend.breakLookups "g1" 2) actions := by
  intro actions
  have unset (count : UInt32) : .breakLookups "g1" count ∉ actions := by simp [actions]
  have clean : .members "g1" ∉ (callsAmong (lookupsOf "g1") actions).take 2 := by decide
  exact ⟨unset, (breakLookups_strikes staffedBackend "g1" 2 unset).2.mpr clean⟩

/-- An outage for one lookup lets the members through, and fails the lookup of the group behind
that. -/
theorem members_in_spite_of_outage :
    let s := staffedBackend.breakLookups "g1" 1
    ¬ StrikesFirst "g1" (lookupsOf "g1") 1 s [.call (.members "g1"), .call (.group "g1")] ∧
      (s.members "g1").1.toOption = some [{ href := "m1", state := some "running" }] ∧
      ((s.members "g1").2.group "g1").1.toOption = none := by
  intro s
  refine ⟨fun strikes => ?_, by decide +kernel, by decide +kernel⟩
  have first := strikes [] (.members "g1") [.call (.group "g1")] rfl
  exact not_struck_members s "g1" (first.struck (by decide))

end TaskOrchestration.ScriptedBackend
