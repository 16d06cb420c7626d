import TaskOrchestration.Proofs.Backend.Scripted

/-!
# Scripts are replayed in order

Two calls take states from the scripts of tasks: the lookup of a task, and the lookup of the members
of a group, which goes through one script after the other and stops at the first task that has
nothing to serve (`asked`, `yieldAll`). Whichever way a script is consulted, its states come in the
order in which they were written down, and the last one comes for ever (`takeNext_leftOf`). Outages,
groups and the scripts of other tasks are kept apart from it, so nothing else moves it on
(`after_script`). `scripts_replay` puts this together for any sequence of actions.
-/

namespace TaskOrchestration.ScriptedBackend

/-! ## Consulting scripts -/

/-- Whether the next lookup of the reference is set to fail. -/
def isDown (s : ScriptedBackend) (href : String) : Bool :=
  match s.outages.get? href with
  | some n => 0 < n
  | none => false

/-- Whether the task has a state to serve. -/
def isScripted (s : ScriptedBackend) (href : String) : Bool :=
  match s.taskScripts.get? href with
  | some script => !script.isEmpty
  | none => false

/-- The tasks that a group consists of, as it was served last. -/
def membersOf (s : ScriptedBackend) (group : String) : List String :=
  (s.lastServed? group).elim [] GroupReport.memberHrefs

/-- How often an action consults the script of a task: a lookup of the task does so unless an outage
is set for it, and a lookup of the members of a group as often as the task is among them in front of
the first that has no state to serve. -/
def consultations (href : String) (s : ScriptedBackend) : Action → Nat
  | .call (.task other) => if other = href ∧ s.isDown href = false then 1 else 0
  | .call (.members group) => ((s.membersOf group).takeWhile s.isScripted).count href
  | _ => 0

/-- How often the script of a task is consulted by actions, one after the other. -/
def consulted (href : String) : List Action → ScriptedBackend → Nat
  | [], _ => 0
  | a :: rest, s => consultations href s a + consulted href rest (s.after a)

/-- The tasks whose scripts an action sets out to consult, one after the other. -/
def asked (s : ScriptedBackend) : Action → List String
  | .call (.task href) => if s.isDown href then [] else [href]
  | .call (.members group) => s.membersOf group
  | _ => []

/-- The states that tasks yield, each with its task, up to the first task without one. -/
def yieldAll : List String → ScriptedBackend → List (String × TaskReport)
  | [], _ => []
  | href :: hrefs, s =>
    match s.serveTask href with
    | (.error _, _) => []
    | (.ok state, s) => (href, state) :: yieldAll hrefs s

/-- The states among these that the script of one task yielded. -/
def statesOf (href : String) (yields : List (String × TaskReport)) : List TaskReport :=
  yields.filterMap fun y => if y.1 = href then some y.2 else none

/-- What the script of a task yields to actions, one after the other. -/
def replayed (href : String) : List Action → ScriptedBackend → List TaskReport
  | [], _ => []
  | a :: rest, s => statesOf href (yieldAll (s.asked a) s) ++ replayed href rest (s.after a)

/-- What the two kinds of lookup answer is what they took from the scripts. -/
structure Forthright (s : ScriptedBackend) : Prop where
  rejected : ∀ href, s.isDown href = true →
    (s.task href).1 = .error (.transport "get_task" href "simulated backend outage")
  task : ∀ href state, (s.task href).1 = .ok state ↔
    yieldAll (s.asked (.call (.task href))) s = [(href, state)]
  members : ∀ group states, (s.members group).1 = .ok states ↔
    (s.lastServed? group).isSome = true ∧ states.length = (s.membersOf group).length ∧
      yieldAll (s.asked (.call (.members group))) s = (s.membersOf group).zip states

/-- A request to cancel the task would settle it: such requests are honoured and not refused, and
the task is not done. -/
def Settles (s : ScriptedBackend) (href : String) : Prop :=
  s.honorsCancel = true ∧ s.refusals.get? href = none ∧
    ∀ state rest, s.taskScripts.get? href = some (state :: rest) → state.isDone = false

/-- The action puts another script in the place of the task's. -/
def Rewrites (s : ScriptedBackend) (href : String) : Action → Prop
  | .setTask other _ => other = href
  | .call (.cancel other) => other = href ∧ s.Settles href
  | _ => False

/-- None of these actions, one after the other, puts another script in the place of the task's. -/
def Undisturbed (href : String) : List Action → ScriptedBackend → Prop
  | [], _ => True
  | a :: rest, s => ¬ s.Rewrites href a ∧ Undisturbed href rest (s.after a)

/-! ## One script -/

/-- The states of a script from its `k`-th consultation on, for `count` consultations. -/
def stretch (script : List TaskReport) (k count : Nat) : List (Option TaskReport) :=
  (List.range' k count).map fun i => script[min i (script.length - 1)]?

theorem stretch_add (script : List TaskReport) (k m n : Nat) :
    stretch script k (m + n) = stretch script k m ++ stretch script (k + m) n := by
  unfold stretch
  rw [← List.map_append, List.range'_append_1]

/-- What is left of a script that was consulted `k` times. -/
def leftOf (script : List TaskReport) (k : Nat) : List TaskReport :=
  script.drop (min k (script.length - 1))

/-- A script yields its states in order, and stays at the last. -/
theorem takeNext_leftOf {script : List TaskReport} (nonempty : script ≠ []) (k : Nat) :
    ∃ state, script[min k (script.length - 1)]? = some state ∧
      takeNext (leftOf script k) = some (state, leftOf script (k + 1)) := by
  have pos : 0 < script.length := List.length_pos_iff.mpr nonempty
  have inside : min k (script.length - 1) < script.length := by omega
  refine ⟨script[min k (script.length - 1)], List.getElem?_eq_getElem inside, ?_⟩
  unfold leftOf
  by_cases last : script.length - 1 ≤ k
  · have here : min k (script.length - 1) = script.length - 1 := by omega
    have next : min (k + 1) (script.length - 1) = script.length - 1 := by omega
    have single : script.drop (script.length - 1) = [script[script.length - 1]] := by
      rw [List.drop_eq_getElem_cons (by omega), Nat.sub_add_cancel pos, List.drop_length]
    simp only [here, next, single, takeNext]
  · have here : min k (script.length - 1) = k := by omega
    have next : min (k + 1) (script.length - 1) = k + 1 := by omega
    simp only [here, next]
    rw [List.drop_eq_getElem_cons (show k < script.length by omega),
      List.drop_eq_getElem_cons (show k + 1 < script.length by omega)]
    rfl

theorem takeNext_ne_nil {α : Type} {script left : List α} {a : α}
    (taken : takeNext script = some (a, left)) : script ≠ [] ∧ left ≠ [] := by
  rcases script with _ | ⟨b, _ | ⟨c, rest⟩⟩ <;> simp [takeNext] at taken <;> simp [← taken]

/-- The script of a task has been consulted `k` times. -/
def Consulted (href : String) (script : List TaskReport) (s : ScriptedBackend) (k : Nat) : Prop :=
  s.taskScripts.get? href = some (leftOf script k)

variable {s : ScriptedBackend} {href other : String} {script : List TaskReport} {k : Nat}

theorem get?_setTask (s : ScriptedBackend) (other href : String) (states : List TaskReport) :
    (s.setTask other states).taskScripts.get? href =
      if href = other then some states else s.taskScripts.get? href :=
  Dictionary.get?_insert ..

/-- A task without a state to serve is left alone. -/
theorem serveTask_of_unscripted (bare : s.isScripted href = false) :
    ∃ e, s.serveTask href = (.error e, s) := by
  unfold isScripted at bare
  unfold serveTask
  split at bare
  · next script found =>
    obtain rfl : script = [] := by simpa using bare
    simp [found, takeNext]
  · next missing => simp [missing]

/-- Taking a state from one script leaves it with a state to serve, and leaves all others alone. -/
theorem serveTask_of_scripted (scripted : s.isScripted href = true) :
    ∃ state s', s.serveTask href = (.ok state, s') ∧ s'.isScripted = s.isScripted ∧
      ∀ other, other ≠ href → s'.taskScripts.get? other = s.taskScripts.get? other := by
  unfold isScripted at scripted
  split at scripted
  · next script found =>
    obtain ⟨state, rest, rfl⟩ := List.exists_cons_of_ne_nil (by simpa using scripted)
    obtain ⟨left, taken⟩ := takeNext_cons state rest
    refine ⟨state, s.setTask href left, by simp [serveTask, found, taken], ?_, ?_⟩
    · funext other
      unfold isScripted
      rw [get?_setTask]
      by_cases same : other = href
      · subst same
        simp [found, (takeNext_ne_nil taken).2]
      · simp [same]
    · intro other another
      rw [get?_setTask, if_neg another]
  · cases scripted

/-- A consultation yields the state whose turn it is. -/
theorem Consulted.serveTask (h : Consulted href script s k) (nonempty : script ≠ []) :
    ∃ state s', script[min k (script.length - 1)]? = some state ∧
      s.serveTask href = (.ok state, s') ∧ Consulted href script s' (k + 1) := by
  obtain ⟨state, turn, taken⟩ := takeNext_leftOf nonempty k
  unfold Consulted at h
  refine ⟨state, s.setTask href (leftOf script (k + 1)), turn, ?_, ?_⟩
  · simp [ScriptedBackend.serveTask, h, taken]
  · unfold Consulted
    rw [get?_setTask, if_pos rfl]

theorem Consulted.isScripted (h : Consulted href script s k) (nonempty : script ≠ []) :
    s.isScripted href = true := by
  obtain ⟨_, _, taken⟩ := takeNext_leftOf nonempty k
  unfold Consulted at h
  simp [ScriptedBackend.isScripted, h, (takeNext_ne_nil taken).1]

/-! ## Several scripts in turn -/

theorem serveTasks_cons {state : TaskReport} {s' : ScriptedBackend}
    (served : s.serveTask other = (.ok state, s')) (rest : List String) :
    s.serveTasks (other :: rest) =
      ((s'.serveTasks rest).1.map (state :: ·), (s'.serveTasks rest).2) := by
  simp only [serveTasks, served]
  rcases s'.serveTasks rest with ⟨_ | states, s''⟩ <;> rfl

/-- Scripts that are consulted in turn, some of them perhaps more than once: the script of one task
yields its next states, as many as there are times that its turn comes. -/
theorem Consulted.yieldAll (h : Consulted href script s k) (nonempty : script ≠ [])
    (hrefs : List String) :
    (statesOf href (ScriptedBackend.yieldAll hrefs s)).map some =
        stretch script k ((hrefs.takeWhile s.isScripted).count href) ∧
      Consulted href script (s.serveTasks hrefs).2
        (k + (hrefs.takeWhile s.isScripted).count href) := by
  -- The induction is on the tasks in turn; that a task has a state to serve does not change.
  induction hrefs generalizing s k with
  | nil => exact ⟨rfl, h⟩
  | cons first rest ih =>
    cases scripted : s.isScripted first with
    | false =>
      obtain ⟨e, failed⟩ := serveTask_of_unscripted scripted
      simp [ScriptedBackend.yieldAll, serveTasks, failed, scripted, statesOf, stretch, h]
    | true =>
      obtain ⟨state, s', served, same, frame⟩ := serveTask_of_scripted scripted
      rw [List.takeWhile_cons_of_pos scripted, serveTasks_cons served]
      by_cases own : first = href
      · subst own
        obtain ⟨state', s'', turn, served', h'⟩ := h.serveTask nonempty
        obtain ⟨rfl, rfl⟩ : state = state' ∧ s' = s'' := by
          simpa using served.symm.trans served'
        obtain ⟨yields, consulted⟩ := ih h'
        rw [same] at yields consulted
        rw [List.count_cons_self]
        refine ⟨?_, by rwa [← Nat.add_assoc, Nat.add_right_comm]⟩
        rw [Nat.add_comm _ 1, stretch_add, ← yields]
        simp [ScriptedBackend.yieldAll, served, statesOf, stretch, turn]
      · have h' : Consulted href script s' k := (frame href (Ne.symm own)).trans h
        obtain ⟨yields, consulted⟩ := ih h'
        rw [same] at yields consulted
        rw [List.count_cons_of_ne own]
        refine ⟨?_, consulted⟩
        rw [← yields]
        simp [ScriptedBackend.yieldAll, served, statesOf, own]

/-- States are answered exactly if every script in turn yielded one. -/
theorem serveTasks_eq_ok_iff (hrefs : List String) (s : ScriptedBackend)
    (states : List TaskReport) :
    (s.serveTasks hrefs).1 = .ok states ↔
      states.length = hrefs.length ∧ yieldAll hrefs s = hrefs.zip states := by
  induction hrefs generalizing s states with
  | nil => cases states <;> simp [serveTasks, yieldAll]
  | cons first rest ih =>
    rcases served : s.serveTask first with ⟨_ | state, s'⟩
    · cases states <;> simp [serveTasks, yieldAll, served]
    · rw [serveTasks_cons served]
      cases states with
      | nil => cases (s'.serveTasks rest).1 <;> simp [Except.map]
      | cons a as =>
        have tail : (s'.serveTasks rest).1.map (state :: ·) = .ok (a :: as) ↔
            state = a ∧ (s'.serveTasks rest).1 = .ok as := by
          cases (s'.serveTasks rest).1 <;> simp [Except.map]
        rw [tail, ih]
        simp [yieldAll, served, and_left_comm]

/-! ## Actions -/

theorem checkOutage_of_up (up : s.isDown href = false) (operation : String) :
    s.checkOutage operation href = (.ok (), s) := by
  unfold isDown at up
  unfold checkOutage
  cases outage : s.outages.get? href with
  | none => rfl
  | some n =>
    rw [outage] at up
    exact if_neg (by simpa using up)

theorem checkOutage_of_down (down : s.isDown href = true) (operation : String) :
    ∃ s', s.checkOutage operation href =
        (.error (.transport operation href "simulated backend outage"), s') ∧
      s'.taskScripts = s.taskScripts := by
  unfold isDown at down
  unfold checkOutage
  cases outage : s.outages.get? href with
  | none =>
    rw [outage] at down
    cases down
  | some n =>
    rw [outage] at down
    exact ⟨_, if_pos (by simpa using down), rfl⟩

theorem task_of_up (up : s.isDown href = false) : s.task href = s.serveTask href := by
  unfold task
  rw [checkOutage_of_up up]

theorem task_of_down (down : s.isDown href = true) :
    ∃ s', s.task href = (.error (.transport "get_task" href "simulated backend outage"), s') ∧
      s'.taskScripts = s.taskScripts := by
  obtain ⟨s', failed, same⟩ := checkOutage_of_down down "get_task"
  unfold task
  rw [failed]
  exact ⟨s', rfl, same⟩

theorem asked_task (s : ScriptedBackend) (href : String) :
    s.asked (.call (.task href)) = if s.isDown href then [] else [href] := rfl

theorem group_taskScripts (s : ScriptedBackend) (href : String) :
    (s.group href).2.taskScripts = s.taskScripts := by
  unfold group
  cases down : s.isDown href with
  | true =>
    obtain ⟨s', failed, same⟩ := checkOutage_of_down down "get_task_group"
    rw [failed]
    exact same
  | false =>
    rw [checkOutage_of_up down]
    dsimp only
    unfold serveGroup
    split
    · rfl
    · split <;> rfl

theorem members_eq (s : ScriptedBackend) (group : String)
    (known : (s.lastServed? group).isSome = true) :
    s.members group = s.serveTasks (s.membersOf group) := by
  obtain ⟨report, found⟩ := Option.isSome_iff_exists.mp known
  simp [members, membersOf, found]

/-- A request to cancel leaves the script alone unless it settles the task. -/
theorem cancel_script (kept : ¬ (other = href ∧ s.Settles href)) :
    (s.cancel other).2.taskScripts.get? href = s.taskScripts.get? href := by
  by_cases own : href = other
  · subst own
    have unsettled : ¬ s.Settles href := fun settles => kept ⟨rfl, settles⟩
    unfold cancel
    split
    · rfl
    · next accepted =>
      dsimp only
      split
      · next honors =>
        -- It is neither refused nor ignored, so the task must be done already.
        have : ∃ state rest, s.taskScripts.get? href = some (state :: rest) ∧
            state.isDone = true := by
          simpa [Settles, honors, accepted] using unsettled
        obtain ⟨state, rest, found, done⟩ := this
        simp [settleCancelled, found, done]
      · rfl
  · exact (cancel_spares s own).script

/-- Unless an action rewrites the script of a task, it changes it only by consulting scripts. -/
theorem after_script {a : Action} (kept : ¬ s.Rewrites href a) :
    (s.after a).taskScripts.get? href =
      (s.serveTasks (s.asked a)).2.taskScripts.get? href := by
  cases a with
  | call c =>
    cases c with
    | task other =>
      show (s.task other).2.taskScripts.get? href = _
      cases down : s.isDown other with
      | true =>
        obtain ⟨s', failed, same⟩ := task_of_down down
        simp [asked_task, down, failed, same, serveTasks]
      | false =>
        rw [task_of_up down]
        rcases served : s.serveTask other with ⟨_ | state, s'⟩ <;>
          simp [asked_task, down, serveTasks, served]
    | group other => exact congrArg (Dictionary.get? · href) (group_taskScripts s other)
    | members group =>
      show (s.members group).2.taskScripts.get? href = _
      cases known : s.lastServed? group with
      | none => simp [members, asked, membersOf, known, serveTasks]
      | some report =>
        rw [members_eq s group (by simp [known])]
        rfl
    | cancel other => exact cancel_script kept
  | setTask other states =>
    show (s.setTask other states).taskScripts.get? href = _
    rw [get?_setTask, if_neg (Ne.symm kept)]
    rfl
  | setGroup | breakLookups | refuseCancel => rfl

/-- Of the tasks that an action comes to consult, one with a state to serve is there as often as its
script is consulted. -/
theorem consultations_eq (scripted : s.isScripted href = true) (a : Action) :
    consultations href s a = ((s.asked a).takeWhile s.isScripted).count href := by
  cases a with
  | call c =>
    cases c with
    | task other =>
      cases down : s.isDown href with
      | true =>
        by_cases own : other = href
        · simp [consultations, asked, own, down]
        · by_cases up : s.isDown other <;>
            cases found : s.isScripted other <;> simp [consultations, asked, own, up, found]
      | false =>
        by_cases own : other = href
        · simp [consultations, asked, own, down, scripted]
        · by_cases up : s.isDown other <;>
            cases found : s.isScripted other <;> simp [consultations, asked, own, up, found]
    | group | members | cancel => rfl
  | setTask | setGroup | breakLookups | refuseCancel => rfl

/-- An action that does not rewrite the script of a task takes its next states from it, one for
each consultation. -/
theorem Consulted.act (h : Consulted href script s k) (nonempty : script ≠ []) {a : Action}
    (kept : ¬ s.Rewrites href a) :
    (statesOf href (ScriptedBackend.yieldAll (s.asked a) s)).map some =
        stretch script k (consultations href s a) ∧
      Consulted href script (s.after a) (k + consultations href s a) := by
  rw [consultations_eq (h.isScripted nonempty)]
  obtain ⟨yields, consulted⟩ := h.yieldAll nonempty (s.asked a)
  exact ⟨yields, (after_script kept).trans consulted⟩

/-- Any number of actions take the states from a script in order. -/
theorem Consulted.replayed (h : Consulted href script s k) (nonempty : script ≠ [])
    {actions : List Action} (undisturbed : Undisturbed href actions s) :
    (ScriptedBackend.replayed href actions s).map some =
      stretch script k (consulted href actions s) := by
  induction actions generalizing s k with
  | nil => rfl
  | cons a rest ih =>
    obtain ⟨yields, h'⟩ := h.act nonempty undisturbed.1
    simp only [ScriptedBackend.replayed, ScriptedBackend.consulted, List.map_append]
    rw [yields, ih h' undisturbed.2, stretch_add]

theorem forthright (s : ScriptedBackend) : s.Forthright where
  rejected href down := by
    obtain ⟨s', failed, -⟩ := task_of_down down
    rw [failed]
  task href state := by
    cases down : s.isDown href with
    | true =>
      obtain ⟨s', failed, -⟩ := task_of_down down
      simp [asked_task, down, failed, yieldAll]
    | false =>
      rw [task_of_up down]
      rcases served : s.serveTask href with ⟨_ | state', s'⟩ <;>
        simp [asked_task, down, yieldAll, served]
  members group states := by
    cases known : s.lastServed? group with
    | none => simp [members, known]
    | some report =>
      rw [members_eq s group (by simp [known]), serveTasks_eq_ok_iff]
      simp [asked]

/-- Once a script with a state in it is set for a task, and as long as no other is put in its place,
neither by setting it nor by a request to cancel that is honoured: whatever else is done with the
backend, the script yields a state each time that it is consulted, the `k`-th time the `k`-th state
and the last one from there on. Nothing but the consultations moves it on. What lookups answer is
what they took from the scripts. -/
theorem scripts_replay (s : ScriptedBackend) {href : String} {script : List TaskReport}
    (nonempty : script ≠ []) {actions : List Action}
    (undisturbed : Undisturbed href actions (s.setTask href script)) :
    (replayed href actions (s.setTask href script)).map some =
        (List.range (consulted href actions (s.setTask href script))).map
          (fun k => script[min k (script.length - 1)]?) ∧
      ∀ s : ScriptedBackend, s.Forthright := by
  have h : Consulted href script (s.setTask href script) 0 := by
    unfold Consulted leftOf
    rw [get?_setTask, if_pos rfl, Nat.zero_min, List.drop_zero]
  refine ⟨?_, forthright⟩
  rw [h.replayed nonempty undisturbed, stretch, List.range_eq_range']

/-- A backend with a group that lists one task twice, then a task that is unknown, and then the
first task once more. -/
def doubledBackend : ScriptedBackend :=
  { groupScripts := ⟨[("g1", [{ href := "g1", memberHrefs := ["t1", "t1", "t9", "t1"] }])]⟩ }

/-- A task is looked up three times, the first time in vain. In between its group asks for it twice,
for nothing, since the unknown task fails that lookup, and it is to be cancelled, which is not
honoured. -/
theorem scripts_replay_across_lookups :
    let script : List TaskReport := [{ href := "t1", state := some "waiting" },
      { href := "t1", state := some "running" }, { href := "t1", state := some "completed" }]
    let actions : List Action := [.breakLookups "t1" 1, .call (.task "t1"), .call (.task "t1"),
      .call (.members "g1"), .call (.cancel "t1"), .call (.task "t1")]
    let s := doubledBackend.setTask "t1" script
    script ≠ [] ∧ Undisturbed "t1" actions s ∧
      (replayed "t1" actions s).map some =
        [script[0]?, script[1]?, script[2]?, script[2]?] := by
  intro script actions s
  have nonempty : script ≠ [] := by decide
  have undisturbed : Undisturbed "t1" actions s := by
    simp only [actions, Undisturbed, Rewrites, Settles, not_false_eq_true, true_and, and_true]
    rintro ⟨honors, -⟩
    revert honors
    decide +kernel
  have four : consulted "t1" actions s = 4 := by decide +kernel
  have all := (scripts_replay doubledBackend nonempty undisturbed).1
  rw [four] at all
  exact ⟨nonempty, undisturbed, all⟩

end TaskOrchestration.ScriptedBackend
