import TaskOrchestration.WorkUnit

/-!
# What the progress text tells

The text is one of five, and which one it is can be read off the watch list, whether the work was
started, and the mode of the host (`Watchlist.Told`). Whether a member is started and whether it is
done are independent of each other: a member may be done without ever having been started, and a
group that is not done may have no member that is started. Still, of a list that is not finished
some member is either under way or not yet picked up (`Watchlist.exists_running_or_waiting`), so the
text names one, and the last case of the definition never comes up.
-/

namespace TaskOrchestration

/-- The member is started and not done. -/
def Tracked.UnderWay (m : Tracked) : Prop := m.isStarted = true ∧ m.isDone = false

namespace Watchlist

/-- There are members, and not all of them are done. -/
def Unfinished (v : Watchlist) : Prop := v.isEmpty = false ∧ v.allDone = false

/-- The first member with a property, tasks coming before groups. -/
def First (v : Watchlist) (p : Tracked → Prop) (m : Tracked) : Prop :=
  p m ∧ ∃ before after, v.members = before ++ m :: after ∧ ∀ other ∈ before, ¬ p other

/-- What a text tells of a watch list to the operator of a host. -/
structure Told (v : Watchlist) (initiated : Bool) (host : HostMode) (text : String) : Prop where
  initiating : text = "initiating remote task" ↔ initiated = false
  finished : initiated = true →
    (text = "remote tasks finished" ↔ v.isEmpty = true ∨ v.allDone = true)
  checking : initiated = true → v.Unfinished →
    (text = "checking remote task status" ↔ host = .running)
  /-- A member that is under way is named before any that is still to start. -/
  underWay : initiated = true → v.Unfinished → host ≠ .running →
    (∃ m ∈ v.members, m.UnderWay) →
      ∃ m, v.First Tracked.UnderWay m ∧ text = "waiting for task to finish: " ++ m.label
  toStart : initiated = true → v.Unfinished → host ≠ .running →
    (∀ m ∈ v.members, ¬ m.UnderWay) →
      ∃ m, v.First (fun m => m.isDone = false) m ∧
        text = "waiting for task to start: " ++ m.label
  /-- The search for a member to name never comes back empty-handed. -/
  named : v.Unfinished → v.runningMember?.isSome = true ∨ v.waitingMember?.isSome = true

/-- What a search finds is the first member with the property searched for. -/
theorem first_of_find? {v : Watchlist} {test : Tracked → Bool} {p : Tracked → Prop}
    (decides : ∀ m ∈ v.members, test m = true ↔ p m) {m : Tracked}
    (found : v.members.find? test = some m) : v.First p m := by
  obtain ⟨passes, before, after, split, fail⟩ := List.find?_eq_some_iff_append.mp found
  refine ⟨(decides m (by simp [split])).mp passes, before, after, split, fun other member h => ?_⟩
  have passesToo := (decides other (by simp [split, member])).mpr h
  simpa [passesToo] using fail other member

theorem underWay_iff (m : Tracked) : (m.isStarted && !m.isDone) = true ↔ m.UnderWay := by
  simp [Tracked.UnderWay]

/-- Nothing is under way exactly when the search for such a member fails. -/
theorem runningMember?_eq_none_iff (v : Watchlist) :
    v.runningMember? = none ↔ ∀ m ∈ v.members, ¬ m.UnderWay := by
  unfold runningMember?
  rw [List.find?_eq_none]
  exact forall₂_congr fun m _ => not_congr (underWay_iff m)

theorem unfinished_iff (v : Watchlist) : v.Unfinished ↔ ∃ m ∈ v.members, m.isDone = false := by
  have some_of_member {m : Tracked} (member : m ∈ v.members) : v.isEmpty = false := by
    simpa [isEmpty] using List.ne_nil_of_mem member
  have allDone (nonempty : v.isEmpty = false) :
      v.allDone = false ↔ ∃ m ∈ v.members, m.isDone = false := by
    simp [Watchlist.allDone, nonempty, List.all_eq_false]
  constructor
  · rintro ⟨nonempty, pending⟩
    exact (allDone nonempty).mp pending
  · rintro ⟨m, member, pending⟩
    have nonempty := some_of_member member
    exact ⟨nonempty, (allDone nonempty).mpr ⟨m, member, pending⟩⟩

/-- Without a member under way, the first that is still to start is the first that is not done. -/
theorem first_of_waitingMember? {v : Watchlist} (idle : ∀ m ∈ v.members, ¬ m.UnderWay)
    {m : Tracked} (found : v.waitingMember? = some m) :
    v.First (fun m => m.isDone = false) m := by
  refine first_of_find? (fun other member => ?_) found
  have := idle other member
  unfold Tracked.UnderWay at this
  cases started : other.isStarted <;> simp_all

/-- Of a list that is not finished some member is under way, or else some member is still to
start. -/
theorem exists_running_or_waiting {v : Watchlist} (unfinished : v.Unfinished) :
    (∃ m, v.runningMember? = some m) ∨
      v.runningMember? = none ∧ ∃ m, v.waitingMember? = some m := by
  cases running : v.runningMember? with
  | some m => exact .inl ⟨m, rfl⟩
  | none =>
    refine .inr ⟨rfl, ?_⟩
    obtain ⟨m, member, pending⟩ := v.unfinished_iff.mp unfinished
    have idle := v.runningMember?_eq_none_iff.mp running m member
    have waits : (!m.isStarted && !m.isDone) = true := by
      unfold Tracked.UnderWay at idle
      simp_all
    exact Option.isSome_iff_exists.mp (List.find?_isSome.mpr ⟨m, member, waits⟩)

/-! ## The texts -/

variable {v : Watchlist}

theorem progressText_of_uninitiated (v : Watchlist) (host : HostMode) :
    v.progressText false host = "initiating remote task" := rfl

theorem progressText_of_finished (finished : v.isEmpty = true ∨ v.allDone = true)
    (host : HostMode) : v.progressText true host = "remote tasks finished" := by
  have : (v.isEmpty || v.allDone) = true := by simpa using finished
  simp [progressText, this]

theorem progressText_of_running (unfinished : v.Unfinished) :
    v.progressText true .running = "checking remote task status" := by
  simp [progressText, unfinished.1, unfinished.2]

theorem progressText_of_runningMember (unfinished : v.Unfinished) {m : Tracked}
    (found : v.runningMember? = some m) :
    v.progressText true .suspended = "waiting for task to finish: " ++ m.label := by
  simp [progressText, unfinished.1, unfinished.2, found]

theorem progressText_of_waitingMember (unfinished : v.Unfinished) (idle : v.runningMember? = none)
    {m : Tracked} (found : v.waitingMember? = some m) :
    v.progressText true .suspended = "waiting for task to start: " ++ m.label := by
  simp [progressText, unfinished.1, unfinished.2, idle, found]

/-- Texts with different beginnings are different, whatever follows. -/
theorem append_ne {front text : String} (rest : String) {c : Char}
    (begins : front.toList.head? = some c) (other : text.toList.head? ≠ some c) :
    front ++ rest ≠ text := by
  rintro rfl
  simp [begins] at other

/-- A text that names a member is none of the three that do not. -/
theorem naming_ne {front text : String} (label : String) (begins : front.toList.head? = some 'w')
    (plain : text ∈ ["initiating remote task", "remote tasks finished",
      "checking remote task status"]) : front ++ label ≠ text := by
  refine append_ne label begins ?_
  simp only [List.mem_cons, List.not_mem_nil, or_false] at plain
  rcases plain with rfl | rfl | rfl <;> decide

/-- The text of a list that is not finished, for a host that does not run the step, names a
member. -/
theorem exists_progressText_eq (unfinished : v.Unfinished) :
    ∃ front label, v.progressText true .suspended = front ++ label ∧
      front.toList.head? = some 'w' := by
  rcases exists_running_or_waiting unfinished with ⟨m, found⟩ | ⟨idle, m, found⟩
  · exact ⟨_, m.label, progressText_of_runningMember unfinished found, by decide⟩
  · exact ⟨_, m.label, progressText_of_waitingMember unfinished idle found, by decide⟩

theorem not_unfinished_iff : ¬ v.Unfinished ↔ v.isEmpty = true ∨ v.allDone = true := by
  unfold Unfinished
  cases v.isEmpty <;> simp

theorem progressText_finished_iff (host : HostMode) :
    v.progressText true host = "remote tasks finished" ↔
      v.isEmpty = true ∨ v.allDone = true := by
  refine ⟨fun told => not_unfinished_iff.mp fun unfinished => ?_,
    fun finished => progressText_of_finished finished host⟩
  cases host with
  | running =>
    rw [progressText_of_running unfinished] at told
    exact absurd told (by decide)
  | suspended =>
    obtain ⟨front, label, text, begins⟩ := exists_progressText_eq unfinished
    exact naming_ne label begins (by simp) (text.symm.trans told)

theorem progressText_initiating_iff (v : Watchlist) (initiated : Bool) (host : HostMode) :
    v.progressText initiated host = "initiating remote task" ↔ initiated = false := by
  cases initiated with
  | false => simp [progressText_of_uninitiated]
  | true =>
    refine ⟨fun told => ?_, nofun⟩
    by_cases unfinished : v.Unfinished
    · cases host with
      | running =>
        rw [progressText_of_running unfinished] at told
        exact absurd told (by decide)
      | suspended =>
        obtain ⟨front, label, text, begins⟩ := exists_progressText_eq unfinished
        exact absurd (text.symm.trans told) (naming_ne label begins (by simp))
    · rw [progressText_of_finished (not_unfinished_iff.mp unfinished)] at told
      exact absurd told (by decide)

theorem progressText_checking_iff (unfinished : v.Unfinished) (host : HostMode) :
    v.progressText true host = "checking remote task status" ↔ host = .running := by
  cases host with
  | running => simp [progressText_of_running unfinished]
  | suspended =>
    obtain ⟨front, label, text, begins⟩ := exists_progressText_eq unfinished
    refine ⟨fun told => ?_, nofun⟩
    exact absurd (text.symm.trans told) (naming_ne label begins (by simp))

/-- The text of every watch list is the one that it should be. -/
theorem told_progressText (v : Watchlist) (initiated : Bool) (host : HostMode) :
    v.Told initiated host (v.progressText initiated host) where
  initiating := v.progressText_initiating_iff initiated host
  finished := by
    rintro rfl
    exact progressText_finished_iff host
  checking := by
    rintro rfl unfinished
    exact progressText_checking_iff unfinished host
  underWay := by
    rintro rfl unfinished notRunning ⟨m, member, underWay⟩
    obtain rfl : host = .suspended := by cases host <;> simp_all
    rcases exists_running_or_waiting unfinished with ⟨m, found⟩ | ⟨idle, -⟩
    · exact ⟨m, first_of_find? (fun m _ => underWay_iff m) found,
        progressText_of_runningMember unfinished found⟩
    · exact absurd underWay (v.runningMember?_eq_none_iff.mp idle m member)
  toStart := by
    rintro rfl unfinished notRunning idle
    obtain rfl : host = .suspended := by cases host <;> simp_all
    have nobody := v.runningMember?_eq_none_iff.mpr idle
    rcases exists_running_or_waiting unfinished with ⟨m, found⟩ | ⟨-, m, found⟩
    · exact absurd (nobody.symm.trans found) nofun
    · exact ⟨m, first_of_waitingMember? idle found,
        progressText_of_waitingMember unfinished nobody found⟩
  named unfinished := by
    rcases exists_running_or_waiting unfinished with ⟨m, found⟩ | ⟨-, m, found⟩
    · simp [found]
    · simp [found]

end Watchlist

/-- For every list of tasks and groups, whether or not the work was started, and for either mode of
the host, the progress text is the one of the five that is due, and names the member that is due:
the first under way, else the first that is not done. In particular, an operator is told that the
tasks of a unit are finished exactly when the unit is done. -/
theorem WorkUnit.progressText_told :
    (∀ v initiated host, Watchlist.Told v initiated host (v.progressText initiated host)) ∧
      ∀ (u : WorkUnit) host, u.progressText host = "remote tasks finished" ↔ u.isDone = true := by
  refine ⟨Watchlist.told_progressText, fun u host => ?_⟩
  unfold WorkUnit.progressText WorkUnit.isDone
  cases u.isInitiated with
  | false => simp [Watchlist.progressText_of_uninitiated]
  | true => simp [Watchlist.progressText_finished_iff]

/-- A group without members that was looked up is neither started nor done, so it is still to
start; a task done by its flag is passed over although its state is `running`. -/
example :
    let done : TaskReport := { href := "/tasks/1-aaa/", state := some "running", done := some true }
    let empty : TrackedGroup := { href := "/task-groups/9-ccc/", resolved := true }
    Watchlist.progressText ⟨[done], [empty]⟩ true .suspended =
      "waiting for task to start:  (ID: ccc)" := by decide +kernel

end TaskOrchestration
