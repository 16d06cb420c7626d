import TaskOrchestration.Proofs.WorkUnit.Counting
import TaskOrchestration.Proofs.WorkUnit.Coherence

/-!
# Pauses follow the schedule

`PollingSettings.Due` says what the settings of polling provide for after a number of polls, and a
schedule made of them gives just that (`ofSettings_due`). A call that asks its host to wait suggests
the delay that is due after the polls so far (`Coherent.serve_delay`). As that number never goes
down in the life of a unit (`chronicle_paced`), delays that are listed in ascending order are
suggested in ascending order.
-/

namespace TaskOrchestration

variable {σ : Type}

/-! ## The schedule -/

/-- This delay, in milliseconds, is what the settings provide for after `total` polls. -/
structure PollingSettings.Due (p : PollingSettings) (total : UInt32) (delayMs : UInt64) : Prop where
  /-- Every interval serves for a fixed number of polls, at least for one, and the last one from
  then on. -/
  interval : p.intervalsMs ≠ [] →
    p.intervalsMs[min (total.toNat / max p.attemptsBeforeNextInterval.toNat 1)
      (p.intervalsMs.length - 1)]? = some delayMs
  /-- Without intervals there is nothing to wait for. -/
  immediate : p.intervalsMs = [] → delayMs = 0

/-- Delays that are listed in ascending order get longer with the number of polls. -/
theorem PollingSettings.Due.mono {p : PollingSettings} {total total' : UInt32}
    {delayMs delayMs' : UInt64} (h : p.Due total delayMs) (h' : p.Due total' delayMs')
    (ascending : p.intervalsMs.Pairwise (· ≤ ·)) (later : total ≤ total') : delayMs ≤ delayMs' := by
  by_cases empty : p.intervalsMs = []
  · rw [h.immediate empty, h'.immediate empty]
    exact UInt64.le_refl 0
  · obtain ⟨inside, found⟩ := List.getElem?_eq_some_iff.mp (h.interval empty)
    obtain ⟨inside', found'⟩ := List.getElem?_eq_some_iff.mp (h'.interval empty)
    have order : min (total.toNat / max p.attemptsBeforeNextInterval.toNat 1)
        (p.intervalsMs.length - 1) ≤
          min (total'.toNat / max p.attemptsBeforeNextInterval.toNat 1)
            (p.intervalsMs.length - 1) := by
      have := Nat.div_le_div_right (c := max p.attemptsBeforeNextInterval.toNat 1)
        (UInt32.le_iff_toNat_le.mp later)
      omega
    rw [← found, ← found']
    rcases Nat.lt_or_eq_of_le order with before | same
    · exact List.pairwise_iff_getElem.mp ascending _ _ inside inside' before
    · simp only [same, UInt64.le_refl]

namespace Schedule

/-- At least one poll is spent on each interval, so that nothing is divided by zero. -/
theorem ofSettings_pollsPerInterval (p : PollingSettings) :
    (ofSettings p).pollsPerInterval.toNat = max p.attemptsBeforeNextInterval.toNat 1 := by
  unfold ofSettings make
  split
  · next some =>
    have := UInt32.lt_iff_toNat_lt.mp some
    show p.attemptsBeforeNextInterval.toNat = _
    simp only [UInt32.toNat_zero] at this
    omega
  · next none =>
    have := mt UInt32.lt_iff_toNat_lt.mpr none
    show 1 = _
    simp only [UInt32.toNat_zero] at this
    omega

theorem ofSettings_intervalsMs (p : PollingSettings) :
    (ofSettings p).intervalsMs = p.intervalsMs := by
  unfold ofSettings make
  split <;> rfl

/-- The schedule of the settings gives what the settings provide for. -/
theorem ofSettings_due (p : PollingSettings) (total : UInt32) :
    p.Due total ((ofSettings p).delayAfter total) := by
  unfold delayAfter
  rw [ofSettings_intervalsMs, UInt32.toNat_div, ofSettings_pollsPerInterval]
  constructor
  · intro nonempty
    have := List.length_pos_iff.mpr nonempty
    generalize total.toNat / max p.attemptsBeforeNextInterval.toNat 1 = turn
    by_cases inside : turn < p.intervalsMs.length
    · rw [Nat.min_eq_left (by omega), List.getElem?_eq_getElem inside]
    · -- The fallback of the schedule is the interval to which the settings cut the index off.
      have outside : p.intervalsMs[turn]? = none := List.getElem?_eq_none (by omega)
      rw [Nat.min_eq_right (by omega), outside, List.getLast?_eq_getElem?,
        List.getElem?_eq_getElem (by omega)]
      rfl
  · intro empty
    rw [empty]
    rfl

end Schedule

/-! ## Pauses -/

/-- A pause is what a call says when it asks the host to wait. -/
theorem Episode.pause?_eq_some {found : Lifecycle.State} {q : Request} {turn : Turn} {p : Pause}
    (paused : (Episode.call found q turn).pause? = some p) :
    turn.answer = .ok (.suspend p.delayMs) ∧ p.polls = turn.record.pollCounters.total := by
  unfold pause? at paused
  dsimp only at paused
  split at paused
  · next delayMs suspended =>
    obtain rfl := Option.some.inj paused
    exact ⟨suspended, rfl⟩
  · cases paused

/-- From `start` polls on, the unit goes on polling and its pauses keep to the schedule. -/
structure Schedule.Paces (schedule : Schedule) (start : UInt32) (pauses : List Pause) : Prop where
  onTime : ∀ p ∈ pauses, p.delayMs = schedule.delayAfter p.polls
  forward : (start :: pauses.map Pause.polls).Pairwise (· ≤ ·)

namespace Schedule.Paces

variable {schedule : Schedule} {start next : UInt32} {pauses : List Pause}

theorem nil (schedule : Schedule) (start : UInt32) : schedule.Paces start [] where
  onTime _ member := absurd member List.not_mem_nil
  forward := List.pairwise_singleton _ _

/-- What holds from some time on holds from any time before. -/
theorem of_le (h : schedule.Paces next pauses) (later : start ≤ next) :
    schedule.Paces start pauses where
  onTime := h.onTime
  forward :=
    have ⟨after, ordered⟩ := List.pairwise_cons.mp h.forward
    List.pairwise_cons.mpr ⟨fun n member => UInt32.le_trans later (after n member), ordered⟩

/-- A pause that is on time may come first. -/
theorem cons {p : Pause} (h : schedule.Paces p.polls pauses)
    (onTime : p.delayMs = schedule.delayAfter p.polls) :
    schedule.Paces p.polls (p :: pauses) where
  onTime := List.forall_mem_cons.mpr ⟨onTime, h.onTime⟩
  forward :=
    have ⟨after, _⟩ := List.pairwise_cons.mp h.forward
    List.pairwise_cons.mpr ⟨List.forall_mem_cons.mpr ⟨UInt32.le_refl _, after⟩, h.forward⟩

/-- On a schedule that lists its delays in ascending order, pauses get no shorter. -/
theorem ascending {settings : PollingSettings} (h : (ofSettings settings).Paces start pauses)
    (ascending : settings.intervalsMs.Pairwise (· ≤ ·)) :
    (pauses.map Pause.delayMs).Pairwise (· ≤ ·) := by
  have ordered := List.pairwise_map.mp (List.pairwise_cons.mp h.forward).2
  refine List.pairwise_map.mpr (ordered.imp_of_mem fun {p p'} member member' later => ?_)
  rw [h.onTime p member, h.onTime p' member']
  exact (ofSettings_due settings p.polls).mono (ofSettings_due settings p'.polls) ascending later

end Schedule.Paces

/-- Counting a poll takes none back. -/
theorem PollCounters.le_afterPoll (c : PollCounters) (ended : PollEnd) :
    c.total ≤ (c.afterPoll ended).total := by
  rw [afterPoll_total, UInt32.le_iff_toNat_le, toNat_saturatingSucc]
  have := c.total.toNat_lt
  have size : UInt32.size = 4294967296 := rfl
  omega

namespace WorkUnit

/-- No call takes back a poll. -/
theorem serve_total_le (r : Remote σ) (q : Request) (u : WorkUnit) (s : σ) :
    u.polls.total ≤ (u.serve r q s).1.unit.polls.total := by
  rw [(serve_counts r q u s).polls]
  cases u.pollEnd? r q s with
  | none => exact UInt32.le_refl _
  | some ended => exact u.polls.le_afterPoll ended

/-- A call that asks its host to wait suggests the delay for the number of polls it leaves. -/
theorem Ending.delay {w v : WorkUnit} {failure : Option OrchestrationError} {delayMs : UInt64}
    (ends : Ending w failure (.ok (.suspend delayMs)) v) :
    delayMs = v.policy.schedule.delayAfter v.polls.total := by
  cases ends with
  | waiting | tolerated => rfl

/-- A call that asks nothing of the remote does not ask the host to wait. -/
theorem Coherent.serve_of_idle_ne_suspend {u : WorkUnit} (h : Coherent u) (r : Remote σ)
    {q : Request} (idle : ¬ u.Asks q) (s : σ) (delayMs : UInt64) :
    (u.serve r q s).1.result ≠ .ok (.suspend delayMs) := by
  rcases idle_cases idle with ended | rfl | ⟨isOpen, uninitiated, rfl⟩
  · rw [serve_of_final r ended]
    match q with
    | .run .skip | .run .execute | .cancel => exact nofun
  · exact nofun
  · rw [cancel_of_notStarted r uninitiated (h.notStarted_of_uninitiated isOpen uninitiated)]
    exact nofun

/-- A call that asks its host to wait suggests the delay that is due after all polls so far. -/
theorem Coherent.serve_delay {u : WorkUnit} (h : Coherent u) (r : Remote σ) (q : Request) (s : σ)
    {delayMs : UInt64} (suspended : (u.serve r q s).1.result = .ok (.suspend delayMs)) :
    delayMs = u.policy.schedule.delayAfter (u.serve r q s).1.unit.polls.total := by
  by_cases asks : u.Asks q
  · obtain ⟨w, -, ends, -⟩ :=
      serve_ending r asks.isOpen (h.started_iff asks.isOpen) asks.notSkipped asks.tracked s
    rw [suspended] at ends
    rw [ends.delay, (serve_counts r q u s).policy]
  · exact absurd suspended (h.serve_of_idle_ne_suspend r asks s delayMs)

/-- All pauses of a unit and of those taken up from it keep to the schedule that they share. -/
theorem chronicle_paced (r : Remote σ) {schedule : Schedule} {moves : List Move}
    (shared : ∀ policy, .takeUp policy ∈ moves → policy.schedule = schedule) {u : WorkUnit}
    (h : Coherent u) (scheduled : u.policy.schedule = schedule) (s : σ) :
    ∃ episodes v s', chronicle r moves u s = .ok (episodes, v, s') ∧
      schedule.Paces u.polls.total (episodes.filterMap Episode.pause?) := by
  induction moves generalizing u s with
  | nil => exact ⟨[], u, s, rfl, .nil schedule _⟩
  | cons move rest ih =>
    replace ih := @ih fun policy member => shared policy (List.mem_cons_of_mem _ member)
    cases move with
    | call q =>
      have left := attend_unit r q u s
      have kept : (u.attend r q s).2.1.policy = u.policy := by
        rw [left]
        exact (serve_counts r q u s).policy
      obtain ⟨episodes, v, s', told, paced⟩ := ih (u := (u.attend r q s).2.1)
        (by rw [left]; exact h.serve r q s) (by rw [kept, scheduled]) (u.attend r q s).2.2
      have later : u.polls.total ≤ (u.attend r q s).2.1.polls.total := by
        rw [left]
        exact serve_total_le r q u s
      refine ⟨_, v, s', chronicle_call q told, ?_⟩
      -- All later pauses come after at least as many polls as the one of this call, if it has one.
      cases paused : Episode.pause? (.call u.state q (u.attend r q s).1) with
      | none =>
        rw [List.filterMap_cons_none paused]
        exact paced.of_le later
      | some p =>
        obtain ⟨suspended, polls⟩ := Episode.pause?_eq_some paused
        replace polls : p.polls = (u.attend r q s).2.1.polls.total := polls
        rw [attend_answer] at suspended
        have due := h.serve_delay r q s suspended
        rw [scheduled, ← left, ← polls] at due
        rw [← polls] at paced later
        rw [List.filterMap_cons_some paused]
        exact (paced.cons due).of_le later
    | takeUp policy =>
      have coherent : Coherent (ofRecord policy u.record) :=
        h.reload (ofRecordJson_toJson policy u.record)
      obtain ⟨episodes, v, s', told, paced⟩ := ih coherent (shared policy List.mem_cons_self) s
      exact ⟨_, v, s', chronicle_takeUp policy told, paced⟩

/-- Whatever the remote answers, and whatever calls and reloads a host makes of a fresh unit, with
the same settings of polling for each unit that it takes up: every pause that a call asks for is the
one that the settings provide for after the polls so far, which is found without a division by zero,
and if the settings list their intervals in ascending order, no pause is shorter than one before
it. -/
theorem pauses_follow_settings (r : Remote σ) (settings : PollingSettings) {policy : Policy}
    (scheduled : policy.schedule = .ofSettings settings) {moves : List Move}
    (shared : ∀ policy, .takeUp policy ∈ moves → policy.schedule = .ofSettings settings) (s : σ) :
    policy.schedule.pollsPerInterval.toNat = max settings.attemptsBeforeNextInterval.toNat 1 ∧
      ∃ episodes v s', chronicle r moves { policy } s = .ok (episodes, v, s') ∧
        (∀ p ∈ episodes.filterMap Episode.pause?, settings.Due p.polls p.delayMs) ∧
        (settings.intervalsMs.Pairwise (· ≤ ·) →
          ((episodes.filterMap Episode.pause?).map Pause.delayMs).Pairwise (· ≤ ·)) := by
  obtain ⟨episodes, v, s', told, paced⟩ :=
    chronicle_paced r shared (u := { policy }) (.fresh policy) scheduled s
  refine ⟨by rw [scheduled, Schedule.ofSettings_pollsPerInterval], episodes, v, s', told,
    fun p member => ?_, paced.ascending⟩
  rw [paced.onTime p member]
  exact Schedule.ofSettings_due settings p.polls

/-- Settings that spend no poll on an interval are read as if they spent one. A unit under them
waits for the first interval before its first poll and for the last one from then on, also when it
is taken up anew and cancelled. -/
theorem pauses_follow_settings_without_attempts :
    let r := Remote.saying (.ok { href := "/tasks/1/", state := some "running" })
    let settings : PollingSettings := { intervalsMs := [500, 1000], attemptsBeforeNextInterval := 0 }
    let policy := ({} : Policy).withSettings { polling := settings }
    let moves : List Move :=
      [.call (.run .execute), .call (.run .execute), .takeUp policy, .call .cancel]
    let pauses : List Pause := [⟨0, 500⟩, ⟨1, 1000⟩, ⟨2, 1000⟩]
    policy.schedule = .ofSettings settings ∧
      (∀ policy, .takeUp policy ∈ moves → policy.schedule = .ofSettings settings) ∧
      policy.schedule.pollsPerInterval.toNat = max settings.attemptsBeforeNextInterval.toNat 1 ∧
      (∃ episodes v s', chronicle r moves { policy } () = .ok (episodes, v, s') ∧
        episodes.filterMap Episode.pause? = pauses) ∧
      (∀ p ∈ pauses, settings.Due p.polls p.delayMs) ∧
      (pauses.map Pause.delayMs).Pairwise (· ≤ ·) := by
  intro r settings policy moves pauses
  have scheduled : policy.schedule = .ofSettings settings := rfl
  have shared : ∀ policy, .takeUp policy ∈ moves → policy.schedule = .ofSettings settings := by
    intro policy member
    simp only [moves, List.mem_cons, List.not_mem_nil, reduceCtorEq, false_or, or_false,
      Move.takeUp.injEq] at member
    rw [member, scheduled]
  obtain ⟨polls, episodes, v, s', told, due, ascending⟩ :=
    pauses_follow_settings r settings scheduled shared ()
  have told_nil (u : WorkUnit) (s : Unit) : chronicle r [] u s = .ok ([], u, s) := rfl
  have told' := chronicle_call (r := r) (u := { policy }) (s := ()) (.run .execute)
    (chronicle_call (.run .execute)
      (chronicle_takeUp policy (chronicle_call .cancel (told_nil _ _))))
  have paused : episodes.filterMap Episode.pause? = pauses := by
    obtain rfl := (Prod.mk.inj (Except.ok.inj (told.symm.trans told'))).1
    decide +kernel
  rw [paused] at due ascending
  exact ⟨scheduled, shared, polls, ⟨episodes, v, s', told, paused⟩, due, ascending (by decide)⟩

end WorkUnit

end TaskOrchestration
