import Mathlib.Computability.Language
import TaskOrchestration.Lifecycle

/-!
# The language of a lifecycle

A unit can live in the ways that `lives` lists, as words of events: it is started, suspended and
resumed any number of times, and ends, or it ends without ever being started. Whatever a new
lifecycle is offered, what it accepts of that is the beginning of such a word, and it accepts every
such beginning event by event (`spells_lives`).

The proof gives each state its `future`, the words that can still follow. An event leads on from a
state exactly to the state whose future begins behind it (`cons_mem_future_iff`).
-/

namespace TaskOrchestration.Lifecycle

open scoped Computability

/-! ## Being offered events -/

/-- Offers an event to a lifecycle: the state that it leads to, or why it is not accepted, and the
lifecycle after that. -/
def offer (l : Lifecycle) (event : Event) : Except OrchestrationError State × Lifecycle :=
  match l.accept event with
  | .ok next => (.ok next.state, next)
  | .error e => (.error e, l)

/-- The lifecycle after it was offered events, one after the other. -/
def afterAll (l : Lifecycle) (events : List Event) : Lifecycle :=
  events.foldl (fun l event => (l.offer event).2) l

/-- Those of the events that a lifecycle accepts when it is offered one after the other. -/
def accepted : Lifecycle → List Event → List Event
  | _, [] => []
  | l, event :: rest =>
    match l.offer event with
    | (.ok _, next) => event :: next.accepted rest
    | (.error _, next) => next.accepted rest

/-- The events that end the life of a unit. -/
def EventKind.isLast : EventKind → Bool
  | .complete | .cancel | .fail => true
  | _ => false

/-! ## Lives -/

/-- The words of a single failure. -/
def failures : Language Event := {word | ∃ message, word = [.fail message]}

/-- How the life of a unit that runs can end. -/
def endings : Language Event := {[.complete]} + {[.cancel]} + failures + {[.suspend]} * failures

/-- The lives of a unit from beginning to end. -/
def lives : Language Event :=
  {[.start]} * ({[.suspend, .resume]}∗ * endings) + {[.cancel]} + failures

/-- The words that can follow once a unit is in a state. -/
def State.future : State → Language Event
  | .notStarted => lives
  | .running => {[.suspend, .resume]}∗ * endings
  | .suspended => {[.resume]} * ({[.suspend, .resume]}∗ * endings) + failures
  | .completed | .failed | .cancelled => 1

/-- What becomes of events that a new lifecycle is offered one after the other. -/
structure Spelled (events : List Event) : Prop where
  /-- An event that is not accepted changes nothing. -/
  unchanged : ∀ before event after, events = before ++ event :: after →
    (∃ e, ((afterAll {} before).offer event).1 = .error e) →
      afterAll {} (before ++ [event]) = afterAll {} before
  /-- What is accepted is the beginning of a life. -/
  begins : ∃ life ∈ lives, accepted {} events <+: life
  /-- The beginning of a life is accepted event by event. -/
  whole : ∀ life ∈ lives, events <+: life → accepted {} events = events
  /-- Nothing is accepted after the end. -/
  closed : (∃ event ∈ accepted {} events, event.kind.isLast = true) →
    ∀ event, ∃ e, ((afterAll {} events).offer event).1 = .error e
  /-- A message is there exactly in the state `failed`. -/
  failed : (afterAll {} events).failure.isSome = true ↔ (afterAll {} events).state = .failed
  /-- The message is that of the failure that was accepted. -/
  message : ∀ text, (afterAll {} events).failure = some text ↔ .fail text ∈ accepted {} events

/-! ## One event -/

variable {l : Lifecycle} {s t : State} {event : Event}

/-- An event that leads on from the state is accepted, and a failure leaves its message. -/
theorem offer_of_target (leads : l.state.target? event.kind = some t) :
    l.offer event = (.ok t, { state := t, failure := event.errorMessage? <|> l.failure }) := by
  unfold offer accept State.target
  rw [leads]

theorem offer_of_refused (refused : l.state.target? event.kind = none) :
    l.offer event = (.error (.invalidTransition l.state.name event.kind.name), l) := by
  unfold offer accept State.target
  rw [refused]

/-- An event that is not accepted leaves the lifecycle as it is. -/
theorem offer_of_error {e : OrchestrationError} (refused : (l.offer event).1 = .error e) :
    (l.offer event).2 = l := by
  cases leads : l.state.target? event.kind with
  | none => rw [offer_of_refused leads]
  | some t =>
    rw [offer_of_target leads] at refused
    cases refused

theorem afterAll_cons (l : Lifecycle) (event : Event) (rest : List Event) :
    l.afterAll (event :: rest) = (l.offer event).2.afterAll rest := rfl

theorem accepted_of_target (leads : l.state.target? event.kind = some t) (rest : List Event) :
    l.accepted (event :: rest) = event :: (l.offer event).2.accepted rest := by
  rw [accepted, offer_of_target leads]

theorem accepted_of_refused (refused : l.state.target? event.kind = none) (rest : List Event) :
    l.accepted (event :: rest) = l.accepted rest := by
  rw [accepted, offer_of_refused refused]

/-- The last events are those that lead to a final state. -/
theorem isLast_iff (leads : s.target? event.kind = some t) :
    event.kind.isLast = true ↔ t.isFinal = true := by
  cases s <;> cases event <;> simp_all [State.target?, Event.kind, EventKind.isLast, State.isFinal]
    <;> subst leads <;> rfl

/-- A message comes with exactly those events that lead to the state `failed`. -/
theorem isSome_errorMessage?_iff (leads : s.target? event.kind = some t) :
    event.errorMessage?.isSome = true ↔ t = .failed := by
  cases s <;> cases event <;> simp_all [State.target?, Event.kind, Event.errorMessage?]
    <;> subst leads <;> decide

theorem not_isFinal_of_target (leads : s.target? event.kind = some t) : ¬ s.isFinal = true := by
  intro final
  rw [State.target?_eq_none final] at leads
  cases leads

/-! ## Futures -/

theorem cons_mem_mul_iff {first : Event} {words : Language Event} {word : List Event} :
    event :: word ∈ {[first]} * words ↔ event = first ∧ word ∈ words := by
  rw [Language.mem_mul]
  constructor
  · rintro ⟨_, rfl, rest, member, joined⟩
    obtain ⟨rfl, rfl⟩ := List.cons.inj joined
    exact ⟨rfl, member⟩
  · rintro ⟨rfl, member⟩
    exact ⟨_, rfl, word, member, rfl⟩

theorem cons_mem_singleton_iff {first : Event} {word : List Event} :
    event :: word ∈ ({[first]} : Language Event) ↔ event = first ∧ word = [] :=
  List.cons_eq_cons

theorem cons_mem_failures_iff {word : List Event} :
    event :: word ∈ failures ↔ event.kind = .fail ∧ word = [] := by
  constructor
  · rintro ⟨message, same⟩
    obtain ⟨rfl, rfl⟩ := List.cons.inj same
    exact ⟨rfl, rfl⟩
  · rintro ⟨kind, rfl⟩
    cases event with
    | fail message => exact ⟨message, rfl⟩
    | start | suspend | resume | complete | cancel => cases kind

/-- A unit that runs is suspended or ends. -/
theorem running_future : State.running.future =
    {[.suspend]} * State.suspended.future + {[.complete]} + {[.cancel]} + failures := by
  have turn : ({[.suspend, .resume]} : Language Event) = {[.suspend]} * {[.resume]} := by
    ext word
    rw [Language.mem_mul]
    exact ⟨fun member => ⟨_, rfl, _, rfl, member.symm⟩, fun ⟨_, first, _, second, joined⟩ => by
      rw [← joined, first, second]; rfl⟩
  calc State.running.future
    _ = {[.suspend, .resume]}∗ * endings := rfl
    _ = endings + {[.suspend, .resume]} * State.running.future := by
      rw [← Language.one_add_self_mul_kstar_eq_kstar, add_mul, one_mul, mul_assoc]
      rfl
    _ = endings + {[.suspend]} * ({[.resume]} * State.running.future) := by
      rw [turn, mul_assoc]
    _ = {[.suspend]} * ({[.resume]} * State.running.future + failures) + {[.complete]} +
          {[.cancel]} + failures := by
      rw [endings, mul_add]
      ac_rfl

/-- An event leads on from a state exactly to the state whose future begins behind it. -/
theorem cons_mem_future_iff {word : List Event} :
    event :: word ∈ s.future ↔ ∃ t, s.target? event.kind = some t ∧ word ∈ t.future := by
  cases s with
  | notStarted =>
    show event :: word ∈ lives ↔ _
    unfold lives
    simp only [Language.mem_add, cons_mem_mul_iff, cons_mem_singleton_iff, cons_mem_failures_iff]
    cases event <;> simp [State.target?, Event.kind, State.future, Language.mem_one]
  | running =>
    rw [running_future]
    simp only [Language.mem_add, cons_mem_mul_iff, cons_mem_singleton_iff, cons_mem_failures_iff]
    cases event <;> simp [State.target?, Event.kind, State.future, Language.mem_one]
  | suspended =>
    show event :: word ∈ {[.resume]} * State.running.future + failures ↔ _
    simp only [Language.mem_add, cons_mem_mul_iff, cons_mem_failures_iff]
    cases event <;> simp [State.target?, Event.kind, State.future, Language.mem_one]
  | completed | failed | cancelled =>
    simp [State.target?, State.future, Language.mem_one]

theorem exists_mem_future (s : State) : ∃ word, word ∈ s.future := by
  cases s with
  | notStarted => exact ⟨[.cancel], .inl (.inr rfl)⟩
  | running => exact ⟨[.complete], running_future ▸ .inl (.inl (.inr rfl))⟩
  | suspended => exact ⟨[.fail ""], .inr ⟨"", rfl⟩⟩
  | completed | failed | cancelled => exact ⟨[], rfl⟩

/-! ## Any number of events -/

/-- What a lifecycle accepts, with anything that can follow then, is a word that could follow. -/
theorem accepted_append_mem_future (events : List Event) {rest : List Event}
    (follows : rest ∈ (l.afterAll events).state.future) :
    l.accepted events ++ rest ∈ l.state.future := by
  induction events generalizing l with
  | nil => exact follows
  | cons event events ih =>
    cases leads : l.state.target? event.kind with
    | none =>
      rw [accepted_of_refused leads]
      rw [afterAll_cons, offer_of_refused leads] at follows
      exact ih follows
    | some t =>
      rw [accepted_of_target leads, List.cons_append, cons_mem_future_iff]
      refine ⟨t, leads, ?_⟩
      rw [afterAll_cons] at follows
      have next := ih follows
      rwa [offer_of_target leads] at next ⊢

/-- The beginning of a word that could follow is accepted event by event. -/
theorem accepted_eq_self {events rest : List Event} (follows : events ++ rest ∈ l.state.future) :
    l.accepted events = events := by
  induction events generalizing l with
  | nil => rfl
  | cons event events ih =>
    obtain ⟨t, leads, follows⟩ := cons_mem_future_iff.mp follows
    rw [accepted_of_target leads, offer_of_target leads]
    exact congrArg (event :: ·) (ih follows)

theorem isFinal_afterAll_iff (events : List Event) :
    (l.afterAll events).state.isFinal = true ↔
      l.state.isFinal = true ∨ ∃ event ∈ l.accepted events, event.kind.isLast = true := by
  induction events generalizing l with
  | nil => simp [afterAll, accepted]
  | cons event events ih =>
    rw [afterAll_cons]
    cases leads : l.state.target? event.kind with
    | none =>
      rw [accepted_of_refused leads, offer_of_refused leads]
      exact ih
    | some t =>
      rw [accepted_of_target leads, ih, offer_of_target leads]
      simp [not_isFinal_of_target leads, isLast_iff leads]

/-! ## The message of a failure -/

/-- The lifecycle has a message exactly if it has failed. -/
def Consistent (l : Lifecycle) : Prop := l.failure.isSome = true ↔ l.state = .failed

theorem consistent_new : ({} : Lifecycle).Consistent := ⟨nofun, nofun⟩

/-- A lifecycle that accepts an event has no message yet, so the message is that of the event. -/
theorem Consistent.failure_offer (h : l.Consistent) (leads : l.state.target? event.kind = some t) :
    l.failure = none ∧ (l.offer event).2.failure = event.errorMessage? := by
  have silent : l.failure = none := by
    rw [← Option.not_isSome_iff_eq_none]
    intro told
    exact not_isFinal_of_target leads (by rw [h.mp told]; rfl)
  rw [offer_of_target leads, silent]
  exact ⟨rfl, by cases event.errorMessage? <;> rfl⟩

theorem Consistent.offer (h : l.Consistent) (event : Event) : (l.offer event).2.Consistent := by
  cases leads : l.state.target? event.kind with
  | none => rwa [offer_of_refused leads]
  | some t =>
    unfold Consistent
    rw [(h.failure_offer leads).2, offer_of_target leads]
    exact isSome_errorMessage?_iff leads

theorem Consistent.afterAll (h : l.Consistent) (events : List Event) :
    (l.afterAll events).Consistent := by
  induction events generalizing l with
  | nil => exact h
  | cons event events ih => exact ih (h.offer event)

/-- The message after any number of events is the one from before, or that of a failure that was
accepted. -/
theorem Consistent.failure_afterAll_iff (h : l.Consistent) (events : List Event) (text : String) :
    (l.afterAll events).failure = some text ↔
      l.failure = some text ∨ .fail text ∈ l.accepted events := by
  induction events generalizing l with
  | nil => simp [Lifecycle.afterAll, accepted]
  | cons event events ih =>
    rw [afterAll_cons, ih (h.offer event)]
    cases leads : l.state.target? event.kind with
    | none => rw [accepted_of_refused leads, offer_of_refused leads]
    | some t =>
      obtain ⟨silent, message⟩ := h.failure_offer leads
      have own : event.errorMessage? = some text ↔ .fail text = event := by
        cases event <;> simp [Event.errorMessage?, eq_comm]
      rw [accepted_of_target leads, List.mem_cons, message, silent, own]
      simp

/-! ## The language -/

/-- For every sequence of events: those that a new lifecycle accepts are the beginning of a life,
and all of them are accepted if the whole sequence is one. An event that is not accepted changes
nothing, none is accepted after the end, and there is a message exactly after a failure, which is
its. -/
theorem spells_lives (events : List Event) : Spelled events where
  unchanged := by
    rintro before event after - ⟨e, refused⟩
    unfold afterAll
    rw [List.foldl_concat]
    exact offer_of_error refused
  begins := by
    obtain ⟨rest, follows⟩ := exists_mem_future (afterAll {} events).state
    exact ⟨_, accepted_append_mem_future events follows, List.prefix_append _ _⟩
  whole := by
    rintro life member ⟨rest, rfl⟩
    exact accepted_eq_self (l := {}) member
  closed last event := by
    have final := (isFinal_afterAll_iff events).mpr (.inr last)
    exact ⟨_, congrArg Prod.fst (offer_of_refused (State.target?_eq_none final _))⟩
  failed := consistent_new.afterAll events
  message text := by
    rw [consistent_new.failure_afterAll_iff]
    simp

/-- A unit cannot be resumed before it was started, nor complete while it is suspended, and nothing
follows its failure. -/
example : accepted {} [.resume, .start, .suspend, .complete, .fail "disk full", .resume] =
    [.start, .suspend, .fail "disk full"] := by decide

end TaskOrchestration.Lifecycle
