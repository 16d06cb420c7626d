import TaskOrchestration.Proofs.WorkUnit.Histories

/-!
# Skips and late calls leave no trace

A run to be skipped changes nothing, and neither does anything that is done with a unit that has
ended; a unit that is taken up from the record of one that has ended has ended as well
(`chronicle_of_final`). `chronicle_traceless` compares two lives of a unit: one with such moves, and
one from which they are left out.
-/

namespace TaskOrchestration

variable {σ : Type}

/-- What is seen of a move on a unit that has ended: nothing is asked of the remote, a run is
refused and a call to cancel is told that all is done. -/
inductive Episode.Belated : Episode → Prop
  | skip {found : Lifecycle.State} {turn : Turn} (skipped : turn.answer = .ok .skipped)
      (silent : turn.contacts = []) : Belated (.call found (.run .skip) turn)
  | execute {found : Lifecycle.State} {turn : Turn}
      (refused : turn.answer = .error (.invalidTransition found.name "execute"))
      (silent : turn.contacts = []) : Belated (.call found (.run .execute) turn)
  | cancel {found : Lifecycle.State} {turn : Turn} (done : turn.answer = .ok .done)
      (silent : turn.contacts = []) : Belated (.call found .cancel turn)
  | takeUp {found : Lifecycle.State} {policy : Policy} : Belated (.takeUp found policy)

theorem Episode.Belated.contacts {e : Episode} (h : e.Belated) : e.contacts = [] := by
  cases h with
  | skip _ silent | execute _ silent | cancel _ silent => exact silent
  | takeUp => rfl

/-! ## What is left out -/

section Effective

variable {e : Episode} {episodes : List Episode}

/-- Nothing counts that comes after the end. -/
theorem effective_of_closed (closed : ∀ e ∈ episodes, e.isOpen = false) :
    effective episodes = [] ∧ episodes.dropWhile Episode.isOpen = episodes := by
  cases episodes with
  | nil => exact ⟨rfl, rfl⟩
  | cons e rest =>
    have head := closed e List.mem_cons_self
    unfold effective
    rw [List.takeWhile_cons_of_neg (by rw [head]; decide),
      List.dropWhile_cons_of_neg (by rw [head]; decide)]
    exact ⟨rfl, rfl⟩

theorem effective_cons_of_skip (isOpen : e.isOpen = true) (skip : e.isSkip = true) :
    effective (e :: episodes) = effective episodes := by
  unfold effective
  rw [List.takeWhile_cons_of_pos isOpen, List.filter_cons_of_neg (by rw [skip]; decide)]

theorem effective_cons_of_effect (isOpen : e.isOpen = true) (effect : e.isSkip = false) :
    effective (e :: episodes) = e :: effective episodes := by
  unfold effective
  rw [List.takeWhile_cons_of_pos isOpen, List.filter_cons_of_pos (by rw [effect]; rfl)]

end Effective

namespace WorkUnit

/-! ## Chronicles -/

section Steps

variable {r : Remote σ} {u v : WorkUnit} {s s' : σ} {rest : List Move} {episodes : List Episode}

/-- A chronicle goes on with the unit and the remote that a call leaves. -/
theorem chronicle_call (q : Request)
    (later : chronicle r rest (u.attend r q s).2.1 (u.attend r q s).2.2 = .ok (episodes, v, s')) :
    chronicle r (.call q :: rest) u s =
      .ok (.call u.state q (u.attend r q s).1 :: episodes, v, s') := by
  rw [chronicle]
  dsimp only
  rw [later]
  rfl

/-- A chronicle goes on with the unit that is taken up. -/
theorem chronicle_takeUp (policy : Policy)
    (later : chronicle r rest (ofRecord policy u.record) s = .ok (episodes, v, s')) :
    chronicle r (.takeUp policy :: rest) u s =
      .ok (.takeUp u.state policy :: episodes, v, s') := by
  rw [chronicle, ofRecordJson_toJson, ok_bind, later]
  rfl

end Steps

/-- All that is seen of a call on a unit that has ended. -/
theorem attend_of_final (r : Remote σ) {u : WorkUnit} (ended : u.state.isFinal = true)
    (q : Request) (s : σ) :
    (u.attend r q s).2 = (u, s) ∧ Episode.Belated (.call u.state q (u.attend r q s).1) := by
  unfold attend
  rw [serve_of_final r.journaled ended]
  refine ⟨rfl, ?_⟩
  match q with
  | .run .skip => exact .skip rfl rfl
  | .run .execute => exact .execute rfl rfl
  | .cancel => exact .cancel rfl rfl

/-- Whatever is done with a unit that has ended, its record and the remote stay as they are. -/
theorem chronicle_of_final (r : Remote σ) (moves : List Move) {u : WorkUnit}
    (ended : u.state.isFinal = true) (s : σ) :
    ∃ episodes v, chronicle r moves u s = .ok (episodes, v, s) ∧
      episodes.map Episode.move = moves ∧ v.record = u.record ∧
      ∀ e ∈ episodes, e.isOpen = false ∧ e.Belated := by
  induction moves generalizing u with
  | nil => exact ⟨[], u, rfl, rfl, rfl, fun _ member => absurd member List.not_mem_nil⟩
  | cons move rest ih =>
    cases move with
    | call q =>
      obtain ⟨left, belated⟩ := attend_of_final r ended q s
      obtain ⟨episodes, v, told, moves, record, late⟩ := ih ended
      have later : chronicle r rest (u.attend r q s).2.1 (u.attend r q s).2.2 =
          .ok (episodes, v, s) := by rw [left]; exact told
      have closed : (Episode.call u.state q (u.attend r q s).1).isOpen = false :=
        congrArg not ended
      exact ⟨_, v, chronicle_call q later, congrArg (Move.call q :: ·) moves, record,
        List.forall_mem_cons.mpr ⟨⟨closed, belated⟩, late⟩⟩
    | takeUp policy =>
      have started := fun _ : u.isInitiated = true => ne_notStarted_of_final ended
      have state := ofRecord_record_state started policy
      obtain ⟨episodes, v, told, moves, record, late⟩ :=
        ih (u := ofRecord policy u.record) (by rw [state]; exact ended)
      have closed : (Episode.takeUp u.state policy).isOpen = false := congrArg not ended
      exact ⟨_, v, chronicle_takeUp policy told, congrArg (Move.takeUp policy :: ·) moves,
        record.trans (record_ofRecord_record started policy),
        List.forall_mem_cons.mpr ⟨⟨closed, .takeUp⟩, late⟩⟩

/-- Of the episodes that lead a unit `u` to `v`, those without effect have left no trace: neither
the runs that were skipped nor anything after the unit had ended. -/
structure Traceless (r : Remote σ) (u : WorkUnit) (s : σ) (episodes : List Episode) (v : WorkUnit)
    (s' : σ) : Prop where
  /-- Without them the others go as they did, and lead to the same record and the same remote. -/
  same : ∃ v', chronicle r ((effective episodes).map Episode.move) u s =
    .ok (effective episodes, v', s') ∧ v'.record = v.record
  /-- Only the others have asked anything of the remote. -/
  contacts : (effective episodes).flatMap Episode.contacts = episodes.flatMap Episode.contacts
  /-- A run to be skipped was told so. -/
  skipped : ∀ found turn, .call found (.run .skip) turn ∈ episodes → turn.answer = .ok .skipped
  /-- After the end a run was refused, and a call to cancel was told that all is done. -/
  late : ∀ e ∈ episodes.dropWhile Episode.isOpen, e.Belated

namespace Traceless

variable {r : Remote σ} {u v w : WorkUnit} {s s₁ s' : σ} {e : Episode} {episodes : List Episode}

/-- Everything after the end is without effect. -/
theorem of_closed (late : ∀ e ∈ episodes, e.isOpen = false ∧ e.Belated)
    (record : v.record = u.record) : Traceless r u s episodes v s := by
  obtain ⟨none, all⟩ := effective_of_closed fun e member => (late e member).1
  constructor
  · rw [none]
    exact ⟨u, rfl, record.symm⟩
  · rw [none]
    exact (List.flatMap_eq_nil_iff.mpr fun e member => (late e member).2.contacts).symm
  · intro found turn member
    cases (late _ member).2 with
    | skip skipped => exact skipped
  · rw [all]
    exact fun e member => (late e member).2

/-- A run that was skipped comes before a unit that it has not changed. -/
theorem skip {turn : Turn} (isOpen : u.state.isFinal = false) (skipped : turn.answer = .ok .skipped)
    (silent : turn.contacts = []) (h : Traceless r u s episodes v s') :
    Traceless r u s (.call u.state (.run .skip) turn :: episodes) v s' := by
  let first := Episode.call u.state (.run .skip) turn
  have isOpen : first.isOpen = true := congrArg not isOpen
  have left : effective (first :: episodes) = effective episodes :=
    effective_cons_of_skip isOpen rfl
  constructor
  · rw [left]
    exact h.same
  · rw [left, List.flatMap_cons, h.contacts]
    show _ = turn.contacts ++ _
    rw [silent, List.nil_append]
  · intro found turn' member
    rcases List.mem_cons.mp member with now | later
    · cases now
      exact skipped
    · exact h.skipped found turn' later
  · rw [List.dropWhile_cons_of_pos isOpen]
    exact h.late

/-- Any other move of a unit that has not ended is made with and without the rest. -/
theorem cons (isOpen : e.isOpen = true) (effect : e.isSkip = false)
    (made : ∀ {rest episodes v s'}, chronicle r rest w s₁ = .ok (episodes, v, s') →
      chronicle r (e.move :: rest) u s = .ok (e :: episodes, v, s'))
    (h : Traceless r w s₁ episodes v s') : Traceless r u s (e :: episodes) v s' := by
  have kept : effective (e :: episodes) = e :: effective episodes :=
    effective_cons_of_effect isOpen effect
  constructor
  · obtain ⟨v', told, record⟩ := h.same
    rw [kept]
    exact ⟨v', made told, record⟩
  · rw [kept, List.flatMap_cons, List.flatMap_cons, h.contacts]
  · intro found turn member
    rcases List.mem_cons.mp member with rfl | later
    · cases effect
    · exact h.skipped found turn later
  · rw [List.dropWhile_cons_of_pos isOpen]
    exact h.late

end Traceless

/-- Whatever the remote answers, and whatever a host does with a unit, with new units under any
policies: every move is possible, and leaving out the runs to be skipped and all that is done after
the unit has ended changes nothing else. The other moves have the same answers and ask the same of
the remote, the record is the same after each of them, and the record and the remote in the end are
the same. Of the moves that are left out, a run to be skipped is told so; after the end, a run is
refused, a call to cancel is told that all is done, and nothing is asked of the remote. -/
theorem chronicle_traceless (r : Remote σ) (moves : List Move) (u : WorkUnit) (s : σ) :
    ∃ episodes v s', chronicle r moves u s = .ok (episodes, v, s') ∧
      episodes.map Episode.move = moves ∧ Traceless r u s episodes v s' := by
  induction moves generalizing u s with
  | nil =>
    exact ⟨[], u, s, rfl, rfl, .of_closed (fun _ member => absurd member List.not_mem_nil) rfl⟩
  | cons move rest ih =>
    cases ended : u.state.isFinal with
    | true =>
      obtain ⟨episodes, v, told, moves, record, late⟩ := chronicle_of_final r (move :: rest) ended s
      exact ⟨episodes, v, s, told, moves, .of_closed late record⟩
    | false =>
      match move with
      | .call (.run .skip) =>
        obtain ⟨episodes, v, s', told, moves, traceless⟩ := ih u s
        exact ⟨_, v, s', chronicle_call _ told, congrArg (Move.call (.run .skip) :: ·) moves,
          traceless.skip ended rfl rfl⟩
      | .call (.run .execute) | .call .cancel =>
        obtain ⟨episodes, v, s', told, moves, traceless⟩ :=
          ih (u.attend r _ s).2.1 (u.attend r _ s).2.2
        exact ⟨_, v, s', chronicle_call _ told, congrArg (Move.call _ :: ·) moves,
          traceless.cons (congrArg not ended) rfl (chronicle_call _)⟩
      | .takeUp policy =>
        obtain ⟨episodes, v, s', told, moves, traceless⟩ := ih (ofRecord policy u.record) s
        exact ⟨_, v, s', chronicle_takeUp policy told, congrArg (Move.takeUp policy :: ·) moves,
          traceless.cons (congrArg not ended) rfl (chronicle_takeUp policy)⟩

end WorkUnit

end TaskOrchestration
