import TaskOrchestration.Task.Tracking

/-!
# A tracked task is the merge of its reports

Refreshes bring in report after report (`Reports`), up to the first that says that the task is done.
`merged` tells what is known by then without following the refreshes: all that the last report says,
but the reference and each label as in the last report that has it. `exists_merged` says that the
refreshes come to this, whichever backends answer them.
-/

namespace TaskOrchestration.TaskReport

/-! ## Merges -/

/-- The value of a field in the last report that has it. -/
def lastPresent {α : Type} (field : TaskReport → Option α) (reports : List TaskReport) : Option α :=
  (reports.filterMap field).getLast?

/-- The reference of the task, if the report has one. -/
def reference? (d : TaskReport) : Option String := if d.href.isEmpty then none else some d.href

/-- The reports `before` and then `last`, taken together. -/
def merged (before : List TaskReport) (last : TaskReport) : TaskReport :=
  { last with
    href := (lastPresent reference? (before ++ [last])).getD ""
    name := lastPresent name (before ++ [last])
    description := lastPresent description (before ++ [last])
    taskGroupHref := lastPresent taskGroupHref (before ++ [last]) }

/-- The last report is asked first, and those before it if it does not have the field. -/
theorem lastPresent_append {α : Type} (field : TaskReport → Option α) (before : List TaskReport)
    (last : TaskReport) :
    lastPresent field (before ++ [last]) = (field last <|> lastPresent field before) := by
  unfold lastPresent
  rw [List.filterMap_append]
  cases said : field last with
  | none => simp [said]
  | some a => simp [said]

/-- A single report is what it says. -/
theorem merged_nil (d : TaskReport) : merged [] d = d := by
  have present {α : Type} (field : TaskReport → Option α) :
      lastPresent field ([] ++ [d]) = field d := by
    rw [lastPresent_append]
    cases field d <;> rfl
  have href : (reference? d).getD "" = d.href := by
    unfold reference?
    split
    · next empty => exact (String.isEmpty_iff.mp empty).symm
    · rfl
  unfold merged
  rw [present, present, present, present, href]

/-- Whether the merge is done is for the last report to say. -/
theorem merged_isDone (before : List TaskReport) (last : TaskReport) :
    (merged before last).isDone = last.isDone := rfl

/-- One more report is merged into the reports so far. -/
theorem merge_merged (before : List TaskReport) (last fresh : TaskReport) :
    (merged before last).merge fresh = merged (before ++ [last]) fresh := by
  have href : (if fresh.href.isEmpty then (merged before last).href else fresh.href) =
      (lastPresent reference? (before ++ [last] ++ [fresh])).getD "" := by
    rw [lastPresent_append]
    unfold reference?
    split <;> rfl
  unfold merge
  rw [href]
  unfold merged
  rw [lastPresent_append name (before ++ [last]), lastPresent_append description (before ++ [last]),
    lastPresent_append taskGroupHref (before ++ [last])]

/-! ## Refreshes -/

/-- From `known`, refreshes that bring in these reports one after the other come to `latest`. Each
of them may meet another backend. A task that is done does not ask for the report it would get. -/
inductive Reports : TaskReport → List TaskReport → TaskReport → Prop
  | nil (known : TaskReport) : Reports known [] known
  | refresh {known next latest fresh : TaskReport} {rest : List TaskReport} {σ : Type}
      (b : Backend σ) (s : σ) (reported : (b.task known.href s).1 = .ok fresh)
      (refreshed : (known.refresh b s).1 = .ok next) :
      Reports next rest latest → Reports known (fresh :: rest) latest

/-- A refresh takes the report in. -/
theorem refresh_eq_absorb {σ : Type} {b : Backend σ} {known fresh : TaskReport} {s : σ}
    (reported : (b.task known.href s).1 = .ok fresh) :
    (known.refresh b s).1 = .ok (known.absorb fresh) := by
  unfold refresh
  split
  · next done => rw [absorb_of_isDone done]
  · rcases asked : b.task known.href s with ⟨answer, s'⟩
    rw [asked] at reported
    obtain rfl : answer = .ok fresh := reported
    rfl

/-- The backend that reports the same of every task. -/
def reporting (fresh : TaskReport) : Backend Unit where
  task _ s := (.ok fresh, s)
  group href s := (.ok { href }, s)
  members _ s := (.ok [], s)
  cancel _ s := (.ok (), s)

/-- What becomes of the next report does not depend on who is asked for it. -/
theorem reports_cons_iff {known fresh latest : TaskReport} {rest : List TaskReport} :
    Reports known (fresh :: rest) latest ↔ Reports (known.absorb fresh) rest latest := by
  constructor
  · intro h
    cases h with
    | refresh b s reported refreshed later =>
      obtain rfl := Except.ok.inj (refreshed.symm.trans (refresh_eq_absorb reported))
      exact later
  · exact .refresh (reporting fresh) () rfl (refresh_eq_absorb rfl)

theorem reports_nil_iff {known latest : TaskReport} : Reports known [] latest ↔ latest = known := by
  constructor
  · rintro ⟨⟩
    rfl
  · rintro rfl
    exact .nil latest

/-- Nothing is reported of a task any more that is done. -/
theorem reports_of_isDone {known : TaskReport} (done : known.isDone = true)
    (reports : List TaskReport) {latest : TaskReport} :
    Reports known reports latest ↔ latest = known := by
  induction reports with
  | nil => exact reports_nil_iff
  | cons fresh rest ih => rw [reports_cons_iff, absorb_of_isDone done, ih]

/-- Reports are merged with those so far up to the first that is done. -/
theorem exists_merged_of_pending (reports before : List TaskReport) (last : TaskReport)
    (pending : ∀ d ∈ before, d.isDone = false) :
    ∃ before' last' after, before ++ last :: reports = before' ++ last' :: after ∧
      (∀ d ∈ before', d.isDone = false) ∧ (last'.isDone = true ∨ after = []) ∧
      ∀ latest, Reports (merged before last) reports latest ↔ latest = merged before' last' := by
  -- The induction is on the reports to come. Those so far are merged, and only `last` may be done.
  induction reports generalizing before last with
  | nil => exact ⟨before, last, [], rfl, pending, .inr rfl, fun _ => reports_nil_iff⟩
  | cons fresh rest ih =>
    cases done : last.isDone with
    | true =>
      have ended : (merged before last).isDone = true := done
      exact ⟨before, last, fresh :: rest, rfl, pending, .inl done,
        fun _ => reports_of_isDone ended _⟩
    | false =>
      have stillPending : ∀ d ∈ before ++ [last], d.isDone = false := by
        intro d member
        rcases List.mem_append.mp member with earlier | here
        · exact pending d earlier
        · rw [List.mem_singleton.mp here]
          exact done
      obtain ⟨before', last', after, split, pending', ended, merges⟩ :=
        ih (before ++ [last]) fresh stillPending
      have absorbed : (merged before last).absorb fresh = merged (before ++ [last]) fresh := by
        unfold absorb
        rw [if_neg (by rw [merged_isDone, done]; decide), merge_merged]
      refine ⟨before', last', after, ?_, pending', ended, fun latest => ?_⟩
      · rw [← split, List.append_assoc]
        rfl
      · rw [reports_cons_iff, absorbed, merges]

/-- For every task and every list of reports that refreshes bring in, whichever backends are asked:
there is a first report that is done, counting the one the task is made of, or else a last one. What
is known in the end has the state, the flags, the error and the times of that report, and the
reference and each label of the last report up to there that has it; the reports after it change
nothing. -/
theorem exists_merged (first : TaskReport) (reports : List TaskReport) :
    ∃ before last after, first :: reports = before ++ last :: after ∧
      (∀ d ∈ before, d.isDone = false) ∧ (last.isDone = true ∨ after = []) ∧
      ∀ latest, Reports first reports latest ↔ latest = merged before last := by
  have found := exists_merged_of_pending reports [] first fun _ member =>
    absurd member List.not_mem_nil
  rw [merged_nil] at found
  exact found

example :
    let first : TaskReport := { href := "t1", name := some "sync", error := some (.message "?") }
    merged [first] { href := "", state := some "completed" } =
      { href := "t1", name := some "sync", state := some "completed" } := by decide

end TaskOrchestration.TaskReport
