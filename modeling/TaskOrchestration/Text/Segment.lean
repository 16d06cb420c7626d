/-!
# The last segment of a text

`afterLast` cuts a text behind the last occurrence of a separator. `splitOn` takes a text apart at
every occurrence. Each has its equations for an end without separator and for what follows one.
-/

namespace TaskOrchestration.Text

/-- What follows the last `sep`, or the whole text if there is none. -/
def afterLast (sep : Char) (cs : List Char) : List Char :=
  (cs.reverse.takeWhile (· != sep)).reverse

/-- Behind the last separator there is no separator. -/
theorem not_mem_afterLast (sep : Char) (cs : List Char) : sep ∉ afterLast sep cs := by
  intro h
  have front := List.all_takeWhile (p := (· != sep)) (l := cs.reverse)
  simp only [afterLast, List.mem_reverse] at h
  simpa using List.all_eq_true.mp front sep h

/-- An end without separator belongs to what follows the last one. -/
theorem afterLast_append_of_notMem {sep : Char} {other : List Char} (free : sep ∉ other)
    (front : List Char) : afterLast sep (front ++ other) = afterLast sep front ++ other := by
  have passes : ∀ c ∈ other.reverse, (c != sep) = true := fun c member =>
    bne_iff_ne.mpr fun same => free (same ▸ List.mem_reverse.mp member)
  unfold afterLast
  rw [List.reverse_append, List.takeWhile_append_of_pos passes, List.reverse_append,
    List.reverse_reverse]

/-- What stands in front of a separator does not change what follows the last one. -/
theorem afterLast_append (sep : Char) (front cs : List Char) :
    afterLast sep (front ++ sep :: cs) = afterLast sep cs := by
  have stops : (sep :: front.reverse).takeWhile (· != sep) = [] :=
    List.takeWhile_cons_of_neg (by simp)
  unfold afterLast
  rw [List.reverse_append, List.reverse_cons, List.append_assoc, List.singleton_append,
    List.takeWhile_append, stops, List.append_nil]
  split
  · next whole => rw [(List.takeWhile_prefix _).eq_of_length whole]
  · rfl

/-- The pieces between the occurrences of `sep`; there is always at least one. -/
def splitOn (sep : Char) : List Char → List (List Char)
  | [] => [[]]
  | c :: cs =>
    if c == sep then [] :: splitOn sep cs
    else
      match splitOn sep cs with
      | [] => [[c]]
      | piece :: rest => (c :: piece) :: rest

/-- No piece has a separator in it. -/
theorem notMem_of_mem_splitOn {sep : Char} {cs piece : List Char} (h : piece ∈ splitOn sep cs) :
    sep ∉ piece := by
  induction cs generalizing piece with
  | nil =>
    obtain rfl := List.mem_singleton.mp h
    exact List.not_mem_nil
  | cons c cs ih =>
    unfold splitOn at h
    split at h
    · rcases List.mem_cons.mp h with rfl | later
      · exact List.not_mem_nil
      · exact ih later
    · next other =>
      have another : sep ≠ c := fun same => other (beq_iff_eq.mpr same.symm)
      split at h
      · obtain rfl := List.mem_singleton.mp h
        simpa using another
      · next first rest pieces =>
        rw [pieces] at ih
        rcases List.mem_cons.mp h with rfl | later
        · exact List.not_mem_cons_of_ne_of_not_mem another (ih List.mem_cons_self)
        · exact ih (List.mem_cons_of_mem first later)

/-- A text without separator is one piece. -/
theorem splitOn_of_notMem {sep : Char} {cs : List Char} (h : sep ∉ cs) : splitOn sep cs = [cs] := by
  induction cs with
  | nil => rfl
  | cons c cs ih =>
    have hc : c ≠ sep := fun e => h (e ▸ List.mem_cons_self)
    simp [splitOn, hc, ih fun m => h (List.mem_cons_of_mem c m)]

/-- The first piece ends at the first separator. -/
theorem splitOn_append {sep : Char} {piece : List Char} (h : sep ∉ piece) (cs : List Char) :
    splitOn sep (piece ++ sep :: cs) = piece :: splitOn sep cs := by
  induction piece with
  | nil => simp [splitOn]
  | cons c piece ih =>
    have hc : c ≠ sep := fun e => h (e ▸ List.mem_cons_self)
    simp [splitOn, hc, ih fun m => h (List.mem_cons_of_mem c m)]

/-- Pieces that are joined by a separator are found again. -/
theorem splitOn_intercalate {sep : Char} {pieces : List (List Char)} (nonempty : pieces ≠ [])
    (h : ∀ piece ∈ pieces, sep ∉ piece) : splitOn sep ([sep].intercalate pieces) = pieces := by
  induction pieces with
  | nil => exact absurd rfl nonempty
  | cons piece rest ih =>
    obtain ⟨first, later⟩ := List.forall_mem_cons.mp h
    cases rest with
    | nil =>
      rw [List.intercalate_singleton]
      exact splitOn_of_notMem first
    | cons next rest =>
      rw [List.intercalate_cons_cons, List.append_assoc, List.singleton_append,
        splitOn_append first, ih (List.cons_ne_nil _ _) later]

/-- What follows the last separator of joined pieces is the last piece. -/
theorem afterLast_intercalate {sep : Char} {last : List Char} (free : sep ∉ last)
    (front : List (List Char)) : afterLast sep ([sep].intercalate (front ++ [last])) = last := by
  induction front with
  | nil =>
    rw [List.nil_append, List.intercalate_singleton]
    exact afterLast_append_of_notMem free []
  | cons piece front ih =>
    obtain ⟨next, rest, pieces⟩ := List.exists_cons_of_ne_nil
      (List.append_ne_nil_of_right_ne_nil front (List.cons_ne_nil last []))
    rw [List.cons_append, pieces, List.intercalate_cons_cons, List.append_assoc,
      List.singleton_append, afterLast_append, ← pieces, ih]

end TaskOrchestration.Text
