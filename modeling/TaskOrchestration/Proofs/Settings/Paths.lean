import TaskOrchestration.Proofs.Settings.Loading

/-!
# Paths that lead to a file

A place is reached without a detour by a path that starts at the root or any number of levels up and
only leads down from there (`Plain`). Such a path leads to itself (`Plain.follow?_nil`), and where
any path leads is such a place (`plain_of_follow?`). So a file is read by the path that it is listed
under, wherever it is (`provides_of_listed`), and a detour, down into a directory and up again,
changes nothing (`follow?_detour`).
-/

namespace TaskOrchestration.Directory

/-- A step that a path shows: neither empty nor `.`, and a single one. -/
structure IsStep (step : List Char) : Prop where
  nonempty : step ≠ []
  moves : step ≠ ['.']
  single : '/' ∉ step

/-- A step that leads down. -/
structure IsName (step : List Char) : Prop extends IsStep step where
  down : step ≠ up

/-- Where a path without a detour starts. -/
inductive IsStart : List (List Char) → Prop
  | root : IsStart [[]]
  | levelsUp (n : Nat) : IsStart (List.replicate n up)

/-- Steps without a detour. -/
def Plain (place : List (List Char)) : Prop :=
  ∃ start names, IsStart start ∧ (∀ step ∈ names, IsName step) ∧ place = start ++ names

variable {d : Directory} {place place' start names taken rest : List (List Char)}
  {step : List Char}

theorem isStep_up : IsStep up := ⟨by decide, by decide, by decide⟩

theorem IsStart.plain (h : IsStart start) : Plain start :=
  ⟨start, [], h, List.forall_mem_nil _, (List.append_nil start).symm⟩

theorem Plain.append_name (h : Plain place) (named : IsName step) : Plain (place ++ [step]) := by
  obtain ⟨start, names, isStart, down, rfl⟩ := h
  refine ⟨start, names ++ [step], isStart, ?_, List.append_assoc ..⟩
  exact List.forall_mem_append.mpr ⟨down, List.forall_mem_singleton.mpr named⟩

/-! ## Steps and paths -/

theorem toList_ofSteps (taken : List (List Char)) :
    (ofSteps taken).toList = ['/'].intercalate taken :=
  String.toList_ofList

theorem filter_steps (h : ∀ step ∈ taken, IsStep step) :
    (taken.filter fun step => !step.isEmpty && step != ['.']) = taken := by
  rw [List.filter_eq_self]
  intro step member
  have := h step member
  simp [this.nonempty, this.moves]

/-- The steps from the current directory are read off their path. -/
theorem steps_ofSteps (nonempty : taken ≠ []) (h : ∀ step ∈ taken, IsStep step) :
    steps (ofSteps taken) = taken := by
  have split : Text.splitOn '/' (['/'].intercalate taken) = taken :=
    Text.splitOn_intercalate nonempty fun step member => (h step member).single
  have head : (['/'].intercalate taken).head? ≠ some '/' := by
    obtain ⟨first, rest, rfl⟩ := List.exists_cons_of_ne_nil nonempty
    have isStep := h first List.mem_cons_self
    obtain ⟨c, tail, rfl⟩ := List.exists_cons_of_ne_nil isStep.nonempty
    have inside : c ≠ '/' := fun same => isStep.single (same ▸ List.mem_cons_self)
    cases rest <;> simpa [List.intercalate_cons_cons] using inside
  unfold steps
  rw [toList_ofSteps, split, filter_steps h]
  exact if_neg (by simpa using head)

/-- The steps from the root are read off their path. -/
theorem steps_ofSteps_root (nonempty : taken ≠ []) (h : ∀ step ∈ taken, IsStep step) :
    steps (ofSteps ([] :: taken)) = [] :: taken := by
  have split : Text.splitOn '/' (['/'].intercalate ([] :: taken)) = [] :: taken := by
    refine Text.splitOn_intercalate (List.cons_ne_nil _ _) ?_
    exact List.forall_mem_cons.mpr ⟨List.not_mem_nil, fun step member => (h step member).single⟩
  have head : (['/'].intercalate ([] :: taken)).head? = some '/' := by
    obtain ⟨first, rest, rfl⟩ := List.exists_cons_of_ne_nil nonempty
    rfl
  unfold steps
  rw [toList_ofSteps, split, head]
  simp [filter_steps h]

/-- The path without a detour to something with a name takes no other steps than these. -/
theorem Plain.steps_ofSteps (h : Plain place) (named : IsName step) :
    steps (ofSteps (place ++ [step])) = place ++ [step] := by
  obtain ⟨start, names, isStart, down, rfl⟩ := h
  have below : ∀ s ∈ names ++ [step], IsStep s :=
    List.forall_mem_append.mpr ⟨fun s member => (down s member).toIsStep,
      List.forall_mem_singleton.mpr named.toIsStep⟩
  have nonempty : names ++ [step] ≠ [] :=
    List.append_ne_nil_of_right_ne_nil names (List.cons_ne_nil step [])
  rw [List.append_assoc]
  cases isStart with
  | root => exact steps_ofSteps_root nonempty below
  | levelsUp n =>
    refine Directory.steps_ofSteps (List.append_ne_nil_of_right_ne_nil _ nonempty) ?_
    exact List.forall_mem_append.mpr
      ⟨fun s member => List.eq_of_mem_replicate member ▸ isStep_up, below⟩

/-- A path takes steps that it shows, from the root or from the current directory. -/
theorem exists_steps_eq (path : String) :
    ∃ taken, (∀ step ∈ taken, IsStep step) ∧ (steps path = [] :: taken ∨ steps path = taken) := by
  refine ⟨(Text.splitOn '/' path.toList).filter fun step => !step.isEmpty && step != ['.'],
    fun step member => ?_, ?_⟩
  · obtain ⟨piece, moves⟩ := List.mem_filter.mp member
    have shown : step ≠ [] ∧ step ≠ ['.'] := by simpa using moves
    exact ⟨shown.1, shown.2, Text.notMem_of_mem_splitOn piece⟩
  · unfold steps
    dsimp only
    split
    · exact .inl rfl
    · exact .inr rfl

/-! ## Where steps lead -/

theorem step?_up (d : Directory) (place : List (List Char)) : d.step? place up = d.above? place :=
  if_pos (beq_self_eq_true up)

theorem step?_of_ne (d : Directory) (place : List (List Char)) (named : step ≠ up) :
    d.step? place step = some (place ++ [step]) :=
  if_neg (by simpa using named)

theorem follow?_cons (d : Directory) (place : List (List Char)) (step : List Char)
    (rest : List (List Char)) :
    d.follow? place (step :: rest) = (d.step? place step).bind fun next => d.follow? next rest :=
  List.foldlM_cons

theorem follow?_append (d : Directory) (place taken rest : List (List Char)) :
    d.follow? place (taken ++ rest) =
      (d.follow? place taken).bind fun next => d.follow? next rest :=
  List.foldlM_append

/-- Above a place some levels up is the place one level further up. -/
theorem above?_levelsUp (d : Directory) (n : Nat) :
    d.above? (List.replicate n up) = some (List.replicate (n + 1) up) := by
  rw [List.replicate_succ']
  unfold above?
  cases n with
  | zero => rfl
  | succ n =>
    rw [List.getLast?_replicate]
    rfl

/-- What has a name is left if files are listed below it. -/
theorem above?_name (d : Directory) (place : List (List Char)) (named : IsName step) :
    d.above? (place ++ [step]) = if d.isListed (place ++ [step]) then some place else none := by
  obtain ⟨c, tail, rfl⟩ := List.exists_cons_of_ne_nil named.nonempty
  unfold above?
  rw [List.getLast?_concat, List.dropLast_concat]
  exact if_neg (by simpa using named.down)

theorem IsStart.follow?_nil (h : IsStart start) : d.follow? [] start = some start := by
  cases h with
  | root => rfl
  | levelsUp n =>
    induction n with
    | zero => rfl
    | succ n ih =>
      rw [List.replicate_succ', follow?_append, ih, Option.bind_some, follow?_cons, step?_up,
        above?_levelsUp, List.replicate_succ']
      rfl

theorem follow?_names (h : ∀ step ∈ names, IsName step) (place : List (List Char)) :
    d.follow? place names = some (place ++ names) := by
  induction names generalizing place with
  | nil => rw [List.append_nil]; rfl
  | cons step names ih =>
    obtain ⟨first, later⟩ := List.forall_mem_cons.mp h
    rw [follow?_cons, step?_of_ne d place first.down, Option.bind_some, ih later,
      List.append_assoc, List.singleton_append]

/-- Steps without a detour lead to where they say. -/
theorem Plain.follow?_nil (h : Plain place) : d.follow? [] place = some place := by
  obtain ⟨start, names, isStart, down, rfl⟩ := h
  rw [follow?_append, isStart.follow?_nil]
  exact follow?_names down start

/-- The directory above a place is reached without a detour if the place is. -/
theorem Plain.of_above (h : Plain place) (above : d.above? place = some place') : Plain place' := by
  obtain ⟨start, names, isStart, down, rfl⟩ := h
  rcases List.eq_nil_or_concat' names with rfl | ⟨names, last, rfl⟩
  · rw [List.append_nil] at above
    cases isStart with
    | root =>
      obtain rfl : [[]] = place' := Option.some.inj above
      exact IsStart.root.plain
    | levelsUp n =>
      rw [above?_levelsUp] at above
      obtain rfl := Option.some.inj above
      exact (IsStart.levelsUp (n + 1)).plain
  · obtain ⟨down, named⟩ := List.forall_mem_append.mp down
    rw [← List.append_assoc, above?_name d _ (List.forall_mem_singleton.mp named)] at above
    obtain ⟨-, same⟩ := Option.ite_none_right_eq_some.mp above
    obtain rfl := Option.some.inj same
    exact ⟨start, names, isStart, down, rfl⟩

theorem Plain.of_step (h : Plain place) (isStep : IsStep step)
    (leads : d.step? place step = some place') : Plain place' := by
  by_cases leadsUp : step = up
  · rw [leadsUp, step?_up] at leads
    exact h.of_above leads
  · rw [step?_of_ne d place leadsUp] at leads
    obtain rfl := Option.some.inj leads
    exact h.append_name ⟨isStep, leadsUp⟩

theorem Plain.of_follow (h : Plain place) (areSteps : ∀ step ∈ taken, IsStep step)
    (leads : d.follow? place taken = some place') : Plain place' := by
  induction taken generalizing place with
  | nil =>
    obtain rfl : place = place' := Option.some.inj leads
    exact h
  | cons step rest ih =>
    obtain ⟨first, later⟩ := List.forall_mem_cons.mp areSteps
    rw [follow?_cons] at leads
    obtain ⟨next, toNext, leads⟩ := Option.bind_eq_some_iff.mp leads
    exact ih (h.of_step first toNext) later leads

/-- Wherever a path leads, there is a path to it without a detour. -/
theorem plain_of_follow? {path : String} (leads : d.follow? [] (steps path) = some place) :
    Plain place := by
  obtain ⟨taken, areSteps, fromRoot | fromHere⟩ := exists_steps_eq path
  · rw [fromRoot, follow?_cons, step?_of_ne d [] (by decide)] at leads
    exact IsStart.root.plain.of_follow areSteps leads
  · rw [fromHere] at leads
    exact (IsStart.levelsUp 0).plain.of_follow areSteps leads

/-- To go down into a directory and up again leads nowhere else. -/
theorem follow?_detour (named : IsName step) (listed : d.isListed (place ++ [step]) = true)
    (rest : List (List Char)) : d.follow? place (step :: up :: rest) = d.follow? place rest := by
  rw [follow?_cons, step?_of_ne d place named.down, Option.bind_some, follow?_cons, step?_up,
    above?_name d place named, if_pos listed, Option.bind_some]

/-! ## Files -/

variable {stem : List Char} {extension content : String} {format : FileFormat}

theorem Plain.content?_eq (h : Plain place) (named : IsName step) :
    d.content? (ofSteps (place ++ [step])) = d.lookup (ofSteps (place ++ [step])) := by
  unfold content?
  rw [h.steps_ofSteps named, (h.append_name named).follow?_nil]
  rfl

theorem Plain.endsInName (h : Plain place) (named : IsName step) :
    endsInName (ofSteps (place ++ [step])) = true := by
  obtain ⟨c, tail, rfl⟩ := List.exists_cons_of_ne_nil named.nonempty
  unfold Directory.endsInName
  rw [h.steps_ofSteps named, List.getLast?_concat]
  exact bne_iff_ne.mpr named.down

theorem afterLast_ofSteps (place : List (List Char)) (named : IsName step) :
    Text.afterLast '/' (ofSteps (place ++ [step])).toList = step := by
  rw [toList_ofSteps]
  exact Text.afterLast_intercalate named.single place

/-- A file is found under the name that it is listed under: at the root, below the current
directory, or anywhere above that. -/
theorem Plain.find?_of_listed (h : Plain place) (named : IsName step)
    (extended : extension? (ofSteps (place ++ [step])) = some extension)
    (known : FileFormat.extensions.lookup extension = some format)
    (listed : d.lookup (ofSteps (place ++ [step])) = some content) :
    d.find? (ofSteps (place ++ [step])) = .ok (ofSteps (place ++ [step]), format, content) := by
  have isFile : endsAsDirectory (ofSteps (place ++ [step])) = false := by
    unfold endsAsDirectory
    rw [afterLast_ofSteps place named]
    simpa using ⟨named.nonempty, named.moves⟩
  have reads : d.content? (ofSteps (place ++ [step])) = some content :=
    (h.content?_eq named).trans listed
  unfold find?
  rw [h.endsInName named, h.steps_ofSteps named, isFile]
  simp [reads, extended, known]

/-- What is known of every extension. -/
theorem lookup_extension (known : (extension, format) ∈ FileFormat.extensions) :
    FileFormat.extensions.lookup extension = some format ∧ extension.toList ≠ [] ∧
      '.' ∉ extension.toList ∧ '/' ∉ extension.toList := by
  have all : ∀ e ∈ FileFormat.extensions, FileFormat.extensions.lookup e.1 = some e.2 ∧
      e.1.toList ≠ [] ∧ '.' ∉ e.1.toList ∧ '/' ∉ e.1.toList := by decide +kernel
  exact all _ known

/-- A name stays one with an extension behind it. -/
theorem isName_append (nonempty : stem ≠ []) (single : '/' ∉ stem) {behind : List Char}
    (extended : behind ≠ []) (free : '/' ∉ behind) : IsName (stem ++ '.' :: behind) := by
  have long : 2 < (stem ++ '.' :: behind).length := by
    have := List.length_pos_iff.mpr nonempty
    have := List.length_pos_iff.mpr extended
    rw [List.length_append, List.length_cons]
    omega
  have ne_of_short {short : List Char} (few : short.length ≤ 2) : stem ++ '.' :: behind ≠ short :=
    fun same => Nat.not_lt.mpr few (same ▸ long)
  exact {
    nonempty := ne_of_short (by decide)
    moves := ne_of_short (by decide)
    down := ne_of_short (by decide)
    single := by simp [single, free] }

theorem extension?_ofSteps (place : List (List Char)) (nonempty : stem ≠ [])
    (named : IsName (stem ++ '.' :: extension.toList)) (free : '.' ∉ extension.toList) :
    extension? (ofSteps (place ++ [stem ++ '.' :: extension.toList])) = some extension := by
  obtain ⟨c, tail, rfl⟩ := List.exists_cons_of_ne_nil nonempty
  have whole : Text.afterLast '.' extension.toList = extension.toList :=
    Text.afterLast_append_of_notMem free []
  unfold extension?
  rw [afterLast_ofSteps place named]
  dsimp only
  rw [if_pos (by simp), Text.afterLast_append, whole]
  exact congrArg some String.ofList_toList

/-- A file provides what is written in it, wherever it is: under a name of its own at the root,
below the current directory, or anywhere above that. -/
theorem provides_of_listed (plain : Plain place) (nonempty : stem ≠ []) (single : '/' ∉ stem)
    (known : (extension, format) ∈ FileFormat.extensions) {path : String}
    (isPath : path = ofSteps (place ++ [stem ++ '.' :: extension.toList]))
    (listed : d.lookup path = some content) {fields : List (String × Json)}
    (reads : format.read path content.toList = .ok (.object fields)) :
    d.Provides (some path) path fields := by
  subst isPath
  obtain ⟨registered, extended, pointless, free⟩ := lookup_extension known
  have named : IsName (stem ++ '.' :: extension.toList) :=
    isName_append nonempty single extended free
  have found := plain.find?_of_listed named (extension?_ofSteps place nonempty named pointless)
    registered listed
  exact .file found reads

/-- A file beside the current directory is found from a directory in it, without its extension. -/
example : find? [("a/b", ""), ("../c.yml", "d: 1")] "a/../../c" =
    .ok ("a/../../c.yml", .yaml, "d: 1") := by decide +kernel

end TaskOrchestration.Directory
