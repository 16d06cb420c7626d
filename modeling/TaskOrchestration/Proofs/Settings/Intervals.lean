import TaskOrchestration.Proofs.Instant.Text
import TaskOrchestration.Proofs.Settings.Loading

/-!
# Intervals from the environment

The intervals can be given in one variable, as numbers with commas between them. A text with a comma
in it is neither a truth value nor a number, so it is taken apart into a list of texts, and each of
these is converted to the number it was written for, up to the largest of 64 bits. A text without a
comma is a number, and is taken for one before anybody looks for a list; no list comes of it. So
intervals are loaded exactly if there are at least two of them (`load_intervals_iff`).
-/

open List (Forall₂)

namespace TaskOrchestration

/-! ## Texts that start with a digit -/

namespace Text

/-- A text starts with a digit. -/
def StartsWithDigit (cs : List Char) : Prop := ∃ c r, cs = c :: r ∧ isDigit c = true

variable {cs : List Char}

theorem startsWithDigit_digitsOf_append (n : Nat) (rest : List Char) :
    StartsWithDigit (digitsOf n ++ rest) := by
  cases digits : digitsOf n with
  | nil => exact absurd digits (digitsOf_ne_nil n)
  | cons c r =>
    have all := all_isDigit_digitsOf n
    rw [digits, List.all_cons, Bool.and_eq_true] at all
    exact ⟨c, r ++ rest, rfl, all.1⟩

theorem startsWithDigit_digitsOf (n : Nat) : StartsWithDigit (digitsOf n) := by
  simpa using startsWithDigit_digitsOf_append n []

theorem isDigit_iff (c : Char) : isDigit c = true ↔ 48 ≤ c.toNat ∧ c.toNat ≤ 57 := by
  simp [isDigit, Char.le_def, UInt32.le_iff_toNat_le]

namespace StartsWithDigit

theorem ne_cons {d : Char} {ds : List Char} (h : StartsWithDigit cs) (other : isDigit d = false) :
    cs ≠ d :: ds := by
  rintro rfl
  obtain ⟨c, r, same, digit⟩ := h
  obtain ⟨rfl, -⟩ := List.cons.inj same
  rw [other] at digit
  cases digit

theorem map {f : Char → Char} (h : StartsWithDigit cs) (fixed : ∀ c, isDigit c = true → f c = c) :
    StartsWithDigit (cs.map f) := by
  obtain ⟨c, r, rfl, digit⟩ := h
  exact ⟨c, r.map f, by rw [List.map_cons, fixed c digit], digit⟩

/-- Such a text is no word that starts with another character. -/
theorem ofList_ne (h : StartsWithDigit cs) {word : String}
    (other : word.toList.head?.any isDigit = false) : String.ofList cs ≠ word := by
  rintro rfl
  obtain ⟨c, r, rfl, digit⟩ := h
  simp [digit] at other

end StartsWithDigit

theorem lowerChar_of_isDigit (c : Char) (digit : isDigit c = true) : lowerChar c = c := by
  have small := (isDigit_iff c).mp digit
  have noCapital : ('A' ≤ c && c ≤ 'Z') = false := by
    simp [Char.le_def, UInt32.le_iff_toNat_le]
    omega
  have noKelvin : (c == '\u212A') = false := by
    refine beq_false_of_ne ?_
    rintro rfl
    revert small
    decide
  unfold lowerChar
  rw [noCapital, noKelvin]
  rfl

theorem toLower_of_isDigit (c : Char) (digit : isDigit c = true) : c.toLower = c := by
  have small := (isDigit_iff c).mp digit
  unfold Char.toLower
  rw [dif_neg]
  rintro ⟨capital, -⟩
  have := UInt32.le_iff_toNat_le.mp capital
  have : c.val.toNat = c.toNat := rfl
  simp at *
  omega

/-- A text that starts with a digit is no word, however that is written. -/
theorem lower_ne {text word : String} (h : StartsWithDigit text.toList)
    (other : word.toList.head?.any isDigit = false) : lower text ≠ word :=
  (h.map lowerChar_of_isDigit).ofList_ne other

theorem unsigned?_eq (h : StartsWithDigit cs) (bound : Nat) :
    unsigned? bound cs = (digits? cs).bind fun n => if n < bound then some n else none := by
  unfold unsigned?
  split
  · exact absurd rfl (h.ne_cons (by decide))
  · dsimp only
    cases digits? cs <;> rfl

theorem signed?_eq (h : StartsWithDigit cs) (bound : Nat) :
    signed? bound cs = (unsigned? bound cs).map Int.ofNat := by
  unfold signed?
  split
  · exact absurd rfl (h.ne_cons (by decide))
  · cases unsigned? bound cs <;> rfl

theorem unsigned?_digitsOf {n bound : Nat} (small : n < bound) :
    unsigned? bound (digitsOf n) = some n := by
  rw [unsigned?_eq (startsWithDigit_digitsOf n), digits?_digitsOf]
  exact if_pos small

/-- Digits with a comma behind them are no integer. -/
theorem signed?_append_comma (n : Nat) (rest : List Char) (bound : Nat) :
    signed? bound (digitsOf n ++ ',' :: rest) = none := by
  have starts := startsWithDigit_digitsOf_append n (',' :: rest)
  have comma : isDigit ',' = false := by decide
  have noDigits : digits? (digitsOf n ++ ',' :: rest) = none := by simp [digits?, comma]
  rw [signed?_eq starts, unsigned?_eq starts, noDigits]
  rfl

theorem notMem_digitsOf {c : Char} (other : isDigit c = false) (n : Nat) : c ∉ digitsOf n := by
  intro member
  have := List.all_eq_true.mp (all_isDigit_digitsOf n) c member
  rw [other] at this
  cases this

end Text

namespace Binary64

open Text

variable {cs : List Char}

theorem ofText?_eq (h : StartsWithDigit cs) : ofText? cs = unsigned? false cs := by
  have lower := h.map toLower_of_isDigit
  have noWord : ofWord? false cs = none := by
    unfold ofWord?
    split
    · next same => exact absurd same (lower.ofList_ne (by decide))
    · next same => exact absurd same (lower.ofList_ne (by decide))
    · next same => exact absurd same (lower.ofList_ne (by decide))
    · rfl
  unfold ofText?
  split
  next negative r same =>
  split at same
  · exact absurd rfl (h.ne_cons (by decide))
  · exact absurd rfl (h.ne_cons (by decide))
  · obtain ⟨rfl, rfl⟩ := Prod.mk.inj same
    rw [noWord]
    rfl

/-- Digits with a comma behind them are no double. -/
theorem ofText?_append_comma (n : Nat) (rest : List Char) :
    ofText? (digitsOf n ++ ',' :: rest) = none := by
  have stop : ∀ c ∈ (',' :: rest).head?, isDigit c = false := by simp [isDigit]
  rw [ofText?_eq (startsWithDigit_digitsOf_append n _)]
  simp [unsigned?, takeWhile_digits (all_isDigit_digitsOf n) stop,
    dropWhile_digits (all_isDigit_digitsOf n) stop]

/-- Any number can be read as a double. -/
theorem exists_ofText?_digitsOf (n : Nat) : ∃ x, ofText? (digitsOf n) = some x := by
  have stop : ∀ c ∈ ([] : List Char).head?, isDigit c = false := by simp
  have front := takeWhile_digits (all_isDigit_digitsOf n) stop
  have back := dropWhile_digits (all_isDigit_digitsOf n) stop
  rw [List.append_nil] at front back
  rw [ofText?_eq (startsWithDigit_digitsOf n)]
  simp [unsigned?, front, back, digitsOf_ne_nil]

end Binary64

/-! ## The variable -/

namespace Environment

/-- Intervals as the text of their variable: the numbers, with commas between them. -/
def intervalsText (ns : List UInt64) : String :=
  ",".intercalate (ns.map fun n => Text.decimal n.toNat)

theorem toList_intervalsText (ns : List UInt64) :
    (intervalsText ns).toList = [','].intercalate (ns.map fun n => Text.digitsOf n.toNat) := by
  simp [intervalsText, String.toList_intercalate, Text.decimal, Function.comp_def]

/-- The text of a number is converted to that number, however large. -/
theorem toUInt64_textSetting (n : UInt64) :
    (textSetting (Text.digitsOf n.toNat)).toUInt64 = .ok n := by
  have number : Setting.textNumber? (String.ofList (Text.digitsOf n.toNat)) = some n.toNat := by
    have starts : Text.StartsWithDigit (String.ofList (Text.digitsOf n.toNat)).toList := by
      rw [String.toList_ofList]
      exact Text.startsWithDigit_digitsOf n.toNat
    unfold Setting.textNumber?
    split
    case h_7 =>
      rw [String.toList_ofList]
      exact Text.unsigned?_digitsOf n.toNat_lt
    all_goals
      rename_i word
      exact absurd word (Text.lower_ne starts (by decide))
  simp [textSetting, Setting.toUInt64, number]

/-- A text that starts with a digit is a number if it can be read as one. -/
theorem value_of_startsWithDigit {text : String} (h : Text.StartsWithDigit text.toList)
    (key : String) :
    value key text =
      match Text.signed? (Nat.pow 2 63) text.toList, Binary64.ofText? text.toList with
      | some i, _ => .scalar (.integer i) (some origin)
      | none, some x => .scalar (.float x) (some origin)
      | none, none =>
        if key == listKey then
          .list ((Text.splitOn ',' text.toList).map textSetting) (some origin)
        else textSetting text.toList := by
  unfold value
  split
  · next same => exact absurd same (Text.lower_ne h (by decide))
  · next same => exact absurd same (Text.lower_ne h (by decide))
  · rfl

/-- Several numbers are taken apart at the commas between them. -/
theorem value_intervalsText_cons_cons (n m : UInt64) (rest : List UInt64) :
    value PollingKey.intervalsMs.key (intervalsText (n :: m :: rest)) =
      .list ((n :: m :: rest).map fun k => textSetting (Text.digitsOf k.toNat)) (some origin) := by
  have pieces : Text.splitOn ',' (intervalsText (n :: m :: rest)).toList =
      (n :: m :: rest).map fun k => Text.digitsOf k.toNat := by
    rw [toList_intervalsText]
    refine Text.splitOn_intercalate (by simp) fun piece member => ?_
    obtain ⟨k, -, rfl⟩ := List.mem_map.mp member
    exact Text.notMem_digitsOf (by decide) _
  have text : (intervalsText (n :: m :: rest)).toList = Text.digitsOf n.toNat ++
      ',' :: [','].intercalate ((m :: rest).map fun k => Text.digitsOf k.toNat) := by
    rw [toList_intervalsText, List.map_cons, List.map_cons, List.intercalate_cons_cons,
      List.append_assoc, List.singleton_append]
  have starts : Text.StartsWithDigit (intervalsText (n :: m :: rest)).toList := by
    rw [text]
    exact Text.startsWithDigit_digitsOf_append _ _
  rw [value_of_startsWithDigit starts, pieces, text, Text.signed?_append_comma,
    Binary64.ofText?_append_comma]
  simp [listKey, PollingKey.key, Function.comp_def]

/-- A single number is taken for a number, and that is no list. -/
theorem toList_value_intervalsText_singleton (n : UInt64) (ns : List UInt64) :
    (value PollingKey.intervalsMs.key (intervalsText [n])).toList Setting.toUInt64 ≠ .ok ns := by
  have text : (intervalsText [n]).toList = Text.digitsOf n.toNat := by
    rw [toList_intervalsText, List.map_singleton, List.intercalate_singleton]
  have starts : Text.StartsWithDigit (intervalsText [n]).toList := by
    rw [text]
    exact Text.startsWithDigit_digitsOf _
  obtain ⟨x, double⟩ := Binary64.exists_ofText?_digitsOf n.toNat
  rw [value_of_startsWithDigit starts, text, double]
  cases Text.signed? (Nat.pow 2 63) (Text.digitsOf n.toNat) with
  | some i => exact nofun
  | none => exact nofun

/-- The intervals are converted if there are at least two. -/
theorem toList_value_intervalsText_iff {ns : List UInt64} (nonempty : ns ≠ [])
    (results : List UInt64) :
    (value PollingKey.intervalsMs.key (intervalsText ns)).toList Setting.toUInt64 = .ok results ↔
      2 ≤ ns.length ∧ results = ns := by
  match ns with
  | [n] => simp [toList_value_intervalsText_singleton]
  | n :: m :: rest =>
    rw [value_intervalsText_cons_cons, Setting.toList_eq_ok_iff, List.forall₂_map_left_iff]
    simp only [toUInt64_textSetting, Except.ok.injEq, List.forall₂_eq_eq_eq]
    simp [eq_comm]

variable {before after : List (String × String)}

/-- Variables that are no settings give no value. -/
theorem lookup_of_foreign {assignments : List (String × String)}
    (foreign : ∀ p ∈ assignments, key? p.1 = none) (k : PollingKey) :
    assignments.lookup k.environmentName = none := by
  refine Fields.lookup_of_notMem fun member => ?_
  obtain ⟨p, inside, same⟩ := List.mem_map.mp member
  have none := foreign p inside
  rw [same, k.key?_environmentName] at none
  cases none

/-- The only setting has its text, and the others have none. -/
theorem given?_alone (foreign : ∀ p ∈ before ++ after, key? p.1 = none) (k : PollingKey)
    (text : String) (k' : PollingKey) :
    given? (before ++ (k.environmentName, text) :: after) k' =
      if k' = k then some (value k.key text) else none := by
  obtain ⟨first, later⟩ := List.forall_mem_append.mp foreign
  have earlier : before.reverse.lookup k'.environmentName = none :=
    lookup_of_foreign (by simpa using first) k'
  have behind : after.reverse.lookup k'.environmentName = none :=
    lookup_of_foreign (by simpa using later) k'
  unfold given? text?
  rw [List.reverse_append, List.reverse_cons, List.append_assoc, List.lookup_append, behind,
    List.lookup_append, earlier]
  by_cases same : k' = k
  · simp [same]
  · have other : (k'.environmentName == k.environmentName) = false := by
      simpa using mt PollingKey.environmentName_inj.mp same
    simp [same, other, List.lookup_cons]

end Environment

namespace Settings

/-- Without a file only the environment counts. -/
theorem winner?_nil (origin : String) (assignments : List (String × String)) (k : PollingKey) :
    winner? origin [] assignments k = Environment.given? assignments k := by
  simp [winner?, pollingFields]

theorem check_of_intervals {ns : List UInt64} (nonempty : ns ≠ []) :
    check { polling := { intervalsMs := ns } } = .ok () := by
  rw [check_eq_ok_iff]
  simp [defect?, nonempty]

variable {before after : List (String × String)}

/-- Whatever the text is that stands alone in the environment for the intervals, the settings are
the intervals that it is converted to, and for all else the defaults. -/
theorem load_alone_iff (foreign : ∀ p ∈ before ++ after, Environment.key? p.1 = none)
    (text : String) (files : Directory) (s : Settings) :
    load files (before ++ (PollingKey.intervalsMs.environmentName, text) :: after) none = .ok s ↔
      ∃ ns, ns ≠ [] ∧
        (Environment.value PollingKey.intervalsMs.key text).toList Setting.toUInt64 = .ok ns ∧
        s = { polling := { intervalsMs := ns } } := by
  have environment : Environment.OfPolling
      (before ++ (PollingKey.intervalsMs.environmentName, text) :: after) := by
    intro p member
    rcases List.mem_append.mp member with inside | inside
    · exact .inl (foreign p (List.mem_append_left _ inside))
    · rcases List.mem_cons.mp inside with rfl | inside
      · exact .inr ⟨.intervalsMs, rfl⟩
      · exact .inl (foreign p (List.mem_append_right _ inside))
  have given := Environment.given?_alone foreign .intervalsMs text
  rw [load_eq_ok_iff (.nothing "") (List.forall_mem_nil _) environment]
  constructor
  · rintro ⟨⟨intervals, attempts, failed, rules⟩, sound⟩
    rw [winner?_nil, given] at intervals attempts failed
    refine ⟨s.polling.intervalsMs, intervalsMs_ne_nil_of_check sound, intervals, ?_⟩
    obtain ⟨⟨intervalsMs, attemptsBeforeNextInterval, maxFailedPolls⟩, wordingRules⟩ := s
    cases attempts
    cases failed
    cases rules
    rfl
  · rintro ⟨ns, nonempty, converted, rfl⟩
    refine ⟨?_, check_of_intervals nonempty⟩
    constructor
    case intervalsMs =>
      rw [winner?_nil, given]
      exact converted
    case attemptsBeforeNextInterval =>
      rw [winner?_nil, given]
      rfl
    case maxFailedPolls =>
      rw [winner?_nil, given]
      rfl
    case wordingRules => exact .nil

/-- Intervals that stand alone in the environment are loaded exactly if there are at least two of
them; all else then has its default. -/
theorem load_intervals_iff (foreign : ∀ p ∈ before ++ after, Environment.key? p.1 = none)
    {ns : List UInt64} (nonempty : ns ≠ []) (files : Directory) (s : Settings) :
    load files (before ++ (PollingKey.intervalsMs.environmentName,
        Environment.intervalsText ns) :: after) none = .ok s ↔
      2 ≤ ns.length ∧ s = { polling := { intervalsMs := ns } } := by
  have converted := Environment.toList_value_intervalsText_iff nonempty
  rw [load_alone_iff foreign]
  constructor
  · rintro ⟨ns', -, same, rfl⟩
    obtain ⟨several, rfl⟩ := (converted ns').mp same
    exact ⟨several, rfl⟩
  · rintro ⟨several, rfl⟩
    exact ⟨ns, nonempty, (converted ns).mpr ⟨several, rfl⟩, rfl⟩

/-- Two intervals are loaded, also where one of them has more than 63 bits. -/
theorem load_intervals_beyond_63_bits :
    load [] [("REMOTE_TASK_POLLING__INTERVALS_MS", "500,18446744073709551615")] none =
      .ok { polling := { intervalsMs := [500, 18446744073709551615] } } := by
  have text : Environment.intervalsText [500, 18446744073709551615]
      = "500,18446744073709551615" := by decide +kernel
  have foreign : ∀ p ∈ ([] ++ [] : List (String × String)), Environment.key? p.1 = none :=
    List.forall_mem_nil _
  have loads := load_intervals_iff foreign (List.cons_ne_nil 500 [18446744073709551615]) []
    { polling := { intervalsMs := [500, 18446744073709551615] } }
  rw [text] at loads
  exact loads.mpr ⟨by decide, rfl⟩

/-- A single interval is taken for a number, and nothing can be loaded. -/
theorem load_single_interval :
    load [] [("REMOTE_TASK_POLLING__INTERVALS_MS", "500")] none =
      .error (.conversion (.badShape "integer `500`" "a sequence")) := by
  decide +kernel

end Settings

end TaskOrchestration
