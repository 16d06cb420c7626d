import TaskOrchestration.Instant.Text

/-!
# Instants survive their text

`ofText_text`: what is written for an instant is read as that instant. The text is read piece by
piece, so there is one lemma for each piece, in front of whatever text follows.
-/

namespace TaskOrchestration

/-- A reader goes on with what it has read. -/
@[simp] theorem ok_bind {ε α β : Type} (a : α) (next : α → Except ε β) :
    (Except.ok a >>= next) = next a := rfl

namespace Text

/-- A digit is not blank. -/
theorem isBlank_of_isDigit {c : Char} (h : isDigit c = true) : isBlank c = false := by
  simp only [isDigit, Bool.and_eq_true, decide_eq_true_eq, Char.le_def, UInt32.le_iff_toNat_le] at h
  obtain ⟨low, high⟩ := h
  change 48 ≤ c.toNat at low
  change c.toNat ≤ 57 at high
  simp only [isBlank, Bool.or_eq_false_iff, Bool.and_eq_false_iff, decide_eq_false_iff_not,
    beq_eq_false_iff_ne, ne_eq]
  omega

/-- A text that begins with digits has a digit for its first character. -/
theorem isDigit_of_append_eq_cons {ds rest cs : List Char} {c : Char}
    (digits : ds.all isDigit = true) (ne : ds ≠ []) (h : ds ++ rest = c :: cs) :
    isDigit c = true := by
  cases ds with
  | nil => exact absurd rfl ne
  | cons d ds =>
    rw [List.all_cons, Bool.and_eq_true] at digits
    rw [List.cons_append, List.cons.injEq] at h
    exact h.1 ▸ digits.1

/-- Nothing is left out in front of digits. -/
theorem skipBlanks_digits {ds : List Char} (digits : ds.all isDigit = true) (ne : ds ≠ [])
    (rest : List Char) : skipBlanks (ds ++ rest) = ds ++ rest := by
  unfold skipBlanks
  cases h : ds ++ rest with
  | nil => rfl
  | cons c cs =>
    have visible := isBlank_of_isDigit (isDigit_of_append_eq_cons digits ne h)
    rw [List.dropWhile_cons_of_neg (by rw [visible]; decide)]

/-- The digits in front of a text that goes on without one are found in full. -/
theorem takeWhile_digits {ds rest : List Char} (digits : ds.all isDigit = true)
    (stop : ∀ c ∈ rest.head?, isDigit c = false) : (ds ++ rest).takeWhile isDigit = ds := by
  rw [List.takeWhile_append_of_pos (List.all_eq_true.mp digits)]
  cases rest with
  | nil => simp
  | cons c rest => simp [stop c rfl]

/-- What stands behind the digits is left when they are dropped. -/
theorem dropWhile_digits {ds rest : List Char} (digits : ds.all isDigit = true)
    (stop : ∀ c ∈ rest.head?, isDigit c = false) : (ds ++ rest).dropWhile isDigit = rest := by
  have whole := List.takeWhile_append_dropWhile (p := isDigit) (l := ds ++ rest)
  rw [takeWhile_digits digits stop] at whole
  exact List.append_cancel_left whole

end Text

namespace Instant

open Text

/-- The digits found in a window that holds all of them. -/
theorem takeWhile_take_digits {width : Nat} {ds rest : List Char} (digits : ds.all isDigit = true)
    (short : ds.length ≤ width)
    (stop : ds.length = width ∨ ∀ c ∈ rest.head?, isDigit c = false) :
    ((ds ++ rest).take width).takeWhile isDigit = ds := by
  rw [List.take_append, List.take_of_length_le short]
  refine takeWhile_digits digits ?_
  rcases stop with full | stop
  · simp [full]
  · intro c hc
    rw [List.head?_take] at hc
    split at hc
    · exact absurd hc (by simp)
    · exact stop c hc

/-- A number is read from its digits, if they fill the width or the text goes on without a digit. -/
theorem number_digits {width : Nat} {ds rest : List Char} (digits : ds.all isDigit = true)
    (ne : ds ≠ []) (short : ds.length ≤ width)
    (stop : ds.length = width ∨ ∀ c ∈ rest.head?, isDigit c = false) :
    number width (ds ++ rest) = .ok (valueOf ds, rest) := by
  have found := takeWhile_take_digits digits short stop
  have present : (ds ++ rest).isEmpty = false := by
    cases ds with
    | nil => exact absurd rfl ne
    | cons d ds => rfl
  simp only [number, found, present, List.isEmpty_eq_false_iff.mpr ne, List.drop_left,
    Bool.false_eq_true, if_false]

/-- A number that fills its width is read back. -/
theorem number_padded {width n : Nat} (pos : 0 < width) (small : n < Nat.pow 10 width)
    (rest : List Char) : number width ((padded width n).toList ++ rest) = .ok (n, rest) := by
  have len := length_padded pos small
  rw [number_digits (all_isDigit_padded _ _) (padded_ne_nil _ _) (Nat.le_of_eq len) (.inl len),
    valueOf_padded]

/-- A part of a date or a time is read back. -/
theorem part_padded {least greatest n : Nat} (low : least ≤ n) (high : n ≤ greatest)
    (small : n < 100) (rest : List Char) :
    part least greatest ((padded 2 n).toList ++ rest) = .ok (n, rest) := by
  simp only [part, skipBlanks_digits (all_isDigit_padded _ _) (padded_ne_nil _ _),
    number_padded (by decide : 0 < 2) small, ok_bind, low, high, decide_true,
    Bool.and_self, if_true]

/-- A mark is read in front of any text. -/
theorem mark_cons {c : Char} (visible : isBlank c = false) (rest : List Char) :
    mark c (c :: rest) = .ok rest := by
  simp [mark, skipBlanks, visible]

/-- A year in the range of dates is read back, with or without a sign. -/
theorem year_yearText {y : Int} (low : Date.firstYear ≤ y) (high : y ≤ Date.lastYear)
    (rest : List Char) : year ((yearText y).toList ++ '-' :: rest) = .ok (y, '-' :: rest) := by
  rw [Date.firstYear] at low
  rw [Date.lastYear] at high
  -- A signed year is read up to the first character that is no digit.
  have signed (n : Nat) :
      number ((padded 4 n).toList ++ '-' :: rest).length ((padded 4 n).toList ++ '-' :: rest)
        = .ok (n, '-' :: rest) := by
    rw [number_digits (all_isDigit_padded _ _) (padded_ne_nil _ _) (by simp)
      (.inr (by simp [isDigit])), valueOf_padded]
  cases y with
  | negSucc n =>
    have inRange : n + 1 ≤ Nat.pow 2 31 := by
      show n + 1 ≤ 2147483648
      omega
    have text : (yearText (.negSucc n)).toList = '-' :: (padded 4 (n + 1)).toList := by
      simp [yearText]
    rw [text, List.cons_append, year, skipBlanks, List.dropWhile_cons_of_neg (by decide)]
    simp only [signed, ok_bind, inRange, if_true]
    rfl
  | ofNat n =>
    by_cases small : n ≤ 9999
    · have text : (yearText (.ofNat n)).toList = (padded 4 n).toList := by simp [yearText, small]
      have first {c : Char} {cs : List Char}
          (h : (padded 4 n).toList ++ '-' :: rest = c :: cs) : isDigit c = true :=
        isDigit_of_append_eq_cons (all_isDigit_padded 4 n) (padded_ne_nil 4 n) h
      rw [text, year, skipBlanks_digits (all_isDigit_padded _ _) (padded_ne_nil _ _)]
      split
      · next h => exact absurd (first h) (by decide)
      · next h => exact absurd (first h) (by decide)
      · rw [number_padded (by decide) (show n < 10000 by omega)]
        rfl
    · have inRange : n < Nat.pow 2 31 := by
        show n < 2147483648
        rw [Int.ofNat_eq_natCast] at high
        omega
      have text : (yearText (.ofNat n)).toList = '+' :: (padded 4 n).toList := by
        simp [yearText, small]
      rw [text, List.cons_append, year, skipBlanks, List.dropWhile_cons_of_neg (by decide)]
      simp only [signed, ok_bind, inRange, if_true]
      rfl

/-- The part of a second is read back, in as many digits as were written. -/
theorem nanos_nanoText {n : Nat} (small : n < 1000000000) (rest : List Char) :
    nanos ((nanoText n).toList ++ 'Z' :: rest) = .ok (n, 'Z' :: rest) := by
  -- The digits behind the point stand for the first places of nine.
  have fraction {width k : Nat} (pos : 0 < width) (short : width ≤ 9)
      (fits : k < Nat.pow 10 width) :
      nanos ('.' :: ((padded width k).toList ++ 'Z' :: rest))
        = .ok (k * Nat.pow 10 (9 - width), 'Z' :: rest) := by
    have len := length_padded pos fits
    have found : (((padded width k).toList ++ 'Z' :: rest).take 9).takeWhile isDigit
        = (padded width k).toList := takeWhile_take_digits (all_isDigit_padded _ _) (by omega)
      (.inr (by simp [isDigit]))
    have read : number 9 ((padded width k).toList ++ 'Z' :: rest) = .ok (k, 'Z' :: rest) := by
      rw [number_digits (all_isDigit_padded _ _) (padded_ne_nil _ _) (by omega)
        (.inr (by simp [isDigit])), valueOf_padded]
    simp only [nanos, found, read, len, ok_bind]
    rw [List.dropWhile_cons_of_neg (by decide)]
  unfold nanoText
  split
  · next h =>
    rw [beq_iff_eq] at h
    subst h
    rfl
  · split
    · next h =>
      have whole : n / 1000000 * 1000000 = n := by
        rw [beq_iff_eq] at h
        omega
      have := fraction (by decide : 0 < 3) (by decide) (show n / 1000000 < 1000 by omega)
      rw [whole] at this
      simpa using this
    · split
      · next h =>
        have whole : n / 1000 * 1000 = n := by
          rw [beq_iff_eq] at h
          omega
        have := fraction (by decide : 0 < 6) (by decide) (show n / 1000 < 1000000 by omega)
        rw [whole] at this
        simpa using this
      · have := fraction (by decide : 0 < 9) (by decide) (show n < 1000000000 from small)
        simpa using this

/-- No month has more than 31 days. -/
theorem daysInMonth_le (year : Int) (month : Nat) : Date.daysInMonth year month ≤ 31 := by
  unfold Date.daysInMonth
  split
  · split <;> decide
  · split <;> decide

/-- A clock that is not ahead of universal time shows universal time. -/
theorem inUniversalTime_zero {r : Reading} (hour : r.hour ≤ 23) (minute : r.minute ≤ 59) :
    r.inUniversalTime 0 = r := by
  have sameDay : ¬ (r.hour : Int) * 60 + r.minute - 0 < 0 := by omega
  have sameDay' : ¬ 1440 ≤ (r.hour : Int) * 60 + r.minute - 0 := by omega
  have inDay : (((r.hour : Int) * 60 + r.minute - 0) % 1440).toNat = r.hour * 60 + r.minute := by
    omega
  have hours : (r.hour * 60 + r.minute) / 60 = r.hour := by omega
  have minutes : (r.hour * 60 + r.minute) % 60 = r.minute := by omega
  simp only [Reading.inUniversalTime, sameDay, sameDay', inDay, hours, minutes, if_false]

/-- Clocks in universal time show the reading of an instant. -/
theorem ofOffset_zero {i : Instant} (hour : i.reading.hour ≤ 23) (minute : i.reading.minute ≤ 59) :
    ofOffset i.reading 0 = .ok i := by
  have shown : ofReading? i.reading = some i := dif_pos i.valid
  have inRange : (!i.reading.isValid || !decide ((0 : Int).natAbs < 1440)) = false := by
    rw [i.valid]
    decide
  rw [ofOffset, inRange, inUniversalTime_zero hour minute, shown]
  rfl

/-- What is written for an instant is read as that instant. -/
theorem ofText_text (i : Instant) : ofText i.text = .ok i := by
  have bounds := i.valid
  simp only [Reading.isValid, Date.isValid, Bool.and_eq_true, decide_eq_true_eq] at bounds
  obtain ⟨⟨⟨⟨⟨⟨⟨⟨⟨firstYear, lastYear⟩, firstMonth⟩, lastMonth⟩, firstDay⟩, lastDay⟩, hours⟩,
    minutes⟩, seconds⟩, nanos⟩ := bounds
  have days : i.reading.date.day ≤ 31 := Nat.le_trans lastDay (daysInMonth_le _ _)
  have written : i.text.toList
      = (yearText i.reading.date.year).toList ++ '-' :: ((padded 2 i.reading.date.month).toList
        ++ '-' :: ((padded 2 i.reading.date.day).toList ++ 'T' :: ((padded 2 i.reading.hour).toList
        ++ ':' :: ((padded 2 i.reading.minute).toList ++ ':' :: ((padded 2 i.reading.second).toList
        ++ ((nanoText i.reading.nano).toList ++ 'Z' :: [])))))) := by
    simp [text]
  rw [ofText, written, year_yearText firstYear lastYear, ok_bind]
  simp only [mark_cons (by decide : isBlank '-' = false), ok_bind,
    part_padded firstMonth lastMonth (by omega), part_padded firstDay days (by omega)]
  rw [show ∀ rest, divider ('T' :: rest) = .ok rest from fun _ => rfl, ok_bind]
  simp only [mark_cons (by decide : isBlank ':' = false), ok_bind,
    part_padded (Nat.zero_le _) hours (by omega), part_padded (Nat.zero_le _) minutes (by omega),
    part_padded (Nat.zero_le _) seconds (by omega), nanos_nanoText nanos]
  rw [show offset ['Z'] = .ok (0, []) from rfl, ok_bind]
  -- What was read is `i.reading` field by field.
  exact ofOffset_zero hours minutes

end Instant

end TaskOrchestration
