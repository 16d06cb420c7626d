/-!
# Whole numbers in decimal

Writing a natural number as its decimal digits without leading zeros, and reading one back, with the
sign rules of the two kinds of integer the program meets: unsigned ones refuse a minus sign, signed
ones take either sign, and both allow leading zeros and a plus sign. `digits?_digitsOf` says that
the digits written for a number are read as that number.
-/

namespace TaskOrchestration.Text

/-- The ten decimal digits. -/
def isDigit (c : Char) : Bool := '0' ≤ c && c ≤ '9'

/-- The number a digit stands for. -/
def digitValue (c : Char) : Nat := c.toNat - '0'.toNat

/-- The digit of a number below ten. -/
def digitOf (n : Nat) : Char := Char.ofNat ('0'.toNat + n % 10)

/-- The decimal digits of a number, most significant first, without leading zeros. -/
def digitsOf (n : Nat) : List Char :=
  if _h : n < 10 then [digitOf n] else digitsOf (n / 10) ++ [digitOf n]
termination_by n
decreasing_by omega

/-- The number that a list of digits stands for. -/
def valueOf (ds : List Char) : Nat := ds.foldl (fun n c => 10 * n + digitValue c) 0

/-- The digit of a number is one of the ten. -/
theorem isDigit_digitOf (n : Nat) : isDigit (digitOf n) = true := by
  have digits : ∀ d < 10, isDigit (Char.ofNat ('0'.toNat + d)) = true := by decide
  exact digits (n % 10) (Nat.mod_lt n (by decide))

/-- The digit of a number stands for its last decimal. -/
theorem digitValue_digitOf (n : Nat) : digitValue (digitOf n) = n % 10 := by
  have digits : ∀ d < 10, digitValue (Char.ofNat ('0'.toNat + d)) = d := by decide
  exact digits (n % 10) (Nat.mod_lt n (by decide))

/-- One more digit shifts the number before it by one place. -/
theorem valueOf_concat (ds : List Char) (c : Char) :
    valueOf (ds ++ [c]) = 10 * valueOf ds + digitValue c := by
  simp [valueOf]

/-- The digits of a number stand for it. -/
theorem valueOf_digitsOf (n : Nat) : valueOf (digitsOf n) = n := by
  fun_induction digitsOf n with
  | case1 n h => simp [valueOf, digitValue_digitOf]; omega
  | case2 n h ih => rw [valueOf_concat, ih, digitValue_digitOf]; omega

/-- A number is written with digits only. -/
theorem all_isDigit_digitsOf (n : Nat) : (digitsOf n).all isDigit = true := by
  fun_induction digitsOf n with
  | case1 n h => simp [isDigit_digitOf]
  | case2 n h ih => simp [ih, isDigit_digitOf]

/-- A number is written with at least one digit. -/
theorem digitsOf_ne_nil (n : Nat) : digitsOf n ≠ [] := by
  rw [digitsOf]; split <;> simp

/-- A natural number as text. -/
def decimal (n : Nat) : String := String.ofList (digitsOf n)

/-- An integer as text, with a minus sign when it is negative. -/
def signedDecimal : Int → String
  | .ofNat n => decimal n
  | .negSucc n => "-" ++ decimal (n + 1)

/-- Digits padded with zeros in front to at least `width` places. -/
def padded (width n : Nat) : String :=
  let ds := digitsOf n
  String.ofList (List.replicate (width - ds.length) '0' ++ ds)

/-- A number below `10 ^ width` has at most `width` digits. -/
theorem length_digitsOf_le {width n : Nat} (pos : 0 < width) (small : n < Nat.pow 10 width) :
    (digitsOf n).length ≤ width := by
  fun_induction digitsOf n generalizing width with
  | case1 n h => exact pos
  | case2 n h ih =>
    obtain ⟨w, rfl⟩ : ∃ w, width = w + 1 := ⟨width - 1, by omega⟩
    have scaled : n < Nat.pow 10 w * 10 := small
    have hw : 0 < w := by
      rcases Nat.eq_zero_or_pos w with rfl | hw
      · have one : Nat.pow 10 0 = 1 := rfl
        omega
      · exact hw
    have : n / 10 < Nat.pow 10 w := by omega
    have := ih hw this
    simp only [List.length_append, List.length_singleton]
    omega

/-- Zeros in front of a number do not change it. -/
theorem valueOf_zeros_append (k : Nat) (ds : List Char) :
    valueOf (List.replicate k '0' ++ ds) = valueOf ds := by
  induction k with
  | zero => rfl
  | succ k ih => exact ih

theorem toList_padded (width n : Nat) :
    (padded width n).toList
      = List.replicate (width - (digitsOf n).length) '0' ++ digitsOf n := by
  simp [padded]

/-- Padding does not change the number. -/
theorem valueOf_padded (width n : Nat) : valueOf (padded width n).toList = n := by
  rw [toList_padded, valueOf_zeros_append, valueOf_digitsOf]

/-- A padded number is written with digits only. -/
theorem all_isDigit_padded (width n : Nat) : (padded width n).toList.all isDigit = true := by
  rw [toList_padded, List.all_append, all_isDigit_digitsOf, Bool.and_true, List.all_replicate]
  split <;> decide

theorem padded_ne_nil (width n : Nat) : (padded width n).toList ≠ [] := by
  rw [toList_padded]
  simp [digitsOf_ne_nil]

/-- A number that is not too large for it fills its width exactly. -/
theorem length_padded {width n : Nat} (pos : 0 < width) (small : n < Nat.pow 10 width) :
    (padded width n).toList.length = width := by
  have := length_digitsOf_le pos small
  rw [toList_padded, List.length_append, List.length_replicate]
  omega

/-- A list of digits, at least one, as a number. -/
def digits? (cs : List Char) : Option Nat :=
  if cs.isEmpty || !cs.all isDigit then none else some (valueOf cs)

/-- What is written for a number is read as that number. -/
theorem digits?_digitsOf (n : Nat) : digits? (digitsOf n) = some n := by
  simp [digits?, all_isDigit_digitsOf, digitsOf_ne_nil, valueOf_digitsOf]

/-- An unsigned number below `bound`; a plus sign may stand in front. -/
def unsigned? (bound : Nat) (cs : List Char) : Option Nat :=
  let ds := match cs with
    | '+' :: r => r
    | r => r
  match digits? ds with
  | some n => if n < bound then some n else none
  | none => none

/-- An integer from `-bound` up to, but not including, `bound`, with an optional sign. -/
def signed? (bound : Nat) (cs : List Char) : Option Int :=
  match cs with
  | '-' :: ds =>
    match digits? ds with
    | some n => if n ≤ bound then some (-(n : Int)) else none
    | none => none
  | ds =>
    match unsigned? bound ds with
    | some n => some (n : Int)
    | none => none

end TaskOrchestration.Text
