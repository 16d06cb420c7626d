import TaskOrchestration.Json
import TaskOrchestration.Text.Decimal

/-!
# The value of a written number

A number without fraction and exponent is an integer if it fits 64 bits, and `-0` is not one: it is
the double of that sign. Every other number is a double, found in two steps. The leading digits are
taken as long as the number they make stays below 2^64, and that number is scaled by a power of ten;
each step rounds once. Digits beyond those are zeros in front of the point and nothing behind it.
-/

namespace TaskOrchestration.Json

/-- A number as it is written. -/
structure Numeral where
  /-- Whether a minus sign stands in front. -/
  negative : Bool
  /-- The digits in front of the point. -/
  whole : List Char
  /-- The digits behind the point, empty when there is no point. -/
  fraction : List Char
  /-- Whether the exponent has a minus sign. -/
  exponentNegative : Bool
  /-- The digits of the exponent, empty when there is none. -/
  exponent : List Char

namespace Numeral

/-- Takes digits while the number stays below 2^64; what is left over comes back too. -/
def takeDigits : Nat → List Char → Nat × List Char
  | n, [] => (n, [])
  | n, c :: cs =>
    let m := 10 * n + Text.digitValue c
    if m < UInt64.size then takeDigits m cs else (n, c :: cs)

/-- A double divided by `10 ^ k`, at most `10 ^ 308` at a time. -/
def scaleDown (x : Binary64) (k : Nat) : Binary64 :=
  if k ≤ 308 then x.overTenTo k
  else if x.isZero then x
  else scaleDown (x.overTenTo 308) (k - 308)
termination_by k
decreasing_by omega

/-- The double for `n * 10 ^ exponent`; nothing when it is too large for one. -/
def scaled? (n : Nat) (exponent : Int) : Option Binary64 :=
  let x := Binary64.ofNat n
  match exponent with
  | .ofNat k =>
    if k > 308 then if n == 0 then some x else none
    else
      match x.timesTenTo k with
      | .infinite _ => none
      | y => some y
  | .negSucc k => some (scaleDown x (k + 1))

/-- The double a number stands for. -/
def double? (d : Numeral) : Option Binary64 :=
  let (n, overWhole) := takeDigits 0 d.whole
  let (n, overFraction) := takeDigits n d.fraction
  let kept : Int := (d.fraction.length : Int) - overFraction.length
  let power : Int := Text.valueOf d.exponent
  let magnitude :=
    if power ≥ Nat.pow 2 31 then
      if n != 0 && !d.exponentNegative then none else some (Binary64.finite false 0 0)
    else
      scaled? n (overWhole.length - kept + if d.exponentNegative then -power else power)
  magnitude.map fun x => if d.negative then x.negate else x

/-- The value of a number; nothing when it is beyond the range of a double. -/
def value? (d : Numeral) : Option Json :=
  let n := Text.valueOf d.whole
  if d.fraction.isEmpty && d.exponent.isEmpty then
    if !d.negative && n < UInt64.size then some (.integer n)
    else if d.negative && 0 < n && n ≤ Nat.pow 2 63 then some (.integer (-(n : Int)))
    else d.double?.map .float
  else d.double?.map .float

end Numeral

end TaskOrchestration.Json
