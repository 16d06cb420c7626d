import TaskOrchestration.Text.Decimal

/-!
# Double precision numbers

A number of the binary64 format as data: a sign, a whole significand below 2^53 and a power of two,
or an infinity, or not a number. Every operation is exact arithmetic on natural numbers followed by
one rounding to the nearest representable value, ties going to the even significand.
-/

namespace TaskOrchestration

/-- A double precision number. -/
inductive Binary64
  /-- The value `± significand * 2 ^ exponent`. -/
  | finite (negative : Bool) (significand : Nat) (exponent : Int)
  /-- An infinity. -/
  | infinite (negative : Bool)
  /-- Not a number. -/
  | nan
  deriving DecidableEq, Repr

namespace Binary64

/-- The quotient rounded to the nearest natural number, a half to the even neighbour. -/
def roundEven (num den : Nat) : Nat :=
  let q := num / den
  let twice := 2 * (num % den)
  if twice < den || (twice == den && q % 2 == 0) then q else q + 1

/-- The quotient rounded to the nearest natural number, a half upwards. -/
def roundUp (num den : Nat) : Nat := (2 * num + den) / (2 * den)

/-- The number `n * 2 ^ e` as a fraction. -/
def fraction (n : Nat) (e : Int) : Nat × Nat :=
  match e with
  | .ofNat k => (n * Nat.pow 2 k, 1)
  | .negSucc k => (n, Nat.pow 2 (k + 1))

/-- The exponent of the leading binary digit of a positive fraction. -/
def leadingExponent (num den : Nat) : Int :=
  let guess : Int := (num.log2 : Int) - (den.log2 : Int)
  let (p, q) := fraction den guess
  if p ≤ num * q then guess else guess - 1

/-- The representable number nearest to `num / den`. -/
def ofRatio (negative : Bool) (num den : Nat) : Binary64 :=
  if num == 0 then .finite negative 0 0
  else
    let e : Int := max (leadingExponent num den - 52) (-1074)
    let (n, d) := fraction num (-e)
    let m := roundEven n (d * den)
    -- Rounding up to 2^53 moves on to the next power of two.
    let (m, e) := if m == Nat.pow 2 53 then (Nat.pow 2 52, e + 1) else (m, e)
    if e > 971 then .infinite negative else .finite negative m e

/-- The representable number nearest to a natural number. -/
def ofNat (n : Nat) : Binary64 := ofRatio false n 1

/-- The representable number nearest to `digits * 10 ^ exponent`. The count of digits settles the
values beyond the range of the format, so no power far beyond that range is ever computed. -/
def ofDecimal (negative : Bool) (digits : Nat) (exponent : Int) : Binary64 :=
  let magnitude : Int := ((Text.digitsOf digits).length : Int) + exponent
  if digits == 0 then .finite negative 0 0
  else if magnitude > 310 then .infinite negative
  else if magnitude < -330 then .finite negative 0 0
  else
    match exponent with
    | .ofNat k => ofRatio negative (digits * Nat.pow 10 k) 1
    | .negSucc k => ofRatio negative digits (Nat.pow 10 (k + 1))

/-- The number with the other sign. -/
def negate : Binary64 → Binary64
  | .finite s m e => .finite (!s) m e
  | .infinite s => .infinite (!s)
  | .nan => .nan

/-- A zero of either sign. -/
def isZero : Binary64 → Bool
  | .finite _ m _ => m == 0
  | _ => false

/-- The representable number nearest to the product with a power of ten. -/
def timesTenTo (k : Nat) : Binary64 → Binary64
  | .finite s m e =>
    match ofDecimal false 1 k with
    | .finite _ n f =>
      let (p, q) := fraction (m * n) (e + f)
      ofRatio s p q
    | _ => .infinite s
  | x => x

/-- The representable number nearest to the quotient by a power of ten. -/
def overTenTo (k : Nat) : Binary64 → Binary64
  | .finite s m e =>
    match ofDecimal false 1 k with
    | .finite _ n f =>
      let (p, q) := fraction m (e - f)
      ofRatio s p (q * n)
    | _ => .finite s 0 0
  | x => x

/-- The nearest natural number, a half away from zero, kept between `0` and `limit`; not a number
counts as zero. -/
def toNatClamped (limit : Nat) : Binary64 → Nat
  | .finite true _ _ => 0
  | .finite false m e =>
    let (p, q) := fraction m e
    min (roundUp p q) limit
  | .infinite true => 0
  | .infinite false => limit
  | .nan => 0

end Binary64

end TaskOrchestration
