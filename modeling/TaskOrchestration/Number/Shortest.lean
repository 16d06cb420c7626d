import TaskOrchestration.Number.Binary64
import TaskOrchestration.Text.Decimal

/-!
# The shortest decimal of a double precision number

A positive double stands for every real number that rounds to it. `shortest` finds the decimal with
the fewest digits among those, and of several with that many the one nearest to the double itself.
The search is on the grids of 1, 2, … 17 significant digits, in exact arithmetic: on each grid only
the two neighbours of the double can lie in its interval.

`DecimalStyle` says which of two decimals is taken that are equally near, and how the digits are
laid out; the three styles in use are values of it.
-/

namespace TaskOrchestration.Binary64

/-- A positive decimal `digits * 10 ^ exponent`. -/
structure Decimal where
  /-- All significant digits as one number. -/
  digits : Nat
  /-- The power of ten of the last digit. -/
  exponent : Int
  deriving DecidableEq, Repr

/-- The reals that round to `m * 2 ^ e`, as fractions over one denominator: the lower end, the
number itself and the upper end. The gap below a power of two is half as wide. -/
structure Interval where
  /-- Numerator of the lower end. -/
  low : Nat
  /-- Numerator of the number. -/
  mid : Nat
  /-- Numerator of the upper end. -/
  high : Nat
  /-- The common denominator. -/
  den : Nat
  /-- Whether the ends round to the number too. -/
  closed : Bool

/-- The interval of a positive double. -/
def intervalOf (m : Nat) (e : Int) : Interval :=
  let (p, q) := fraction 1 (e - 2)
  let below := if m == Nat.pow 2 52 && e > -1074 then 1 else 2
  { low := (4 * m - below) * p, mid := 4 * m * p, high := (4 * m + 2) * p, den := q,
    closed := m % 2 == 0 }

/-- Whether `num / den` rounds to the number the interval belongs to. -/
def Interval.holds (i : Interval) (num den : Nat) : Bool :=
  let x := num * i.den
  if i.closed then i.low * den ≤ x && x ≤ i.high * den else i.low * den < x && x < i.high * den

/-- The power of ten of the leading digit of `num / den`, counted down from `top`. -/
def leadingPlace (num den : Nat) : Nat → Int → Int
  | 0, top => top
  | steps + 1, top =>
    let reached := match top with
      | .ofNat k => decide (Nat.pow 10 k * den ≤ num)
      | .negSucc k => decide (den ≤ num * Nat.pow 10 (k + 1))
    if reached then top else leadingPlace num den steps (top - 1)

/-- Which of two decimals is taken that are equally near. -/
inductive Tie
  | toEven
  | upward
  deriving DecidableEq, Repr

/-- The whole number nearest to `num / den`. -/
def Tie.round (tie : Tie) (num den : Nat) : Nat :=
  match tie with
  | .toEven => roundEven num den
  | .upward => (2 * num + den) / (2 * den)

/-- The point of the grid `10 ^ place` that lies in the interval and nearest to the number. -/
def Interval.gridPoint? (i : Interval) (tie : Tie) (place : Int) : Option Decimal :=
  let (num, den) := match place with
    | .ofNat k => (i.mid, i.den * Nat.pow 10 k)
    | .negSucc k => (i.mid * Nat.pow 10 (k + 1), i.den)
  let below := num / den
  let fits (n : Nat) : Bool := match place with
    | .ofNat k => i.holds (n * Nat.pow 10 k) 1
    | .negSucc k => i.holds n (Nat.pow 10 (k + 1))
  let nearest := tie.round num den
  let other := if nearest == below then below + 1 else below
  -- The nearest point may lie just outside where the gap below the number is the narrower one.
  if nearest > 0 && fits nearest then some ⟨nearest, place⟩
  else if other > 0 && fits other then some ⟨other, place⟩
  else none

/-- Tries grids of one digit more until one has a point in the interval. -/
def Interval.search (i : Interval) (tie : Tie) : Nat → Int → Decimal
  | 0, place => ⟨tie.round i.mid i.den, place⟩
  | steps + 1, place =>
    match i.gridPoint? tie place with
    | some d => d
    | none => i.search tie steps (place - 1)

/-- Drops the zeros at the end of the digits. -/
def Decimal.trim : Nat → Decimal → Decimal
  | 0, d => d
  | steps + 1, d =>
    if d.digits % 10 == 0 && d.digits != 0 then trim steps ⟨d.digits / 10, d.exponent + 1⟩ else d

/-- The shortest decimal that rounds to the positive double `m * 2 ^ e`. -/
def shortest (tie : Tie) (m : Nat) (e : Int) : Decimal :=
  let i := intervalOf m e
  let place := leadingPlace i.mid i.den 700 309
  (i.search tie 18 place).trim 20

/-- How a double is written as a decimal. -/
structure DecimalStyle where
  /-- Which of two decimals is taken that are equally near. -/
  tie : Tie
  /-- The least power of ten of the leading digit written without an exponent. -/
  leastPlace : Option Int
  /-- The greatest such power. -/
  greatestPlace : Option Int
  /-- Whether a whole number carries `.0`. -/
  pointZero : Bool

/-- JSON writes whole numbers with a fraction, and an exponent outside `10^-5 … 10^15`. -/
def jsonStyle : DecimalStyle := ⟨.toEven, some (-5), some 15, true⟩

/-- Settings show a number without exponent and without a needless fraction. -/
def plainStyle : DecimalStyle := ⟨.upward, none, none, false⟩

/-- Complaints about a setting show a number without exponent, but always with a fraction. -/
def pointStyle : DecimalStyle := ⟨.upward, none, none, true⟩

/-- Digits with an exponent: one digit in front of the point. -/
def scientific (ds : List Char) (place : Int) : List Char :=
  let tail := match ds with
    | [] => []
    | [d] => [d]
    | d :: r => d :: '.' :: r
  let power := match place with
    | .ofNat k => '+' :: Text.digitsOf k
    | .negSucc k => '-' :: Text.digitsOf (k + 1)
  tail ++ 'e' :: power

/-- Digits without an exponent. -/
def positional (style : DecimalStyle) (ds : List Char) (exponent : Int) : List Char :=
  let whole := if style.pointZero then ['.', '0'] else []
  match exponent with
  | .ofNat k => ds ++ List.replicate k '0' ++ whole
  | .negSucc k =>
    let behind := k + 1
    if behind < ds.length then
      ds.take (ds.length - behind) ++ '.' :: ds.drop (ds.length - behind)
    else '0' :: '.' :: List.replicate (behind - ds.length) '0' ++ ds

/-- A positive decimal in the given style. -/
def Decimal.text (style : DecimalStyle) (d : Decimal) : List Char :=
  let ds := Text.digitsOf d.digits
  let place := d.exponent + (ds.length : Int) - 1
  let small := match style.leastPlace with
    | some least => decide (place < least)
    | none => false
  let large := match style.greatestPlace with
    | some greatest => decide (greatest < place)
    | none => false
  if small || large then scientific ds place else positional style ds d.exponent

/-- A double as text in the given style. -/
def text (style : DecimalStyle) : Binary64 → String
  | .finite s m e =>
    let body := if m == 0 then positional style ['0'] 0 else (shortest style.tie m e).text style
    String.ofList (if s then '-' :: body else body)
  | .infinite s => if s then "-inf" else "inf"
  | .nan => "NaN"

end TaskOrchestration.Binary64
