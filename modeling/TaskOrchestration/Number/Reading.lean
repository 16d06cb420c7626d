import TaskOrchestration.Number.Binary64

/-!
# Reading double precision numbers

A double from its text: digits with at most one point among, before or behind them, an exponent, a
sign, and the words for the values that are not finite. The result is the double nearest to the
written number.
-/

namespace TaskOrchestration.Binary64

/-- An exponent with an optional sign. -/
def exponent? (cs : List Char) : Option Int :=
  let (negative, ds) := match cs with
    | '-' :: r => (true, r)
    | '+' :: r => (false, r)
    | r => (false, r)
  (Text.digits? ds).map fun n => if negative then -(n : Int) else n

/-- A number without sign. -/
def unsigned? (negative : Bool) (cs : List Char) : Option Binary64 :=
  let whole := cs.takeWhile Text.isDigit
  let rest := cs.dropWhile Text.isDigit
  let (fraction, rest) := match rest with
    | '.' :: r => (r.takeWhile Text.isDigit, r.dropWhile Text.isDigit)
    | r => ([], r)
  let power : Option Int := match rest with
    | [] => some 0
    | c :: r => if c == 'e' || c == 'E' then exponent? r else none
  if whole.isEmpty && fraction.isEmpty then none
  else
    power.map fun p =>
      ofDecimal negative (Text.valueOf (whole ++ fraction)) (p - fraction.length)

/-- The value that is named by a word. -/
def ofWord? (negative : Bool) (cs : List Char) : Option Binary64 :=
  match String.ofList (cs.map Char.toLower) with
  | "inf" | "infinity" => some (.infinite negative)
  | "nan" => some .nan
  | _ => none

/-- The double of a text. -/
def ofText? (cs : List Char) : Option Binary64 :=
  let (negative, r) := match cs with
    | '-' :: r => (true, r)
    | '+' :: r => (false, r)
    | r => (false, r)
  ofWord? negative r <|> unsigned? negative r

end TaskOrchestration.Binary64
