import TaskOrchestration.Number.Reading
import TaskOrchestration.Text.Radix

/-!
# TOML numbers

Integers and doubles. An underscore may stand between two digits, and a decimal number has no zeros
in front that it could do without. Digits do not reach positive infinity; only its word does.
-/

namespace TaskOrchestration.Toml

/-- Digits without the underscores that may stand between two of them. -/
def joined? (digit : Char → Bool) : List Char → Option (List Char)
  | [] => none
  | [c] => if digit c then some [c] else none
  | c :: '_' :: r => if digit c then (joined? digit r).map (c :: ·) else none
  | c :: r => if digit c then (joined? digit r).map (c :: ·) else none

/-- Decimal digits without underscores. -/
def digits? (cs : List Char) : Option (List Char) := joined? Text.isDigit cs

/-- Whether digits have no needless zero in front. -/
def isShort (ds : List Char) : Bool :=
  match ds with
  | '0' :: _ :: _ => false
  | _ => true

/-- A sign, which is left out if it is a plus sign, and what follows it. -/
def sign (cs : List Char) : List Char × List Char :=
  match cs with
  | '-' :: r => (['-'], r)
  | '+' :: r => ([], r)
  | r => ([], r)

/-- An integer without sign in another base than ten. -/
def inBase? (base : Nat) (cs : List Char) : Option Int := do
  let ds ← joined? (fun c => (Text.hexValue? c).any (· < base)) cs
  let n ← Text.inBase? base ds
  if n < Nat.pow 2 63 then return n else none

/-- An integer. -/
def integer? (cs : List Char) : Option Int :=
  match cs with
  | '0' :: 'x' :: r => inBase? 16 r
  | '0' :: 'o' :: r => inBase? 8 r
  | '0' :: 'b' :: r => inBase? 2 r
  | _ => do
    let (sign, r) := sign cs
    let ds ← digits? r
    if isShort ds then Text.signed? (Nat.pow 2 63) (sign ++ ds) else none

/-- Digits with a fraction, an exponent or both, without underscores. -/
def decimal? (cs : List Char) : Option (List Char) := do
  let isMark (c : Char) : Bool := c == 'e' || c == 'E'
  let mantissa := cs.takeWhile fun c => !isMark c
  let whole ← digits? (mantissa.takeWhile (· != '.'))
  let fraction ← match mantissa.dropWhile (· != '.') with
    | [] => some []
    | _ :: f => (digits? f).map ('.' :: ·)
  let power ← match cs.dropWhile fun c => !isMark c with
    | [] => some []
    | _ :: p =>
      let (sign, p) := sign p
      (digits? p).map fun p => 'e' :: sign ++ p
  if isShort whole && !(fraction.isEmpty && power.isEmpty) then return whole ++ fraction ++ power
  else none

/-- A double. -/
def float? (cs : List Char) : Option Binary64 := do
  let (sign, r) := sign cs
  if r == "inf".toList || r == "nan".toList then Binary64.ofText? (sign ++ r)
  else
    let x ← Binary64.ofText? (sign ++ (← decimal? r))
    if x == .infinite false then none else return x

end TaskOrchestration.Toml
