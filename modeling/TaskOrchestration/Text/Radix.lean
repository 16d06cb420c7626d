import TaskOrchestration.Text.Decimal

/-!
# Digits of other bases

Whole numbers in a base up to sixteen, as configuration formats write them and as escapes in texts
name characters.
-/

namespace TaskOrchestration.Text

/-- The value of a hexadecimal digit. -/
def hexValue? (c : Char) : Option Nat :=
  if isDigit c then some (digitValue c)
  else if 'a' ≤ c && c ≤ 'f' then some (c.toNat - 'a'.toNat + 10)
  else if 'A' ≤ c && c ≤ 'F' then some (c.toNat - 'A'.toNat + 10)
  else none

/-- The number that digits of a base stand for; there has to be one at least. -/
def inBase? (base : Nat) (cs : List Char) : Option Nat :=
  let digit? (c : Char) : Option Nat := (hexValue? c).filter (· < base)
  if cs.isEmpty then none
  else cs.foldl (fun n c => do return base * (← n) + (← digit? c)) (some 0)

/-- An integer of a base from `-bound` up to, but not including, `bound`, with an optional sign. -/
def signedInBase? (base bound : Nat) (cs : List Char) : Option Int :=
  match cs with
  | '-' :: ds => (inBase? base ds).bind fun n => if n ≤ bound then some (-(n : Int)) else none
  | '+' :: ds => (inBase? base ds).bind fun n => if n < bound then some (n : Int) else none
  | ds => (inBase? base ds).bind fun n => if n < bound then some (n : Int) else none

/-- The character of a code point. -/
def ofCodePoint? (n : Nat) : Option Char :=
  if n.isValidChar then some (Char.ofNat n) else none

/-- The character whose code point is written in hexadecimal digits. -/
def ofHexadecimal? (cs : List Char) : Option Char := (inBase? 16 cs).bind ofCodePoint?

end TaskOrchestration.Text
