/-!
# Names without regard to case

Setting names are compared in lower case. Besides the ASCII capitals only the Kelvin sign has an
ASCII letter as its lower case, so it is the only other letter that can turn a foreign name into a
known one; every other letter stays as it is.
-/

namespace TaskOrchestration.Text

/-- The lower case of an ASCII capital and of the Kelvin sign; any other character itself. -/
def lowerChar (c : Char) : Char :=
  if 'A' ≤ c && c ≤ 'Z' then Char.ofNat (c.toNat + 32)
  else if c == '\u212A' then 'k'
  else c

/-- A text in lower case. -/
def lower (s : String) : String := String.ofList (s.toList.map lowerChar)

end TaskOrchestration.Text
