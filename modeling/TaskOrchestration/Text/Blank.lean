/-!
# Blank text

Which characters count as space when a reported message is judged empty, and when a written instant
is read. The set is the Unicode property `White_Space`, all of it, so a text of ideographic spaces
is as blank as one of tabs, and a zero-width space is not blank.
-/

namespace TaskOrchestration.Text

/-- The characters with the Unicode property `White_Space`. -/
def isBlank (c : Char) : Bool :=
  let n := c.toNat
  (0x09 ≤ n && n ≤ 0x0D) || n == 0x20 || n == 0x85 || n == 0xA0 || n == 0x1680
    || (0x2000 ≤ n && n ≤ 0x200A) || n == 0x2028 || n == 0x2029 || n == 0x202F || n == 0x205F
    || n == 0x3000

/-- A text with nothing but blank characters in it, the empty text included. -/
def allBlank (s : String) : Bool := s.toList.all isBlank

/-- Leaves out the blank characters in front. -/
def skipBlanks (cs : List Char) : List Char := cs.dropWhile isBlank

end TaskOrchestration.Text
