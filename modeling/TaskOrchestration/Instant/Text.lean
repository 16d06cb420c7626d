import TaskOrchestration.Instant
import TaskOrchestration.Text.Blank
import TaskOrchestration.Text.Decimal

/-!
# Instants as text

An instant is written in the form of RFC 3339 in universal time, `2024-01-01T00:00:00Z`, with the
part of the second in three, six or nine digits where it is not zero, and a signed year outside
0 to 9999. Reading is more lenient: `t` or a space for the `T`, blank characters between the parts,
a part of the second of any length, of which nine digits count, and any offset to universal time.
-/

namespace TaskOrchestration.Instant

open Text

/-- Why a text is no instant. -/
inductive TextError
  | outOfRange
  | impossible
  | invalid
  | tooShort
  | trailing
  deriving DecidableEq, Repr

/-- The wording of the reason. -/
def TextError.message : TextError → String
  | .outOfRange => "input is out of range"
  | .impossible => "no possible date and time matching input"
  | .invalid => "input contains invalid characters"
  | .tooShort => "premature end of input"
  | .trailing => "trailing input"

/-! ## Writing -/

/-- A year as four digits, with a sign when it needs more or is negative. -/
def yearText (year : Int) : String :=
  match year with
  | .ofNat n => if n ≤ 9999 then padded 4 n else "+" ++ padded 4 n
  | .negSucc n => "-" ++ padded 4 (n + 1)

/-- The part of a second as the least of zero, three, six and nine digits that shows all of it. -/
def nanoText (nano : Nat) : String :=
  if nano == 0 then ""
  else if nano % 1000000 == 0 then "." ++ padded 3 (nano / 1000000)
  else if nano % 1000 == 0 then "." ++ padded 6 (nano / 1000)
  else "." ++ padded 9 nano

/-- The instant in universal time. -/
def text (i : Instant) : String :=
  let r := i.reading
  yearText r.date.year ++ "-" ++ padded 2 r.date.month ++ "-" ++ padded 2 r.date.day
    ++ "T" ++ padded 2 r.hour ++ ":" ++ padded 2 r.minute ++ ":" ++ padded 2 r.second
    ++ nanoText r.nano ++ "Z"

/-! ## Reading -/

/-- Reads a number of at least one digit and at most `width`. -/
def number (width : Nat) (cs : List Char) : Except TextError (Nat × List Char) :=
  let ds := (cs.take width).takeWhile isDigit
  if cs.isEmpty then .error .tooShort
  else if ds.isEmpty then .error .invalid
  else .ok (valueOf ds, cs.drop ds.length)

/-- Reads a number of any length, blank characters in front of it being left out. -/
def part (least greatest : Nat) (cs : List Char) : Except TextError (Nat × List Char) := do
  let (n, rest) ← number 2 (skipBlanks cs)
  if least ≤ n && n ≤ greatest then .ok (n, rest) else .error .outOfRange

/-- Reads a year: four digits at most, or any number of them behind a sign. -/
def year (cs : List Char) : Except TextError (Int × List Char) :=
  match skipBlanks cs with
  | '-' :: r => do
    let (n, rest) ← number r.length r
    if n ≤ Nat.pow 2 31 then .ok (-(n : Int), rest) else .error .outOfRange
  | '+' :: r => do
    let (n, rest) ← number r.length r
    if n < Nat.pow 2 31 then .ok ((n : Int), rest) else .error .outOfRange
  | r => do
    let (n, rest) ← number 4 r
    .ok ((n : Int), rest)

/-- Reads the mark `c`, blank characters in front of it being left out. -/
def mark (c : Char) (cs : List Char) : Except TextError (List Char) :=
  match skipBlanks cs with
  | [] => .error .tooShort
  | d :: r => if d == c then .ok r else .error .invalid

/-- Reads the mark between date and time. -/
def divider : List Char → Except TextError (List Char)
  | [] => .error .tooShort
  | c :: r => if c == 'T' || c == 't' || c == ' ' then .ok r else .error .invalid

/-- Reads the part of a second, if there is one, in nanoseconds. -/
def nanos : List Char → Except TextError (Nat × List Char)
  | '.' :: r => do
    let ds := (r.take 9).takeWhile isDigit
    let (n, rest) ← number 9 r
    .ok (n * Nat.pow 10 (9 - ds.length), rest.dropWhile isDigit)
  | cs => .ok (0, cs)

/-- Reads two digits of which the first must not exceed `top`. -/
def twoDigits (top : Char) : List Char → Except TextError (Nat × List Char)
  | [] => .error .tooShort
  -- Length is counted in bytes here, so one wide character is enough text, but no digit.
  | [c] => .error (if c.utf8Size < 2 then .tooShort else .invalid)
  | a :: b :: r =>
    if !(isDigit a && isDigit b) then .error .invalid
    else if top < a then .error .outOfRange
    else .ok (10 * digitValue a + digitValue b, r)

/-- Reads hours and minutes of an offset, without its sign. -/
def offsetMinutes (cs : List Char) : Except TextError (Int × List Char) := do
  let (hours, rest) ← twoDigits '9' cs
  let (minutes, rest) ← twoDigits '5' (rest.dropWhile fun c => c == ':' || isBlank c)
  .ok ((hours * 60 + minutes : Nat), rest)

/-- Reads the offset to universal time, in minutes. -/
def offset (cs : List Char) : Except TextError (Int × List Char) :=
  match skipBlanks cs with
  | [] => .error .tooShort
  | c :: r =>
    if c == 'Z' || c == 'z' then .ok (0, r)
    else if c == '+' then offsetMinutes r
    else if c == '-' || c == '\u2212' then do
      let (minutes, rest) ← offsetMinutes r
      .ok (-minutes, rest)
    else
      match r with
      | t :: u :: rest =>
        if (c == 'U' || c == 'u') && (t == 'T' || t == 't') && (u == 'C' || u == 'c') then
          .ok (0, rest)
        else .error .invalid
      | _ => .error .invalid

/-- The instant at which clocks with an offset, in minutes, to universal time show a reading. -/
def ofOffset (reading : Reading) (minutes : Int) : Except TextError Instant :=
  -- The written day has to exist by itself, not only once it is shifted to universal time.
  if !reading.isValid || !(minutes.natAbs < 1440) then .error .outOfRange
  else
    match ofReading? (reading.inUniversalTime minutes) with
    | some i => .ok i
    | none => .error .impossible

/-- Reads an instant from a text that holds nothing else. -/
def ofText (s : String) : Except TextError Instant := do
  let (year, cs) ← year s.toList
  let cs ← mark '-' cs
  let (month, cs) ← part 1 12 cs
  let cs ← mark '-' cs
  let (day, cs) ← part 1 31 cs
  let cs ← divider cs
  let (hour, cs) ← part 0 23 cs
  let cs ← mark ':' cs
  let (minute, cs) ← part 0 59 cs
  let cs ← mark ':' cs
  let (second, cs) ← part 0 60 cs
  let (nano, cs) ← nanos cs
  let (minutes, cs) ← offset cs
  let reading : Reading := ⟨⟨year, month, day⟩, hour, minute, second, nano⟩
  if !(skipBlanks cs).isEmpty then .error .trailing else ofOffset reading minutes

end TaskOrchestration.Instant
