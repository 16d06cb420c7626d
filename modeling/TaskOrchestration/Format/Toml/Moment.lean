import TaskOrchestration.Text.Decimal

/-!
# TOML dates and times

A day of the calendar, a time of day, or both with or without an offset from universal time. They
are kept as texts in one form: a `T` between date and time, a fraction of nine digits at most
without zeros behind it, and `Z` or a signed offset.
-/

namespace TaskOrchestration.Toml

/-- Reads as many digits as `count` says. -/
def digitsOfCount? (count : Nat) (cs : List Char) : Option (List Char × List Char) :=
  let ds := cs.take count
  if ds.length == count && ds.all Text.isDigit then some (ds, cs.drop count) else none

/-- Reads two digits whose number lies between `low` and `high`. -/
def twoDigits? (low high : Nat) (cs : List Char) : Option (List Char × List Char) := do
  let (ds, r) ← digitsOfCount? 2 cs
  if low ≤ Text.valueOf ds && Text.valueOf ds ≤ high then return (ds, r) else none

/-- Reads a character. -/
def mark? (c : Char) (cs : List Char) : Option (List Char) :=
  match cs with
  | d :: r => if d == c then some r else none
  | [] => none

/-- The number of days of a month. -/
def daysOfMonth (year month : Nat) : Nat :=
  let isLeap := year % 4 == 0 && (year % 100 != 0 || year % 400 == 0)
  if month == 2 then if isLeap then 29 else 28
  else if month == 4 || month == 6 || month == 9 || month == 11 then 30
  else 31

/-- Reads a date. -/
def date? (cs : List Char) : Option (List Char × List Char) := do
  let (year, r) ← digitsOfCount? 4 cs
  let (month, r) ← twoDigits? 1 12 (← mark? '-' r)
  let (day, r) ← twoDigits? 1 (daysOfMonth (Text.valueOf year) (Text.valueOf month)) (← mark? '-' r)
  return (year ++ '-' :: month ++ '-' :: day, r)

/-- Reads the fraction of a second. It is cut behind nine digits, without zeros at its end, and left
out if nothing remains. -/
def fraction? (cs : List Char) : Option (List Char × List Char) :=
  match cs with
  | '.' :: r =>
    let ds := r.takeWhile Text.isDigit
    let kept := ((ds.take 9).reverse.dropWhile (· == '0')).reverse
    if ds.isEmpty then none
    else some (if kept.isEmpty then [] else '.' :: kept, r.drop ds.length)
  | r => some ([], r)

/-- Reads a time of day. A minute may have a leap second. -/
def time? (cs : List Char) : Option (List Char × List Char) := do
  let (hour, r) ← twoDigits? 0 23 cs
  let (minute, r) ← twoDigits? 0 59 (← mark? ':' r)
  let (second, r) ← twoDigits? 0 60 (← mark? ':' r)
  let (fraction, r) ← fraction? r
  return (hour ++ ':' :: minute ++ ':' :: second ++ fraction, r)

/-- Reads an offset, if there is one. An offset of zero is positive. -/
def offset? (cs : List Char) : Option (List Char × List Char) :=
  match cs with
  | 'Z' :: r => some (['Z'], r)
  | 'z' :: r => some (['Z'], r)
  | s :: r =>
    if s == '+' || s == '-' then do
      let (hour, r) ← twoDigits? 0 23 r
      let (minute, r) ← twoDigits? 0 59 (← mark? ':' r)
      let isZero := Text.valueOf hour == 0 && Text.valueOf minute == 0
      return ((if isZero then '+' else s) :: hour ++ ':' :: minute, r)
    else some ([], cs)
  | [] => some ([], [])

/-- Reads a time of day behind a date: the letter `T` or a space comes first. -/
def timeOfDate? (cs : List Char) : Option (List Char × List Char) :=
  match cs with
  | c :: r =>
    if c == 'T' || c == 't' || c == ' ' then do
      let (time, r) ← time? r
      let (offset, r) ← offset? r
      return ('T' :: time ++ offset, r)
    else none
  | [] => none

/-- Reads a date, a time of day, or both. -/
def moment? (cs : List Char) : Option (String × List Char) :=
  match date? cs with
  | some (date, r) =>
    match timeOfDate? r with
    | some (time, r) => some (String.ofList (date ++ time), r)
    | none => some (String.ofList date, r)
  | none => (time? cs).map fun (time, r) => (String.ofList time, r)

end TaskOrchestration.Toml
