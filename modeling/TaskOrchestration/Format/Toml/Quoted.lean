import TaskOrchestration.Format.Toml.Gap
import TaskOrchestration.Text.Radix

/-!
# TOML strings

Strings of one line and of several, with escapes between double quotation marks and without any
between single ones. In a string of several lines each line end is a line feed, however it is
written, and a backslash at the end of a line joins it to the next text, however far below.
-/

namespace TaskOrchestration.Toml

/-- Reads an escape behind its backslash. -/
def escape? : List Char → Option (Char × List Char)
  | 'b' :: r => some ('\x08', r)
  | 't' :: r => some ('\t', r)
  | 'n' :: r => some ('\n', r)
  | 'f' :: r => some ('\x0c', r)
  | 'r' :: r => some ('\r', r)
  | '"' :: r => some ('"', r)
  | '\\' :: r => some ('\\', r)
  | 'u' :: a :: b :: c :: d :: r => (Text.ofHexadecimal? [a, b, c, d]).map fun c => (c, r)
  | 'U' :: a :: b :: c :: d :: e :: f :: g :: h :: r =>
    (Text.ofHexadecimal? [a, b, c, d, e, f, g, h]).map fun c => (c, r)
  | _ => none

/-- Reads the rest of a string of one line; each step takes a character at least. -/
def basic? : Nat → List Char → List Char → Option (String × List Char)
  | 0, _, _ => none
  | steps + 1, acc, cs =>
    match cs with
    | '"' :: r => some (String.ofList acc.reverse, r)
    | '\\' :: r =>
      match escape? r with
      | some (c, r) => basic? steps (c :: acc) r
      | none => none
    | c :: r => if isVisible c then basic? steps (c :: acc) r else none
    | [] => none

/-- Reads the rest of a string of one line without escapes. -/
def literal? (cs : List Char) : Option (String × List Char) :=
  let text := cs.takeWhile (· != '\'')
  match cs.dropWhile (· != '\'') with
  | _ :: r => if text.all isVisible then some (String.ofList text, r) else none
  | [] => none

/-- Reads the rest of a string of several lines, with or without escapes. -/
def long? (quote : Char) (escapes : Bool) :
    Nat → List Char → List Char → Option (String × List Char)
  | 0, _, _ => none
  | steps + 1, acc, cs =>
    match cs with
    | [] => none
    | c :: r =>
      if c == quote then
        match r with
        | d :: e :: r' =>
          if d == quote && e == quote then
            -- Up to two quotes right behind the closing three belong to the text.
            let extra := (r'.take 2).takeWhile (· == quote)
            some (String.ofList (acc.reverse ++ extra), r'.drop extra.length)
          else long? quote escapes steps (c :: acc) r
        | _ => none
      else if escapes && c == '\\' then
        match newline? (skipGaps r) with
        | some rest => long? quote escapes steps acc (skipBlankLines rest)
        | none =>
          match escape? r with
          | some (c, r) => long? quote escapes steps (c :: acc) r
          | none => none
      else
        match newline? cs with
        | some rest => long? quote escapes steps ('\n' :: acc) rest
        | none => if isVisible c then long? quote escapes steps (c :: acc) r else none

/-- Leaves out the end of the line on which a string of several lines is opened. -/
def afterOpening (cs : List Char) : List Char := (newline? cs).getD cs

/-- Reads a string. -/
def string? (cs : List Char) : Option (String × List Char) :=
  match cs with
  | '"' :: '"' :: '"' :: r => long? '"' true (r.length + 1) [] (afterOpening r)
  | '"' :: r => basic? (r.length + 1) [] r
  | '\'' :: '\'' :: '\'' :: r => long? '\'' false (r.length + 1) [] (afterOpening r)
  | '\'' :: r => literal? r
  | _ => none

end TaskOrchestration.Toml
