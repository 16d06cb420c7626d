import TaskOrchestration.Json.Numeral
import TaskOrchestration.Text.Radix

/-!
# Reading JSON text

`Json.parse?` reads one JSON value with nothing but space around it. Containers nest at most 127
deep. A text that is not JSON is refused with the fault and the place where it shows: the line and
the byte within the line, either of the last character read or of the one that ought to be
different.
-/

namespace TaskOrchestration.Json

/-- Why a text is not JSON. -/
inductive Fault
  | endInList
  | endInObject
  | endInString
  | endInValue
  | noColon
  | noListEnd
  | noObjectEnd
  | unknownWord
  | noValue
  | badEscape
  | badNumber
  | numberTooLarge
  | badCodePoint
  | controlCharacter
  | keyNotString
  | loneSurrogate
  | endOfEscape
  | trailingComma
  | trailingCharacters
  | tooDeep
  deriving DecidableEq, Repr

/-- The wording of a fault. -/
def Fault.text : Fault → String
  | .endInList => "EOF while parsing a list"
  | .endInObject => "EOF while parsing an object"
  | .endInString => "EOF while parsing a string"
  | .endInValue => "EOF while parsing a value"
  | .noColon => "expected `:`"
  | .noListEnd => "expected `,` or `]`"
  | .noObjectEnd => "expected `,` or `\x7d`"
  | .unknownWord => "expected ident"
  | .noValue => "expected value"
  | .badEscape => "invalid escape"
  | .badNumber => "invalid number"
  | .numberTooLarge => "number out of range"
  | .badCodePoint => "invalid unicode code point"
  | .controlCharacter => "control character (\\u0000-\\u001F) found while parsing a string"
  | .keyNotString => "key must be a string"
  | .loneSurrogate => "lone leading surrogate in hex escape"
  | .endOfEscape => "unexpected end of hex escape"
  | .trailingComma => "trailing comma"
  | .trailingCharacters => "trailing characters"
  | .tooDeep => "recursion limit exceeded"

/-- A refused text. -/
structure SyntaxError where
  /-- What is wrong. -/
  fault : Fault
  /-- What was left to read. -/
  rest : List Char
  /-- Whether the fault is the next character and not the last one read. -/
  ahead : Bool

/-- A fault of the last character read. -/
def failed {α : Type} (fault : Fault) (rest : List Char) : Except SyntaxError (α × List Char) :=
  .error ⟨fault, rest, false⟩

/-- A fault of the next character. -/
def blocked {α : Type} (fault : Fault) (rest : List Char) : Except SyntaxError (α × List Char) :=
  .error ⟨fault, rest, true⟩

/-- Leaves out the space in front. -/
def skipSpace (cs : List Char) : List Char :=
  cs.dropWhile fun c => c == ' ' || c == '\n' || c == '\t' || c == '\r'

/-- Reads the rest of a word and yields `v`. -/
def word (v : Json) : List Char → List Char → Except SyntaxError (Json × List Char)
  | [], cs => .ok (v, cs)
  | _ :: _, [] => failed .endInValue []
  | w :: ws, c :: cs => if w == c then word v ws cs else failed .unknownWord cs

/-- The character a one-letter escape stands for. -/
def escaped? (c : Char) : Option Char :=
  match c with
  | '"' => some '"'
  | '\\' => some '\\'
  | '/' => some '/'
  | 'b' => some '\x08'
  | 'f' => some '\x0c'
  | 'n' => some '\n'
  | 'r' => some '\r'
  | 't' => some '\t'
  | _ => none

/-- The character of a pair of surrogates. -/
def surrogatePair (high low : Nat) : Char :=
  Char.ofNat (0x10000 + (high - 0xD800) * 0x400 + (low - 0xDC00))

/-- Reads a string behind its opening quotation mark; `acc` holds the characters read so far, the
last one first. -/
def stringRest (acc : List Char) : List Char → Except SyntaxError (String × List Char)
  | [] => failed .endInString []
  | '"' :: r => .ok (String.ofList acc.reverse, r)
  | '\\' :: 'u' :: a :: b :: c :: d :: r =>
    match Text.inBase? 16 [a, b, c, d] with
    | none => failed .badEscape r
    | some n =>
      if 0xDC00 ≤ n && n ≤ 0xDFFF then failed .loneSurrogate r
      else if 0xD800 ≤ n && n ≤ 0xDBFF then
        match r with
        | '\\' :: 'u' :: e :: f :: g :: h :: r' =>
          match Text.inBase? 16 [e, f, g, h] with
          | none => failed .badEscape r'
          | some low =>
            if 0xDC00 ≤ low && low ≤ 0xDFFF then stringRest (surrogatePair n low :: acc) r'
            else failed .loneSurrogate r'
        | '\\' :: 'u' :: _ => failed .endInString []
        | '\\' :: _ :: r' => failed .endOfEscape r'
        | _ :: r' => failed .endOfEscape r'
        | [] => failed .endInString []
      else stringRest (Char.ofNat n :: acc) r
  | '\\' :: c :: r =>
    match escaped? c with
    | some e => stringRest (e :: acc) r
    | none => if c == 'u' then failed .endInString [] else failed .badEscape r
  | ['\\'] => failed .endInString []
  | c :: r => if c.toNat < 0x20 then failed .controlCharacter r else stringRest (c :: acc) r

/-- Reads the exponent of a number behind its letter. -/
def exponentRest (d : Numeral) (cs : List Char) : Except SyntaxError (Numeral × List Char) :=
  let (negative, cs) := match cs with
    | '+' :: r => (false, r)
    | '-' :: r => (true, r)
    | r => (false, r)
  match cs with
  | [] => failed .endInValue []
  | c :: r =>
    if Text.isDigit c then
      .ok ({ d with exponentNegative := negative, exponent := cs.takeWhile Text.isDigit },
        cs.dropWhile Text.isDigit)
    else failed .badNumber r

/-- Reads an exponent if there is one. -/
def exponent (d : Numeral) (cs : List Char) : Except SyntaxError (Numeral × List Char) :=
  match cs with
  | 'e' :: r => exponentRest d r
  | 'E' :: r => exponentRest d r
  | _ => .ok (d, cs)

/-- Reads the digits of a number, its sign being read. -/
def numeral (negative : Bool) (cs : List Char) : Except SyntaxError (Numeral × List Char) :=
  let whole := cs.takeWhile Text.isDigit
  let d : Numeral := ⟨negative, whole, [], false, []⟩
  match whole, cs.dropWhile Text.isDigit with
  | [], rest => failed .badNumber (rest.drop 1)
  | '0' :: c :: more, rest => blocked .badNumber (c :: more ++ rest)
  | _, '.' :: r =>
    match r.takeWhile Text.isDigit, r.dropWhile Text.isDigit with
    | [], [] => blocked .endInValue []
    | [], rest => blocked .badNumber rest
    | ds, rest => exponent { d with fraction := ds } rest
  | _, rest => exponent d rest

/-- Reads a number, its sign being read. -/
def number (negative : Bool) (cs : List Char) : Except SyntaxError (Json × List Char) := do
  let (d, rest) ← numeral negative cs
  match d.value? with
  | some v => .ok (v, rest)
  | none => failed .numberTooLarge rest

mutual

/-- Reads a value; `depth` is how many containers may still be entered. -/
def value : Nat → Nat → List Char → Except SyntaxError (Json × List Char)
  | 0, _, cs => blocked .tooDeep cs
  | fuel + 1, depth, cs =>
    match skipSpace cs with
    | [] => blocked .endInValue []
    | 'n' :: r => word .null "ull".toList r
    | 't' :: r => word (.boolean true) "rue".toList r
    | 'f' :: r => word (.boolean false) "alse".toList r
    | '-' :: r => number true r
    | '"' :: r => do
      let (s, rest) ← stringRest [] r
      .ok (.string s, rest)
    | '[' :: r =>
      match depth with
      | d + 2 => do
        let (items, rest) ← items fuel (d + 1) true [] r
        .ok (.list items, rest)
      | _ => blocked .tooDeep ('[' :: r)
    | '\x7b' :: r =>
      match depth with
      | d + 2 => do
        let (fields, rest) ← fields fuel (d + 1) true [] r
        .ok (ofFields fields, rest)
      | _ => blocked .tooDeep ('\x7b' :: r)
    | c :: r => if Text.isDigit c then number false (c :: r) else blocked .noValue (c :: r)

/-- Reads the items of a list behind its bracket; `acc` holds those read, the last one first. -/
def items : Nat → Nat → Bool → List Json → List Char → Except SyntaxError (List Json × List Char)
  | 0, _, _, _, cs => blocked .tooDeep cs
  | fuel + 1, depth, first, acc, cs =>
    match skipSpace cs with
    | [] => blocked .endInList []
    | ']' :: r => .ok (acc.reverse, r)
    | c :: r =>
      if first then do
        let (v, rest) ← value fuel depth (c :: r)
        items fuel depth false (v :: acc) rest
      else if c == ',' then
        match skipSpace r with
        | [] => blocked .endInValue []
        | ']' :: r' => blocked .trailingComma (']' :: r')
        | r' => do
          let (v, rest) ← value fuel depth r'
          items fuel depth false (v :: acc) rest
      else blocked .noListEnd (c :: r)

/-- Reads the fields of an object behind its brace; `acc` holds those read, the last one first. -/
def fields : Nat → Nat → Bool → List (String × Json) → List Char →
    Except SyntaxError (List (String × Json) × List Char)
  | 0, _, _, _, cs => blocked .tooDeep cs
  | fuel + 1, depth, first, acc, cs =>
    match skipSpace cs with
    | [] => blocked .endInObject []
    | '\x7d' :: r => .ok (acc.reverse, r)
    | c :: r =>
      if first then
        if c == '"' then field fuel depth acc r else blocked .keyNotString (c :: r)
      else if c == ',' then
        match skipSpace r with
        | [] => blocked .endInValue []
        | '"' :: r' => field fuel depth acc r'
        | '\x7d' :: r' => blocked .trailingComma ('\x7d' :: r')
        | r' => blocked .keyNotString r'
      else blocked .noObjectEnd (c :: r)

/-- Reads a field behind the opening quotation mark of its name, and the fields after it. -/
def field : Nat → Nat → List (String × Json) → List Char →
    Except SyntaxError (List (String × Json) × List Char)
  | 0, _, _, cs => blocked .tooDeep cs
  | fuel + 1, depth, acc, cs => do
    let (name, rest) ← stringRest [] cs
    match skipSpace rest with
    | [] => blocked .endInObject []
    | ':' :: r =>
      let (v, rest) ← value fuel depth r
      fields fuel depth false ((name, v) :: acc) rest
    | r => blocked .noColon r

end

/-- Reads a text that is one JSON value. Every call reads a character or hands on to one that does,
so three calls a character are more than enough. -/
def parse? (text : List Char) : Except SyntaxError Json := do
  let (v, rest) ← value (3 * text.length + 3) 128 text
  match skipSpace rest with
  | [] => .ok v
  | r => .error ⟨.trailingCharacters, r, true⟩

/-- The line and the byte within it that are reached by reading `cs`. -/
def position (cs : List Char) : Nat × Nat :=
  cs.foldl (fun (line, column) c =>
    if c == '\n' then (line + 1, 0) else (line, column + c.utf8Size)) (1, 0)

/-- The wording of a fault with its place in the text. -/
def SyntaxError.message (text : List Char) (e : SyntaxError) : String :=
  let (line, column) := position (text.take (text.length - e.rest.length))
  let (line, column) := match e.ahead, e.rest with
    | true, '\n' :: _ => (line + 1, 0)
    | true, _ :: _ => (line, column + 1)
    | _, _ => (line, column)
  e.fault.text ++ " at line " ++ Text.decimal line ++ " column " ++ Text.decimal column

end TaskOrchestration.Json
