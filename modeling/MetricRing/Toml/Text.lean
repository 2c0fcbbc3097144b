import MetricRing.Text.Hex

/-!
# TOML: blanks, comments and strings

Strings come in four forms: with or without escapes, on one line or on several. Functions take
the characters from a place on and return what they read and the rest.
-/

namespace MetricRing.Toml

abbrev Input := List Char

def isWs (c : Char) : Bool := c == ' ' || c == '\t'

def skipWs (s : Input) : Input := s.dropWhile isWs

/-- A character that comments and literal strings may hold. -/
def isPlain (c : Char) : Bool := c == '\t' || (0x20 ≤ c.toNat && c.toNat ≠ 0x7F)

def newline? : Input → Option Input
  | '\n' :: rest => some rest
  | '\r' :: '\n' :: rest => some rest
  | _ => none

/-- What follows a comment, if one starts here. -/
def skipComment (s : Input) : Input :=
  match s with
  | '#' :: rest => rest.dropWhile isPlain
  | s => s

/-- The end of a line: blanks, a comment, and a line break or the end of the text. -/
def lineEnd? (s : Input) : Option Input :=
  match skipComment (skipWs s) with
  | [] => some []
  | s => newline? s

/-- Passes over blanks, line breaks and whole comments. -/
def skipLines : Nat → Input → Option Input
  | 0, s => some s
  | fuel + 1, s =>
    match skipWs s with
    | '#' :: rest => (newline? (rest.dropWhile isPlain)).bind (skipLines fuel)
    | '\n' :: rest => skipLines fuel rest
    | '\r' :: rest => (newline? ('\r' :: rest)).bind (skipLines fuel)
    | s => some s

def codePoint? (digits : List Char) : Option Char :=
  let value := digits.foldl (fun n c => n.bind fun n =>
    (Text.hexValue? c).map fun d => n * 16 + d) (some 0)
  value.bind fun n => if n.isValidChar then some (Char.ofNat n) else none

/-- The character behind a backslash. -/
def escape? : Input → Option (Char × Input)
  | 'b' :: rest => some (Char.ofNat 8, rest)
  | 't' :: rest => some ('\t', rest)
  | 'n' :: rest => some ('\n', rest)
  | 'f' :: rest => some (Char.ofNat 12, rest)
  | 'r' :: rest => some ('\r', rest)
  | '"' :: rest => some ('"', rest)
  | '\\' :: rest => some ('\\', rest)
  | 'u' :: rest =>
    if rest.length < 4 then none
    else (codePoint? (rest.take 4)).map fun c => (c, rest.drop 4)
  | 'U' :: rest =>
    if rest.length < 8 then none
    else (codePoint? (rest.take 8)).map fun c => (c, rest.drop 8)
  | _ => none

/-- The rest of a string on one line, behind its opening quote. -/
def basic? : Nat → Input → Option (List Char × Input)
  | 0, _ => none
  | _, [] => none
  | fuel + 1, c :: rest =>
    if c = '"' then some ([], rest)
    else if c = '\\' then do
      let (d, rest) ← escape? rest
      let (cs, rest) ← basic? fuel rest
      return (d :: cs, rest)
    else if isPlain c then do
      let (cs, rest) ← basic? fuel rest
      return (c :: cs, rest)
    else none

/-- The rest of a literal string on one line. -/
def literal? (s : Input) : Option (List Char × Input) :=
  let inner := fun c => isPlain c && c != '\''
  match s.dropWhile inner with
  | '\'' :: rest => some (s.takeWhile inner, rest)
  | _ => none

/-- Passes over the blanks and line breaks that a backslash at a line's end swallows. -/
def skipBreaks : Nat → Input → Option Input
  | 0, s => some s
  | fuel + 1, s =>
    match skipWs s with
    | '\n' :: rest => skipBreaks fuel rest
    | '\r' :: rest => (newline? ('\r' :: rest)).bind (skipBreaks fuel)
    | s => some s

/-- How many quotes start here, up to five: three close a string on several lines, and one or
two before them belong to it. -/
def quotes (q : Char) (s : Input) : Nat := ((s.take 5).takeWhile (· == q)).length

/-- The rest of a string on several lines; `escapes` says whether a backslash is special. -/
def multiline? (q : Char) (escapes : Bool) : Nat → Input → Option (List Char × Input)
  | 0, _ => none
  | _, [] => none
  | fuel + 1, c :: rest =>
    if c = q then
      let n := quotes q (c :: rest)
      if 3 ≤ n then some (List.replicate (n - 3) q, (c :: rest).drop n)
      else do
        let (cs, rest) ← multiline? q escapes fuel ((c :: rest).drop n)
        return (List.replicate n q ++ cs, rest)
    else if c = '\\' ∧ escapes then
      match skipWs rest with
      | '\n' :: rest => do
        let rest ← skipBreaks fuel rest
        multiline? q escapes fuel rest
      | '\r' :: '\n' :: rest => do
        let rest ← skipBreaks fuel rest
        multiline? q escapes fuel rest
      | _ => do
        let (d, rest) ← escape? rest
        let (cs, rest) ← multiline? q escapes fuel rest
        return (d :: cs, rest)
    else match newline? (c :: rest) with
      | some rest => do
        let (cs, rest) ← multiline? q escapes fuel rest
        return ('\n' :: cs, rest)
      | none =>
        if isPlain c then do
          let (cs, rest) ← multiline? q escapes fuel rest
          return (c :: cs, rest)
        else none

/-- A line break right behind the opening quotes does not count. -/
def dropFirstBreak (s : Input) : Input := (newline? s).getD s

/-- A string on one line, as keys are written. -/
def quoted? : Input → Option (String × Input)
  | '"' :: rest => (basic? (rest.length + 1) rest).map fun (cs, rest) => (String.ofList cs, rest)
  | '\'' :: rest => (literal? rest).map fun (cs, rest) => (String.ofList cs, rest)
  | _ => none

/-- A string of any form. -/
def string? : Input → Option (String × Input)
  | '"' :: '"' :: '"' :: rest =>
    (multiline? '"' true (rest.length + 1) (dropFirstBreak rest)).map
      fun (cs, rest) => (String.ofList cs, rest)
  | '\'' :: '\'' :: '\'' :: rest =>
    (multiline? '\'' false (rest.length + 1) (dropFirstBreak rest)).map
      fun (cs, rest) => (String.ofList cs, rest)
  | s => quoted? s

end MetricRing.Toml
