import MetricRing.Decimal.Reader
import MetricRing.Toml.Text

/-!
# TOML: numbers and dates

Whole numbers of 64 bits in four bases, decimal fractions, and moments in time. Underscores may
stand between digits. Fractions and moments are checked and then forgotten beyond their kind.
-/

namespace MetricRing.Toml

inductive Scalar where
  | integer (n : Int)
  | float (x : Float)
  | moment

/-- Digits with single underscores between them; at least one. -/
def digitRun (isDigit : Char → Bool) : Input → List Char × Input
  | '_' :: c :: rest =>
    if isDigit c then
      let (ds, rest) := digitRun isDigit rest
      (c :: ds, rest)
    else ([], '_' :: c :: rest)
  | c :: rest =>
    if isDigit c then
      let (ds, rest) := digitRun isDigit rest
      (c :: ds, rest)
    else ([], c :: rest)
  | [] => ([], [])

def digits? (isDigit : Char → Bool) (s : Input) : Option (List Char × Input) :=
  match s with
  | c :: rest =>
    if isDigit c then
      let (ds, rest) := digitRun isDigit rest
      some (c :: ds, rest)
    else none
  | [] => none

/-- The digits of a decimal number: a leading zero stands alone. -/
def decimalDigits? (s : Input) : Option (List Char × Input) :=
  match s with
  | '0' :: rest => some (['0'], rest)
  | s => digits? Char.isDigit s

def valueIn (radix : Nat) (digits : List Char) : Nat :=
  digits.foldl (fun n c => n * radix + (Text.hexValue? c).getD 0) 0

def bounded? (n : Int) : Option Scalar :=
  if -0x8000000000000000 ≤ n ∧ n < 0x8000000000000000 then some (.integer n) else none

def inBase? (radix : Nat) (s : Input) : Option (Scalar × Input) := do
  let inRadix := fun c => match Text.hexValue? c with
    | some d => d < radix
    | none => false
  let (ds, rest) ← digits? inRadix s
  let n ← bounded? (valueIn radix ds)
  return (n, rest)

def exponentPart? (s : Input) : Option (Option Int × Input) :=
  match s with
  | c :: rest =>
    if c = 'e' ∨ c = 'E' then do
      let (negative, rest) := Decimal.sign rest
      let (ds, rest) ← digits? Char.isDigit rest
      let e : Int := valueIn 10 ds
      return (some (if negative then -e else e), rest)
    else some (none, s)
  | [] => some (none, s)

def fractionPart? (s : Input) : Option (List Char × Input) :=
  match s with
  | '.' :: rest => digits? Char.isDigit rest
  | s => some ([], s)

/-- A decimal number behind its sign. -/
def decimal? (negative : Bool) (s : Input) : Option (Scalar × Input) := do
  let (whole, s) ← decimalDigits? s
  let (fraction, s) ← fractionPart? s
  let (exponent, s) ← exponentPart? s
  if fraction.isEmpty && exponent.isNone then
    let n : Int := valueIn 10 whole
    let n ← bounded? (if negative then -n else n)
    return (n, s)
  else
    let x := Decimal.toFloat negative (valueIn 10 (whole ++ fraction))
      (exponent.getD 0 - fraction.length)
    if x == Decimal.infinity then none else return (.float x, s)

def number? (s : Input) : Option (Scalar × Input) :=
  match s with
  | '0' :: 'x' :: rest => inBase? 16 rest
  | '0' :: 'o' :: rest => inBase? 8 rest
  | '0' :: 'b' :: rest => inBase? 2 rest
  | s =>
    let (negative, rest) := Decimal.sign s
    match rest with
    | 'i' :: 'n' :: 'f' :: rest =>
      some (.float (if negative then -Decimal.infinity else Decimal.infinity), rest)
    | 'n' :: 'a' :: 'n' :: rest => some (.float Decimal.nan, rest)
    | rest => decimal? negative rest

/-! ### Moments -/

/-- A number of exactly `width` digits within bounds. -/
def part? (width low high : Nat) (s : Input) : Option (Nat × Input) :=
  let ds := s.take width
  let n := valueIn 10 ds
  if ds.length = width ∧ ds.all Char.isDigit ∧ low ≤ n ∧ n ≤ high then some (n, s.drop width)
  else none

def mark? (c : Char) : Input → Option Input
  | d :: rest => if d = c then some rest else none
  | [] => none

def daysIn (year month : Nat) : Nat :=
  if month = 2 then
    if year % 4 = 0 ∧ (year % 100 ≠ 0 ∨ year % 400 = 0) then 29 else 28
  else if month = 4 ∨ month = 6 ∨ month = 9 ∨ month = 11 then 30
  else 31

def date? (s : Input) : Option Input := do
  let (year, s) ← part? 4 0 9999 s
  let s ← mark? '-' s
  let (month, s) ← part? 2 1 12 s
  let s ← mark? '-' s
  let (_, s) ← part? 2 1 (daysIn year month) s
  return s

def time? (s : Input) : Option Input := do
  let (_, s) ← part? 2 0 23 s
  let s ← mark? ':' s
  let (_, s) ← part? 2 0 59 s
  let s ← mark? ':' s
  let (_, s) ← part? 2 0 60 s
  match s with
  | '.' :: c :: rest => if c.isDigit then return rest.dropWhile Char.isDigit else return s
  | s => return s

/-- An offset from universal time, if there is one. -/
def offset? : Input → Option Input
  | 'Z' :: rest => some rest
  | 'z' :: rest => some rest
  | c :: rest =>
    if c = '+' ∨ c = '-' then do
      let (_, s) ← part? 2 0 23 rest
      let s ← mark? ':' s
      let (_, s) ← part? 2 0 59 s
      return s
    else some (c :: rest)
  | [] => some []

/-- The time of day behind a date, if there is one. -/
def timeOfDay? (s : Input) : Option Input :=
  match s with
  | c :: rest =>
    if c = 'T' ∨ c = 't' ∨ c = ' ' then
      match time? rest with
      | some rest => offset? rest
      | none => some s
    else some s
  | [] => some []

def isDate (s : Input) : Bool :=
  (s.take 4).all Char.isDigit && (s.drop 4).head? == some '-'

def isTime (s : Input) : Bool := (s.take 2).all Char.isDigit && (s.drop 2).head? == some ':'

/-- A number or a moment. -/
def scalar? (s : Input) : Option (Scalar × Input) :=
  if isDate s then
    match date? s with
    | some rest => (timeOfDay? rest).map fun rest => (.moment, rest)
    | none => none
  else if isTime s then (time? s).map fun rest => (.moment, rest)
  else number? s

end MetricRing.Toml
