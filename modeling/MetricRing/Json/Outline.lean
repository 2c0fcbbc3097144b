import MetricRing.Text.Hex

/-!
# The outline of a JSON text

An outline holds the containers of a text. Its strings and numbers are kept as they were
written: whether a string spells a text, and whether a number is in range, is left to whoever
reads them, so that a value nobody reads cannot be at fault for it.
-/

namespace MetricRing.Json

/-- A byte of a string, or the unit of a `\u` escape. -/
inductive Piece where
  | byte (b : UInt8)
  | unit (u : Nat)
  deriving DecidableEq, Repr

/-- A number `± significand · 10 ^ exponent`; `whole` if it is written with neither point nor
exponent. The significand has 64 bits, and digits for which it has no room only count. -/
structure Numeral where
  negative : Bool
  significand : Nat
  exponent : Int
  whole : Bool
  deriving DecidableEq, Repr

inductive Outline where
  | null
  | bool (b : Bool)
  | number (n : Numeral)
  | string (s : List Piece)
  | array (items : List Outline)
  | object (members : List (List Piece × Outline))
  deriving Repr

abbrev Input := List UInt8

def byte (c : Char) : UInt8 := UInt8.ofNat c.toNat

def isSpace (b : UInt8) : Bool := b == 0x20 || b == 0x09 || b == 0x0A || b == 0x0D

def skipSpace (s : Input) : Input := s.dropWhile isSpace

def isDigit (b : UInt8) : Bool := 0x30 ≤ b && b ≤ 0x39

def digitsValue (digits : List UInt8) : Nat :=
  digits.foldl (fun n b => 10 * n + (b.toNat - 0x30)) 0

def maxWord : Nat := 0xFFFFFFFFFFFFFFFF

/-- Appends digits to a number up to the first one that 64 bits have no room for. Returns how many
digits are left over. -/
def append (n : Nat) : List UInt8 → Nat × Nat
  | [] => (n, 0)
  | d :: rest =>
    let next := 10 * n + (d.toNat - 0x30)
    if next ≤ maxWord then append next rest else (n, rest.length + 1)

/-- A run of digits, at least one. -/
def digits? (s : Input) : Option (List UInt8 × Input) :=
  match s.takeWhile isDigit with
  | [] => none
  | ds => some (ds, s.dropWhile isDigit)

/-- The digits of a whole number: a leading zero stands alone. -/
def wholeDigits? (s : Input) : Option (List UInt8 × Input) :=
  match digits? s with
  | some (d :: e :: ds, rest) => if d = byte '0' then none else some (d :: e :: ds, rest)
  | other => other

def fraction? (s : Input) : Option (List UInt8 × Input) :=
  match s with
  | b :: rest => if b = byte '.' then digits? rest else some ([], s)
  | [] => some ([], s)

def signed? (s : Input) : Option (Int × Input) :=
  match s with
  | b :: rest =>
    if b = byte '-' then (digits? rest).map fun (ds, rest) => (-(digitsValue ds : Int), rest)
    else if b = byte '+' then (digits? rest).map fun (ds, rest) => ((digitsValue ds : Int), rest)
    else (digits? s).map fun (ds, rest) => ((digitsValue ds : Int), rest)
  | [] => none

def exponent? (s : Input) : Option (Option Int × Input) :=
  match s with
  | b :: rest =>
    if b = byte 'e' ∨ b = byte 'E' then (signed? rest).map fun (e, rest) => (some e, rest)
    else some (none, s)
  | [] => some (none, s)

def magnitude? (negative : Bool) (s : Input) : Option (Numeral × Input) := do
  let (whole, s) ← wholeDigits? s
  let (fraction, s) ← fraction? s
  let (exponent, s) ← exponent? s
  let (significand, more) := append 0 whole
  let (significand, unread) := append significand fraction
  let numeral : Numeral :=
    { negative := negative
      significand := significand
      exponent := exponent.getD 0 + more - (fraction.length - unread : Nat)
      whole := fraction.isEmpty && exponent.isNone }
  return (numeral, s)

def numeral? (s : Input) : Option (Numeral × Input) :=
  match s with
  | b :: rest => if b = byte '-' then magnitude? true rest else magnitude? false s
  | [] => none

def hexUnit? : Input → Option (Nat × Input)
  | a :: b :: c :: d :: rest => do
    let a ← Text.hexValue? (Char.ofNat a.toNat)
    let b ← Text.hexValue? (Char.ofNat b.toNat)
    let c ← Text.hexValue? (Char.ofNat c.toNat)
    let d ← Text.hexValue? (Char.ofNat d.toNat)
    return (((a * 16 + b) * 16 + c) * 16 + d, rest)
  | _ => none

def escape? : Input → Option (Piece × Input)
  | [] => none
  | b :: rest =>
    if b = byte '"' ∨ b = byte '\\' ∨ b = byte '/' then some (.byte b, rest)
    else if b = byte 'b' then some (.byte 0x08, rest)
    else if b = byte 'f' then some (.byte 0x0C, rest)
    else if b = byte 'n' then some (.byte 0x0A, rest)
    else if b = byte 'r' then some (.byte 0x0D, rest)
    else if b = byte 't' then some (.byte 0x09, rest)
    else if b = byte 'u' then (hexUnit? rest).map fun (u, rest) => (.unit u, rest)
    else none

/-- What follows an opening quote, up to the closing one. -/
def pieces? : Nat → Input → Option (List Piece × Input)
  | 0, _ => none
  | _, [] => none
  | fuel + 1, b :: rest =>
    if b = byte '"' then some ([], rest)
    else if b = byte '\\' then do
      let (p, rest) ← escape? rest
      let (ps, rest) ← pieces? fuel rest
      return (p :: ps, rest)
    else if b < 0x20 then none
    else do
      let (ps, rest) ← pieces? fuel rest
      return (.byte b :: ps, rest)

def word? (word : List Char) (s : Input) : Option Input :=
  let bytes := word.map byte
  if bytes.isPrefixOf s then some (s.drop bytes.length) else none

/-- The pieces of a string that starts here. -/
def string? (s : Input) : Option (List Piece × Input) :=
  match s with
  | b :: rest => if b = byte '"' then pieces? (rest.length + 1) rest else none
  | [] => none

/-- Passes over one expected byte, blanks before it included. -/
def expect? (c : Char) (s : Input) : Option Input :=
  match skipSpace s with
  | b :: rest => if b = byte c then some rest else none
  | [] => none

mutual

/-- One value; every container it opens takes one unit of fuel. -/
def value? : Nat → Input → Option (Outline × Input)
  | 0, _ => none
  | fuel + 1, s =>
    match skipSpace s with
    | [] => none
    | b :: rest =>
      if b = byte '[' then
        match expect? ']' rest with
        | some rest => some (.array [], rest)
        | none => (items? fuel rest).map fun (items, rest) => (.array items, rest)
      else if b = byte '\x7b' then
        match expect? '\x7d' rest with
        | some rest => some (.object [], rest)
        | none => (members? fuel rest).map fun (members, rest) => (.object members, rest)
      else if b = byte '"' then (string? (b :: rest)).map fun (s, rest) => (.string s, rest)
      else if b = byte 'n' then (word? ['n', 'u', 'l', 'l'] (b :: rest)).map fun s => (.null, s)
      else if b = byte 't' then
        (word? ['t', 'r', 'u', 'e'] (b :: rest)).map fun s => (.bool true, s)
      else if b = byte 'f' then
        (word? ['f', 'a', 'l', 's', 'e'] (b :: rest)).map fun s => (.bool false, s)
      else (numeral? (b :: rest)).map fun (n, rest) => (.number n, rest)

/-- The items of an array, its closing bracket included. -/
def items? : Nat → Input → Option (List Outline × Input)
  | 0, _ => none
  | fuel + 1, s => do
    let (item, s) ← value? fuel s
    match skipSpace s with
    | b :: rest =>
      if b = byte ']' then return ([item], rest)
      else if b = byte ',' then do
        let (items, rest) ← items? fuel rest
        return (item :: items, rest)
      else none
    | [] => none

/-- The members of an object, its closing brace included. -/
def members? : Nat → Input → Option (List (List Piece × Outline) × Input)
  | 0, _ => none
  | fuel + 1, s => do
    let (key, s) ← string? (skipSpace s)
    let s ← expect? ':' s
    let (item, s) ← value? fuel s
    match skipSpace s with
    | b :: rest =>
      if b = byte '\x7d' then return ([(key, item)], rest)
      else if b = byte ',' then do
        let (members, rest) ← members? fuel rest
        return ((key, item) :: members, rest)
      else none
    | [] => none

end

/-- The outline of a whole text: one value with nothing but blanks around it. -/
def Outline.parse? (s : Input) : Option Outline :=
  match value? (2 * s.length + 2) s with
  | some (o, rest) => if (skipSpace rest).isEmpty then some o else none
  | none => none

end MetricRing.Json
