import MetricRing.Text.Hex

/-!
# IPv4 addresses in host names

A name whose last part is a number is an IPv4 address. It has up to four parts, in decimal,
octal or hexadecimal, and the last part fills all places that are left.
-/

namespace MetricRing.Address.Ipv4

/-- The parts of a text between points. -/
def split : List Char → List (List Char)
  | [] => [[]]
  | c :: rest =>
    if c = '.' then [] :: split rest
    else match split rest with
      | part :: parts => (c :: part) :: parts
      | [] => [[c]]

/-- Without the empty part that a point at the end leaves. -/
def dropLastEmpty (parts : List (List Char)) : List (List Char) :=
  match parts.reverse with
  | [] :: rest => rest.reverse
  | _ => parts

def digits? (radix : Nat) (s : List Char) : Option Nat :=
  s.foldl (fun n c => n.bind fun n => (Text.hexValue? c).bind fun d =>
    if d < radix then some (n * radix + d) else none) (some 0)

def number? : List Char → Option Nat
  | [] => none
  | '0' :: 'x' :: rest => digits? 16 rest
  | '0' :: 'X' :: rest => digits? 16 rest
  | '0' :: d :: rest => digits? 8 (d :: rest)
  | s => digits? 10 s

/-- Whether a name has to be read as an IPv4 address. -/
def endsInNumber (name : List Char) : Bool :=
  match (split name).reverse with
  | [] :: last :: _ => (!last.isEmpty && last.all Char.isDigit) || (number? last).isSome
  | last :: _ => (!last.isEmpty && last.all Char.isDigit) || (number? last).isSome
  | [] => false

def parse? (name : List Char) : Option Nat :=
  let parts := dropLastEmpty (split name)
  if 4 < parts.length then none
  else do
    let numbers ← parts.mapM number?
    let last ← numbers.getLast?
    let first := numbers.dropLast
    if first.any (255 < ·) ∨ Nat.pow 256 (4 - first.length) ≤ last then none
    else return first.foldl (fun n x => n * 256 + x) 0 * Nat.pow 256 (4 - first.length) + last

def text (n : Nat) : String :=
  toString (n / Nat.pow 256 3) ++ "." ++ toString (n / Nat.pow 256 2 % 256) ++ "." ++
    toString (n / 256 % 256) ++ "." ++ toString (n % 256)

end MetricRing.Address.Ipv4
