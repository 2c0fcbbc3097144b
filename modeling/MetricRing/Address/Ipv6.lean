import MetricRing.Address.Ipv4

/-!
# IPv6 addresses

Eight groups of up to four hexadecimal digits. One double colon stands for the groups that are
missing, and an IPv4 address may stand for the last two. Addresses are written with the first
longest run of two or more zero groups left out.
-/

namespace MetricRing.Address.Ipv6

/-- The groups read so far, and how many of them precede the gap that a double colon left. -/
structure Groups where
  groups : List Nat := []
  gap : Option Nat := none

def Groups.push (g : Groups) (n : Nat) : Groups := { g with groups := g.groups ++ [n] }

def isHexDigit (c : Char) : Bool := (Text.hexValue? c).isSome

def decimalPart? (s : List Char) : Option Nat :=
  match s with
  | [] => none
  | '0' :: _ :: _ => none
  | _ => (Ipv4.digits? 10 s).bind fun n => if n ≤ 255 then some n else none

/-- An IPv4 address as two groups. -/
def embedded? (s : List Char) (g : Groups) : Option Groups := do
  match ← (Ipv4.split s).mapM decimalPart? with
  | [a, b, c, d] => return (g.push (a * 256 + b)).push (c * 256 + d)
  | _ => none

def groups? : Nat → List Char → Groups → Option Groups
  | _, [], g => some g
  | 0, _, _ => none
  | fuel + 1, s, g =>
    if g.groups.length = 8 then none
    else match s with
      | ':' :: rest =>
        if g.gap.isSome then none
        else groups? fuel rest ⟨g.groups ++ [0], some (g.groups.length + 1)⟩
      | s =>
        let digits := (s.take 4).takeWhile isHexDigit
        let n := (Ipv4.digits? 16 digits).getD 0
        match s.drop digits.length with
        | [] => some (g.push n)
        | '.' :: _ => if digits.isEmpty ∨ 6 < g.groups.length then none else embedded? s g
        | ':' :: rest => if rest.isEmpty then none else groups? fuel rest (g.push n)
        | _ => none

/-- Fills the gap with zeros. -/
def Groups.fill? (g : Groups) : Option (List Nat) :=
  match g.gap with
  | some gap =>
    some (g.groups.take gap ++ List.replicate (8 - g.groups.length) 0 ++ g.groups.drop gap)
  | none => if g.groups.length = 8 then some g.groups else none

def parse? (s : List Char) : Option (List Nat) :=
  let read (g : Option Groups) := g.bind Groups.fill?
  match s with
  | [] => none
  | [_] => none
  | ':' :: ':' :: rest => read (groups? rest.length rest ⟨[0], some 1⟩)
  | ':' :: _ => none
  | s => read (groups? s.length s {})

def zeroRun (groups : List Nat) : Nat := (groups.takeWhile (· == 0)).length

/-- Where the first longest run of zero groups starts, and its length. -/
def longestRun (groups : List Nat) : Nat × Nat :=
  (List.range 8).foldl (fun best i =>
    let n := zeroRun (groups.drop i)
    if best.2 < n then (i, n) else best) (0, 0)

def joined (groups : List Nat) : String :=
  ":".intercalate (groups.map fun n => String.ofList (Nat.toDigits 16 n))

def text (groups : List Nat) : String :=
  let (start, length) := longestRun groups
  if length < 2 then joined groups
  else joined (groups.take start) ++ "::" ++ joined (groups.drop (start + length))

end MetricRing.Address.Ipv6
