import MetricRing.Decimal.Real

/-!
# The shortest digits of a double

A double stands for all reals that round to it. `shortest` finds the fewest decimal digits that
lie among them, and of several such decimals the one nearest to the double itself.
-/

namespace MetricRing.Decimal

/-- A positive double as `mantissa · 2 ^ exponent`. -/
structure Dyadic where
  mantissa : Nat
  exponent : Int
  deriving DecidableEq, Repr

def exponentBits (bits : UInt64) : Nat := (bits.toNat / Nat.pow 2 52) % Nat.pow 2 11

def fractionBits (bits : UInt64) : Nat := bits.toNat % Nat.pow 2 52

/-- The magnitude of a finite double. -/
def Dyadic.ofBits (bits : UInt64) : Dyadic :=
  if exponentBits bits = 0 then ⟨fractionBits bits, -1074⟩
  else ⟨Nat.pow 2 52 + fractionBits bits, exponentBits bits - 1075⟩

/-- The value, and the ends of the interval that rounds to it, over one denominator. -/
structure Interval where
  low : Nat
  value : Nat
  high : Nat
  denominator : Nat
  closed : Bool

def Dyadic.interval (d : Dyadic) : Interval :=
  let below := if d.mantissa = Nat.pow 2 52 ∧ -1074 < d.exponent then 1 else 2
  let up := Nat.pow 2 (d.exponent - 2).toNat
  { low := (4 * d.mantissa - below) * up
    value := 4 * d.mantissa * up
    high := (4 * d.mantissa + 2) * up
    denominator := Nat.pow 2 (2 - d.exponent).toNat
    closed := d.mantissa % 2 = 0 }

/-- Digits and the power of ten of the first of them. -/
structure Digits where
  coefficient : Nat
  exponent : Int
  deriving DecidableEq, Repr

/-- The largest `e` with `10 ^ e ≤ value / denominator`. -/
def Interval.magnitude (i : Interval) : Int :=
  let e : Int := digitCount i.value - digitCount i.denominator
  if i.denominator * Nat.pow 10 e.toNat ≤ i.value * Nat.pow 10 (-e).toNat then e else e - 1

/-- Whether `n · 10 ^ unit` rounds to the double. -/
def Interval.admits (i : Interval) (n : Nat) (unit : Int) : Bool :=
  let x := n * i.denominator * Nat.pow 10 unit.toNat
  let low := i.low * Nat.pow 10 (-unit).toNat
  let high := i.high * Nat.pow 10 (-unit).toNat
  if i.closed then low ≤ x && x ≤ high else low < x && x < high

/-- The neighbours of the value on the grid of multiples of `10 ^ unit` that round to it, the
nearer one first; the even one leads a tie. -/
def Interval.onGrid (i : Interval) (unit : Int) : Option Nat :=
  let value := i.value * Nat.pow 10 (-unit).toNat
  let step := i.denominator * Nat.pow 10 unit.toNat
  let n := value / step
  let rest := value % step
  let lower := i.admits n unit
  let upper := i.admits (n + 1) unit
  if lower && upper then
    if 2 * rest < step ∨ (2 * rest = step ∧ n % 2 = 0) then some n else some (n + 1)
  else if lower then some n
  else if upper then some (n + 1)
  else none

/-- Tries `count`, `count + 1`, … digits, `fuel` times. -/
def Interval.search (i : Interval) (magnitude : Int) : Nat → Nat → Nat × Int
  | 0, count => (i.value / i.denominator, count)
  | fuel + 1, count =>
    let unit := magnitude - (count - 1 : Nat)
    match i.onGrid unit with
    | some n => (n, unit)
    | none => i.search magnitude fuel (count + 1)

/-- Drops the zeros at the end of a number, each of them raising the power of ten. -/
def dropZeros : Nat → Nat → Int → Nat × Int
  | 0, n, unit => (n, unit)
  | fuel + 1, n, unit =>
    if n % 10 = 0 ∧ n ≠ 0 then dropZeros fuel (n / 10) (unit + 1) else (n, unit)

/-- The shortest digits of a positive double, without zeros at the end. -/
def shortest (d : Dyadic) : Digits :=
  let i := d.interval
  let (n, unit) := i.search i.magnitude 17 1
  let (n, unit) := dropZeros 20 n unit
  ⟨n, unit + (digitCount n - 1 : Nat)⟩

end MetricRing.Decimal
