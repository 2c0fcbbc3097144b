import MetricRing.Decimal.Shortest

/-!
# Fixed decimal places

Doubles rounded to multiples of a power of ten: to the nearest one, and to the even one of two
that are equally near. The exact value of the double counts, not its shortest digits.
-/

namespace MetricRing.Decimal

/-- The quotient rounded to the nearest whole number, halves to even. -/
def roundDiv (n d : Nat) : Nat :=
  let q := n / d
  let r := n % d
  if 2 * r < d ∨ (2 * r = d ∧ q % 2 = 0) then q else q + 1

/-- A double that is not negative, in units of `10 ^ -places`. -/
def scaled (x : Float) (places : Nat) : Nat :=
  let d := Dyadic.ofBits x.toBits
  roundDiv (d.mantissa * Nat.pow 2 d.exponent.toNat * Nat.pow 10 places)
    (Nat.pow 2 (-d.exponent).toNat)

/-- A double that is not negative with `places` digits behind the point. -/
def fixed (x : Float) (places : Nat) : String :=
  let n := scaled x places
  let digits := (toString (n % Nat.pow 10 places)).toList
  toString (n / Nat.pow 10 places) ++ "." ++
    String.ofList (List.replicate (places - digits.length) '0' ++ digits)

end MetricRing.Decimal
