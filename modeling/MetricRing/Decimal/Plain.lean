import MetricRing.Decimal.Shortest

/-!
# Doubles as text

Doubles are written with their shortest digits and always with a point or an exponent:
positional from `1e-5` up to below `1e16`, and with a signed exponent outside that range.
-/

namespace MetricRing.Decimal

def zeros (n : Nat) : String := String.ofList (List.replicate n '0')

def exponentText (e : Int) : String :=
  if e < 0 then "e-" ++ toString e.natAbs else "e+" ++ toString e.natAbs

/-- A point after the first `whole` of the digits. -/
def pointed (digits : List Char) (whole : Nat) : String :=
  String.ofList (digits.take whole ++ '.' :: digits.drop whole)

def Digits.text (d : Digits) : String :=
  let digits := (toString d.coefficient).toList
  if d.exponent < -5 ∨ 16 ≤ d.exponent then
    if digits.length = 1 then String.ofList digits ++ exponentText d.exponent
    else pointed digits 1 ++ exponentText d.exponent
  else if d.exponent < 0 then
    "0." ++ zeros (d.exponent.natAbs - 1) ++ String.ofList digits
  else if digits.length ≤ d.exponent.toNat + 1 then
    String.ofList digits ++ zeros (d.exponent.toNat + 1 - digits.length) ++ ".0"
  else pointed digits (d.exponent.toNat + 1)

/-- The text of a finite double. -/
def text (x : Float) : String :=
  let bits := x.toBits
  let d := Dyadic.ofBits bits
  let sign := if bits.toNat < Nat.pow 2 63 then "" else "-"
  if d.mantissa = 0 then sign ++ "0.0" else sign ++ (shortest d).text

end MetricRing.Decimal
