/-!
# Decimal numbers as doubles

A decimal `coefficient · 10 ^ exponent` becomes the nearest double. Numbers beyond the largest
double become infinite, and numbers far below the smallest one become zero, before any large
power is computed.
-/

namespace MetricRing.Decimal

/-- How many decimal digits a number has; zero has none. -/
def digitCount (n : Nat) : Nat := if n = 0 then 0 else (Nat.toDigits 10 n).length

def infinity : Float := 1.0 / 0.0

def nan : Float := 0.0 / 0.0

def toFloat (negative : Bool) (coefficient : Nat) (exponent : Int) : Float :=
  let size := digitCount coefficient + exponent
  let magnitude : Float :=
    if coefficient = 0 ∨ size < -340 then 0.0
    else if size > 310 then infinity
    else if exponent < 0 then Float.ofScientific coefficient true exponent.natAbs
    else Float.ofScientific coefficient false exponent.natAbs
  if negative then -magnitude else magnitude

def ofInt (n : Int) : Float := toFloat (n < 0) n.natAbs 0

end MetricRing.Decimal
