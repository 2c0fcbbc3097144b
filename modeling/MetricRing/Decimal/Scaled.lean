import MetricRing.Decimal.Real

/-!
# Doubles by scaling

`scale?` multiplies a whole number by a power of ten, or divides it by one, as doubles. The number
and the power are rounded before, and the result is rounded again, so it may lie beside the nearest
double, which `toFloat` finds. A number that is far below one is divided in several steps.
-/

namespace MetricRing.Decimal

/-- The exponent of the largest power of ten among the doubles. -/
def largestPower : Nat := 308

def powerOfTen (n : Nat) : Float := toFloat false 1 n

def scaleDown (x : Float) (n : Nat) : Float :=
  if n ≤ largestPower then x / powerOfTen n
  else if x == 0.0 then x
  else scaleDown (x / powerOfTen largestPower) (n - largestPower)
termination_by n
decreasing_by
  unfold largestPower at *
  omega

/-- The double of `significand · 10 ^ exponent`; none if it is beyond them. -/
def scale? (significand : Nat) (exponent : Int) : Option Float :=
  let x := toFloat false significand 0
  match exponent with
  | .ofNat n =>
    if significand = 0 then some x
    else if n ≤ largestPower then
      let y := x * powerOfTen n
      if y.isFinite then some y else none
    else none
  | .negSucc n => some (scaleDown x (n + 1))

end MetricRing.Decimal
