/-!
# Spans of time

Spans are counted in nanoseconds, up to a largest one that arithmetic does not exceed. A span is
written in the largest unit that it fills, with as many decimals as it needs.
-/

namespace MetricRing

abbrev Span := Nat

namespace Span

def ofMillis (n : Nat) : Span := n * 1000000

def toMillis (s : Span) : Nat := s / 1000000

def second : Span := 1000000000

/-- The largest span: all seconds that 64 bits count, and the last nanosecond of them. -/
def longest : Span := Nat.pow 2 64 * second - 1

def clamp (s : Span) : Span := min s longest

/-- The digits of `n` behind the point, out of `width`, without zeros at the end. -/
def decimals (width n : Nat) : String :=
  let digits := (toString n).toList
  let padded := List.replicate (width - digits.length) '0' ++ digits
  let kept := (padded.reverse.dropWhile (· == '0')).reverse
  if kept.isEmpty then "" else "." ++ String.ofList kept

def inUnit (s unit width : Nat) (name : String) : String :=
  toString (s / unit) ++ decimals width (s % unit) ++ name

def text (s : Span) : String :=
  if 1000000000 ≤ s then inUnit s 1000000000 9 "s"
  else if 1000000 ≤ s then inUnit s 1000000 6 "ms"
  else if 1000 ≤ s then inUnit s 1000 3 "µs"
  else toString s ++ "ns"

end Span
end MetricRing
