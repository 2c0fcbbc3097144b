import MetricRing.Decimal.Real

/-!
# Reading decimals

A decimal is an optional sign, digits with at most one point among or around them, and an
optional exponent; or one of the words for infinity and for no number, in any case.
-/

namespace MetricRing.Decimal

def digitsValue (digits : List Char) : Nat :=
  digits.foldl (fun n c => 10 * n + (c.toNat - '0'.toNat)) 0

/-- Splits off a sign, and says whether it is a minus. -/
def sign : List Char → Bool × List Char
  | '-' :: rest => (true, rest)
  | '+' :: rest => (false, rest)
  | s => (false, s)

def fraction : List Char → List Char × List Char
  | '.' :: rest => (rest.takeWhile Char.isDigit, rest.dropWhile Char.isDigit)
  | s => ([], s)

/-- What stands after the digits: nothing, or a whole exponent. -/
def exponent? : List Char → Option Int
  | [] => some 0
  | c :: rest =>
    if c = 'e' ∨ c = 'E' then
      let (negative, digits) := sign rest
      if digits.isEmpty ∨ !digits.all Char.isDigit then none
      else if negative then some (-(digitsValue digits : Int))
      else some (digitsValue digits)
    else none

def word? (negative : Bool) (s : List Char) : Option Float :=
  let word := String.ofList (s.map Char.toLower)
  if word = "inf" ∨ word = "infinity" then some (if negative then -infinity else infinity)
  else if word = "nan" then some nan
  else none

def read? (s : String) : Option Float :=
  let (negative, s) := sign s.toList
  let whole := s.takeWhile Char.isDigit
  let (part, rest) := fraction (s.dropWhile Char.isDigit)
  if whole.isEmpty && part.isEmpty then word? negative s
  else match exponent? rest with
    | some e => some (toFloat negative (digitsValue (whole ++ part)) (e - part.length))
    | none => none

end MetricRing.Decimal
