/-!
# Searching texts

Whether one text occurs in another, starts it, or where it first occurs.
-/

namespace MetricRing.Text

/-- Splits `s` before the first occurrence of `part`. -/
def breakAt? (part : List Char) : List Char → Option (List Char × List Char)
  | [] => if part.isEmpty then some ([], []) else none
  | c :: rest =>
    if part.isPrefixOf (c :: rest) then some ([], c :: rest)
    else (breakAt? part rest).map fun (before, after) => (c :: before, after)

def contains (s part : String) : Bool := (breakAt? part.toList s.toList).isSome

def startsWith (s start : String) : Bool := start.toList.isPrefixOf s.toList

end MetricRing.Text
