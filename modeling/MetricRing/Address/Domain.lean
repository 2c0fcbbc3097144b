import MetricRing.Address.Label
import MetricRing.Address.Percent

/-!
# Domain names

A domain name is written in ASCII and in lower case, its labels separated by dots. A name that is
given in other characters is brought to this form, label by label.
-/

namespace MetricRing.Address.Domain

/-- ASCII characters that no domain name holds. -/
def isForbidden (c : Char) : Bool :=
  c.toNat ≤ 0x20 || c.toNat == 0x7F || c == '%' || c == '#' || c == '/' || c == ':' || c == '<' ||
    c == '>' || c == '?' || c == '@' || c == '[' || c == '\\' || c == ']' || c == '^' || c == '|'

def labels : List Char → List (List Char)
  | [] => [[]]
  | c :: rest =>
    if c = '.' then [] :: labels rest
    else match labels rest with
      | label :: more => (c :: label) :: more
      | [] => [[c]]

def joined : List (List Char) → List Char
  | [] => []
  | [label] => label
  | label :: rest => label ++ '.' :: joined rest

/-- The written form of a name in common form. -/
def write? (name : List Char) : Option (List Char) := do
  let read ← (labels name).mapM Label.read?
  let sound := !name.any isForbidden && read.all Label.isReadable &&
    (!read.any Label.isRightToLeft || read.all Label.runsOneWay)
  if sound then return joined (read.map Label.write) else none

/-- The ASCII form of a name; none if the name is no domain name. -/
def toAscii? (name : List Char) : Option (List Char) := do
  let name ← Label.common? name
  if (labels name).all Label.isShort then write? name else none

end MetricRing.Address.Domain
