import MetricRing.Address.DirectionTable
import MetricRing.Address.DomainTable
import MetricRing.Address.JoiningTable
import MetricRing.Address.Punycode
import MetricRing.Text.Composed

/-!
# Labels of domain names

A label may hold characters beyond ASCII. Its characters are mapped to a common form, and what is
left must be a label that can be read: it does not begin with a combining mark, joiners stand
where they show, it is not too long, and in a name with a right-to-left character every label runs
in one direction.
-/

namespace MetricRing.Address.Label

open Text (hexRows hexRanges isInRanges)

/-! ### Mapping -/

/-- Characters from `first` to `last`, `step` apart, which become as many from `target` on. -/
structure MappedRun where
  first : Nat
  last : Nat
  step : Nat
  target : Nat
  deriving DecidableEq, Repr

def runs : List MappedRun :=
  (hexRows mappedRuns).filterMap fun
    | [first, last, step, target] => some ⟨first, last, step, target⟩
    | _ => none

def texts : List (Char × List Char) :=
  (hexRows mappedTexts).filterMap fun
    | c :: target => some (Char.ofNat c, target.map Char.ofNat)
    | [] => none

def ignored : List (Nat × Nat) := hexRanges ignoredRanges

def disallowed : List (Nat × Nat) := hexRanges disallowedRanges

def MappedRun.contains (r : MappedRun) (c : Char) : Bool :=
  r.first ≤ c.toNat && c.toNat ≤ r.last && (c.toNat - r.first) % r.step == 0

/-- What a character becomes; none for one that no name has. -/
def mapChar? (c : Char) : Option (List Char) :=
  if c.toNat < 0x80 then some [c.toLower]
  else match texts.lookup c with
    | some target => some target
    | none =>
      match runs.find? fun r => r.contains c with
      | some r => some [Char.ofNat (r.target + (c.toNat - r.first))]
      | none =>
        if isInRanges ignored c then some []
        else if isInRanges disallowed c then none
        else some [c]

def mapAll? : List Char → Option (List Char)
  | [] => some []
  | c :: rest => do return (← mapChar? c) ++ (← mapAll? rest)

/-- The common form of a text. -/
def common? (s : List Char) : Option (List Char) := (mapAll? s).map Text.composed

/-! ### Marks, joiners and length -/

def transparent : List (Nat × Nat) := hexRanges transparentRanges
def leftJoining : List (Nat × Nat) := hexRanges leftJoiningRanges
def dualJoining : List (Nat × Nat) := hexRanges dualJoiningRanges
def rightJoining : List (Nat × Nat) := hexRanges rightJoiningRanges
def marks : List (Nat × Nat) := hexRanges markRanges

def nonJoiner : Char := Char.ofNat 0x200C

def joiner : Char := Char.ofNat 0x200D

/-- The class of the signs that take the vowel from a letter. -/
def viramaClass : Nat := 9

def endsInVirama (before : List Char) : Bool :=
  match before with
  | c :: _ => Text.combiningClass c == viramaClass
  | [] => false

/-- Whether the next character that is not passed over is in one of these ranges. -/
def meets (ranges : List (Nat × Nat)) (s : List Char) : Bool :=
  match s.dropWhile (isInRanges transparent) with
  | c :: _ => isInRanges ranges c
  | [] => false

/-- Whether the joiners stand behind a virama; the other one may also part two letters that would
join. `before` is what precedes, last character first. -/
def hasGoodJoiners (before : List Char) : List Char → Bool
  | [] => true
  | c :: rest =>
    (if c = joiner then endsInVirama before
      else if c = nonJoiner then
        endsInVirama before ||
          (meets (leftJoining ++ dualJoining) before && meets (rightJoining ++ dualJoining) rest)
      else true) && hasGoodJoiners (c :: before) rest

def startsWithMark (s : List Char) : Bool :=
  match s with
  | c :: _ => isInRanges marks c
  | [] => false

def isAscii (s : List Char) : Bool := s.all fun c => c.toNat < 0x80

/-- The most characters of a label with characters beyond ASCII. -/
def maxLength : Nat := 1000

def isReadable (s : List Char) : Bool :=
  isAscii s || !startsWithMark s && hasGoodJoiners [] s && s.length ≤ maxLength

/-! ### Direction -/

inductive Direction where
  | left
  | right
  | arabicLetter
  | arabicNumber
  | europeanNumber
  | numberSign
  | numberMark
  | numberSeparator
  | neutral
  | boundary
  | nonspacing
  deriving DecidableEq, Repr

def directions : List (Direction × List (Nat × Nat)) :=
  [(.right, hexRanges rightToLeftRanges), (.arabicLetter, hexRanges arabicLetterRanges),
   (.arabicNumber, hexRanges arabicNumberRanges),
   (.europeanNumber, hexRanges europeanNumberRanges), (.numberSign, hexRanges numberSignRanges),
   (.numberMark, hexRanges numberMarkRanges),
   (.numberSeparator, hexRanges numberSeparatorRanges), (.neutral, hexRanges neutralRanges),
   (.boundary, hexRanges boundaryRanges), (.nonspacing, hexRanges nonspacingRanges)]

def direction (c : Char) : Direction :=
  match directions.find? fun d => isInRanges d.2 c with
  | some d => d.1
  | none => .left

namespace Direction

def isRightToLeft (d : Direction) : Bool := d = .right || d = .arabicLetter || d = .arabicNumber

/-- Whether characters of this kind may stand in a label that runs to the right or to the left. -/
def fits (toRight : Bool) (d : Direction) : Bool :=
  if toRight then d = .left || !(d.isRightToLeft) else d ≠ .left

/-- Whether a label that runs to the right or to the left may end so. -/
def ends (toRight : Bool) (d : Direction) : Bool :=
  d = .europeanNumber || (if toRight then d = .left else d.isRightToLeft)

end Direction

/-- No character before this one is written from right to left. -/
def firstRightToLeft : Nat := 0x590

def isRightToLeft (s : List Char) : Bool :=
  s.any fun c => firstRightToLeft ≤ c.toNat && (direction c).isRightToLeft

/-- Whether a label runs in one direction, which its first character gives. -/
def runsOneWay (s : List Char) : Bool :=
  let ds := s.map direction
  match ds, (ds.reverse.dropWhile (· = .nonspacing)).head? with
  | first :: _, some last =>
    let toRight := decide (first = .left)
    (toRight || first = .right || first = .arabicLetter) && ds.all (Direction.fits toRight) &&
      last.ends toRight && !(ds.contains .europeanNumber && ds.contains .arabicNumber && !toRight)
  | [], _ => true
  | _, none => false

/-! ### Written labels -/

/-- How a label with characters beyond ASCII begins. -/
def opening : List Char := ['x', 'n', '-', '-']

/-- The most characters that are read behind the opening. -/
def maxWritten : Nat := 2000

def isShort (s : List Char) : Bool :=
  !opening.isPrefixOf s || s.length ≤ opening.length + maxWritten

/-- What a label in common form stands for. What a marked label stands for must be in common form
and have a character beyond ASCII. -/
def read? (s : List Char) : Option (List Char) :=
  if opening.isPrefixOf s then do
    let label ← Punycode.decode? (s.drop opening.length)
    if common? label = some label ∧ !isAscii label then return label else none
  else some s

def write (s : List Char) : List Char := if isAscii s then s else opening ++ Punycode.encode s

end MetricRing.Address.Label
