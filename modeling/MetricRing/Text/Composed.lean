import MetricRing.Text.CompositionTable
import MetricRing.Text.HexRows

/-!
# Composed text

Texts that look alike are brought to one form: every character is taken apart, the marks around a
letter are put into the order of their classes, and what can be composed is composed again. The
syllables of Hangul are composed by calculation, all else by table.
-/

namespace MetricRing.Text

/-- A character that is composed of two. -/
structure Composite where
  whole : Char
  first : Char
  second : Char
  deriving DecidableEq, Repr

def composites : List Composite :=
  (hexRows compositePairs).filterMap fun
    | [whole, first, second] => some ⟨Char.ofNat whole, Char.ofNat first, Char.ofNat second⟩
    | _ => none

/-- First and last character, and class. -/
def combiningClasses : List ((Nat × Nat) × Nat) :=
  (hexRows combiningClassRanges).filterMap fun
    | [first, last, value] => some ((first, last), value)
    | _ => none

/-- Zero for letters; marks of one class keep their order. -/
def combiningClass (c : Char) : Nat :=
  if c.toNat < 0x300 then 0
  else match combiningClasses.find? fun r => r.1.1 ≤ c.toNat && c.toNat ≤ r.1.2 with
    | some r => r.2
    | none => 0

/-! ### Hangul -/

namespace Hangul

def firstSyllable : Nat := 0xAC00
def firstLead : Nat := 0x1100
def firstVowel : Nat := 0x1161
def beforeTails : Nat := 0x11A7
def leads : Nat := 19
def vowels : Nat := 21
def tails : Nat := 28

/-- The letters of a syllable. -/
def letters? (c : Char) : Option (List Char) :=
  let n := c.toNat - firstSyllable
  if c.toNat < firstSyllable ∨ leads * vowels * tails ≤ n then none
  else
    let lead := Char.ofNat (firstLead + n / (vowels * tails))
    let vowel := Char.ofNat (firstVowel + n % (vowels * tails) / tails)
    let tail := n % tails
    some (if tail = 0 then [lead, vowel] else [lead, vowel, Char.ofNat (beforeTails + tail)])

def isIn (first count : Nat) (c : Char) : Bool := first ≤ c.toNat && c.toNat < first + count

/-- A lead and a vowel, or an open syllable and a tail. -/
def compose? (c d : Char) : Option Char :=
  if isIn firstLead leads c && isIn firstVowel vowels d then
    some (Char.ofNat (firstSyllable +
      ((c.toNat - firstLead) * vowels + (d.toNat - firstVowel)) * tails))
  else if isIn firstSyllable (leads * vowels * tails) c && (c.toNat - firstSyllable) % tails == 0 &&
      isIn (beforeTails + 1) (tails - 1) d then
    some (Char.ofNat (c.toNat + (d.toNat - beforeTails)))
  else none

end Hangul

/-! ### Taking apart -/

/-- Takes a character apart; the first of two parts may have parts itself, `depth` deep. -/
def parts : Nat → Char → List Char
  | 0, c => [c]
  | depth + 1, c =>
    match Hangul.letters? c with
    | some letters => letters
    | none =>
      match composites.find? fun p => p.whole = c with
      | some p => parts depth p.first ++ [p.second]
      | none => [c]

/-- No character of the table is composed more than four times. -/
def compositionDepth : Nat := 4

/-- Puts a mark before the marks of higher classes; the text stands last first. -/
def place (c : Char) : List Char → List Char
  | [] => [c]
  | d :: before =>
    if combiningClass c ≠ 0 ∧ combiningClass c < combiningClass d then d :: place c before
    else c :: d :: before

def decomposed (s : List Char) : List Char :=
  ((s.flatMap (parts compositionDepth)).foldl (fun before c => place c before) []).reverse

/-! ### Composing -/

def compose? (c d : Char) : Option Char :=
  match Hangul.compose? c d with
  | some whole => some whole
  | none => (composites.find? fun p => p.first = c ∧ p.second = d).map Composite.whole

/-- Composes a letter with the marks behind it. The marks that stay stand last first, and `top` is
the class of the last of them. -/
def composeFrom (letter : Char) (marks : List Char) (top : Nat) : List Char → List Char
  | [] => letter :: marks.reverse
  | c :: rest =>
    let value := combiningClass c
    let whole := if marks.isEmpty ∨ top < value then compose? letter c else none
    match whole with
    | some whole => composeFrom whole marks top rest
    | none =>
      if value = 0 then letter :: (marks.reverse ++ composeFrom c [] 0 rest)
      else composeFrom letter (c :: marks) value rest

def composed (s : List Char) : List Char :=
  match decomposed s with
  | [] => []
  | c :: rest => composeFrom c [] 0 rest

end MetricRing.Text
