/-!
# Punycode

A label with characters beyond ASCII is written in ASCII: its ASCII characters, a hyphen, and then
the other characters in the order of their numbers, each as the way that a counter of numbers and
places goes to it. The ways are numbers of digits to base 36, whose lengths adapt to the ways seen
before.
-/

namespace MetricRing.Address.Punycode

def base : Nat := 36

def firstNumber : Nat := 0x80

def firstBias : Nat := 72

def digit (n : Nat) : Char :=
  if n < 26 then Char.ofNat ('a'.toNat + n) else Char.ofNat ('0'.toNat + (n - 26))

def digit? (c : Char) : Option Nat :=
  if c.isDigit then some (c.toNat - '0'.toNat + 26)
  else if c.isAlpha then some (c.toLower.toNat - 'a'.toNat)
  else none

/-- The digits from here on are the last ones of a way. -/
def threshold (place bias : Nat) : Nat := min 26 (max 1 (place - bias))

theorem threshold_pos (place bias : Nat) : 0 < threshold place bias := by
  unfold threshold; omega

theorem threshold_lt (place bias : Nat) : threshold place bias < base := by
  unfold threshold base; omega

def reduce (way places : Nat) : Nat :=
  if 455 < way then reduce (way / 35) (places + base)
  else places + base * way / (way + 38)
termination_by way
decreasing_by omega

/-- The bias after a way; `count` is the number of characters so far. -/
def adapt (way count : Nat) (isFirst : Bool) : Nat :=
  let way := if isFirst then way / 700 else way / 2
  reduce (way + way / count) 0

/-- The digits of a way. -/
def digits (bias place way : Nat) : List Char :=
  let t := threshold place bias
  if way < t then [digit way]
  else digit (t + (way - t) % (base - t)) :: digits bias (place + base) ((way - t) / (base - t))
termination_by way
decreasing_by
  have h := threshold_pos place bias
  have := Nat.div_le_self (way - threshold place bias) (base - threshold place bias)
  omega

/-- What has been written, the way since the last character, and how many are done. -/
structure Writer where
  written : List Char := []
  way : Nat := 0
  bias : Nat := firstBias
  done : Nat
  deriving DecidableEq, Repr

/-- Passes one place of the label while character `n` is written. -/
def Writer.pass (basic n : Nat) (w : Writer) (c : Char) : Writer :=
  if c.toNat < n then { w with way := w.way + 1 }
  else if c.toNat = n then
    { written := w.written ++ digits w.bias base w.way
      way := 0
      bias := adapt w.way (w.done + 1) (w.done = basic)
      done := w.done + 1 }
  else w

/-- Writes the characters with these numbers; the counter stands at `n`. -/
def writeAll (label : List Char) (basic : Nat) : List Nat → Nat → Writer → Writer
  | [], _, w => w
  | m :: rest, n, w =>
    let w := { w with way := w.way + (m - n) * (w.done + 1) }
    let w := label.foldl (Writer.pass basic m) w
    writeAll label basic rest (m + 1) { w with way := w.way + 1 }

def isBasic (c : Char) : Bool := c.toNat < firstNumber

def encode (label : List Char) : List Char :=
  let basic := label.filter isBasic
  let others := ((label.filter fun c => !isBasic c).map Char.toNat).eraseDups.mergeSort
  let written := (writeAll label basic.length others firstNumber { done := basic.length }).written
  (if basic.isEmpty then [] else basic ++ ['-']) ++ written

/-- Reads a way, and returns what is behind it. -/
def way? (bias : Nat) : Nat → Nat → Nat → List Char → Option (Nat × List Char)
  | _, _, _, [] => none
  | place, weight, way, c :: rest =>
    match digit? c with
    | none => none
    | some d =>
      let t := threshold place bias
      if d < t then some (way + d * weight, rest)
      else way? bias (place + base) (weight * (base - t)) (way + d * weight) rest

theorem way?_length {bias : Nat} {s : List Char} {place weight way : Nat} {r : Nat × List Char}
    (h : way? bias place weight way s = some r) : r.2.length < s.length := by
  induction s generalizing place weight way with
  | nil => simp [way?] at h
  | cons c rest ih =>
    rw [way?] at h
    split at h
    · simp at h
    · dsimp only at h
      split at h
      · simp only [Option.some.injEq] at h
        subst h
        simp
      · have := ih h
        simp only [List.length_cons]
        omega

/-- Puts the characters into their places; `n` is the last number and `i` the next place. -/
def readAll (label : List Char) (n i bias : Nat) : List Char → Option (List Char)
  | [] => some label
  | c :: rest =>
    match h : way? bias base 1 0 (c :: rest) with
    | none => none
    | some (way, behind) =>
      let count := label.length + 1
      let number := n + (i + way) / count
      let place := (i + way) % count
      if number.isValidChar then
        readAll (label.insertIdx place (Char.ofNat number)) number (place + 1)
          (adapt way count (i = 0)) behind
      else none
termination_by s => s.length
decreasing_by exact way?_length h

/-- Splits at the last hyphen, which does not count at the start. -/
def split (s : List Char) : List Char × List Char :=
  let behind := (s.reverse.takeWhile (· ≠ '-')).reverse
  let basic := s.take (s.length - behind.length - 1)
  if basic.isEmpty then ([], s) else (basic, behind)

def decode? (s : List Char) : Option (List Char) :=
  let (basic, ways) := split s
  if basic.all isBasic then readAll basic firstNumber 0 firstBias ways else none

end MetricRing.Address.Punycode
