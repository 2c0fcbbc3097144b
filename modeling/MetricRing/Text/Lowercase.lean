import MetricRing.Text.CaseTable

/-!
# Lower case

Two ways to fold the case of a text. `lowercase` maps every character with a lower-case form,
a capital sigma according to its place in the word. `sameIgnoringCase` compares two texts up
to the case of the ASCII letters alone.
-/

namespace MetricRing.Text

def isCased (c : Char) : Bool := inRanges casedRanges c.toNat

def isCaseIgnorable (c : Char) : Bool := inRanges caseIgnorableRanges c.toNat

/-- The lower-case form of one character outside any context. -/
def lowerChar (c : Char) : List Char :=
  if c.toNat < 0x80 then [c.toLower]
  else if c.toNat = 0x130 then ['i', Char.ofNat 0x307]
  else match lowerRuns.find? fun r => r.contains c.toNat with
    | some r => [Char.ofNat (r.apply c.toNat)]
    | none => [c]

def startsCased (s : List Char) : Bool :=
  match s.dropWhile isCaseIgnorable with
  | c :: _ => isCased c
  | [] => false

/-- Folds `rest`, of which `before` is what precedes it, last character first. -/
def lowerFrom (before : List Char) : List Char → List Char
  | [] => []
  | c :: rest =>
    let folded :=
      if c.toNat = 0x3A3 then
        [if startsCased before && !startsCased rest then Char.ofNat 0x3C2 else Char.ofNat 0x3C3]
      else lowerChar c
    folded ++ lowerFrom (c :: before) rest

def lowercase (s : String) : String := String.ofList (lowerFrom [] s.toList)

theorem lowerChar_ne_nil (c : Char) : lowerChar c ≠ [] := by
  unfold lowerChar
  split
  · exact List.cons_ne_nil _ _
  · split
    · exact List.cons_ne_nil _ _
    · split <;> exact List.cons_ne_nil _ _

/-- Every character keeps a form, so that only the empty text becomes empty. -/
theorem lowercase_eq_empty_iff {s : String} : lowercase s = "" ↔ s = "" := by
  constructor
  · intro h
    have hnil : lowerFrom [] s.toList = [] :=
      String.ofList_injective (h.trans String.ofList_nil.symm)
    cases hs : s.toList with
    | nil => exact String.toList_injective (hs.trans rfl)
    | cons c rest =>
      rw [hs, lowerFrom, List.append_eq_nil_iff] at hnil
      split at hnil
      · exact absurd hnil.1 (List.cons_ne_nil _ _)
      · exact absurd hnil.1 (lowerChar_ne_nil c)
  · rintro rfl
    rfl

def asciiLower (s : String) : String := String.ofList (s.toList.map Char.toLower)

def sameIgnoringCase (s t : String) : Bool := asciiLower s == asciiLower t

end MetricRing.Text
