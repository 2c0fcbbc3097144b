import MetricRing.Text.Hex

/-!
# Rows of numbers

Data tables are written as rows of hexadecimal numbers: blanks separate rows, and commas the
numbers of a row.
-/

namespace MetricRing.Text

/-- What has been read of a table; the newest row and number stand first. -/
structure RowReader where
  rows : List (List Nat) := []
  row : List Nat := []
  number : Option Nat := none

namespace RowReader

def endNumber (r : RowReader) : RowReader :=
  match r.number with
  | some n => { r with row := n :: r.row, number := none }
  | none => r

def endRow (r : RowReader) : RowReader :=
  let r := r.endNumber
  if r.row.isEmpty then r else { r with rows := r.row.reverse :: r.rows, row := [] }

def step (r : RowReader) (c : Char) : RowReader :=
  match hexValue? c with
  | some d => { r with number := some (16 * r.number.getD 0 + d) }
  | none => if c = ',' then r.endNumber else r.endRow

end RowReader

def hexRows (s : String) : List (List Nat) :=
  (s.toList.foldl RowReader.step {}).endRow.rows.reverse

/-- The rows of two numbers, as ranges. -/
def hexRanges (s : String) : List (Nat × Nat) :=
  (hexRows s).filterMap fun
    | [first, last] => some (first, last)
    | _ => none

def isInRanges (ranges : List (Nat × Nat)) (c : Char) : Bool :=
  ranges.any fun r => r.1 ≤ c.toNat && c.toNat ≤ r.2

end MetricRing.Text
