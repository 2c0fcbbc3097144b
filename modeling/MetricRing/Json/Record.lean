import MetricRing.Json.Value

/-!
# Records in JSON

A record is written as an object or as the array of its fields in order. Each field of an
object may go by several names but occurs once; members with other names are passed over
unread. An array may leave out fields at its end.
-/

namespace MetricRing.Json

structure Field where
  name : String
  aliases : List String := []

def Field.accepts (f : Field) (key : String) : Bool := key == f.name || f.aliases.contains key

/-- The fields of a record that a text gives, under their own names. -/
abbrev Record := List (String × Outline)

def Record.ofMembers? (fields : List Field) : List (List Piece × Outline) → Option Record
  | [] => some []
  | (key, item) :: rest => do
    let key ← text? key
    let record ← Record.ofMembers? fields rest
    match fields.find? fun f => f.accepts key with
    | none => return record
    | some f => if record.any fun r => r.1 == f.name then none else return (f.name, item) :: record

def Record.ofItems? : List Field → List Outline → Option Record
  | _, [] => some []
  | [], _ => none
  | f :: fields, item :: items => (Record.ofItems? fields items).map ((f.name, item) :: ·)

def Record.ofOutline? (fields : List Field) : Outline → Option Record
  | .object members => Record.ofMembers? fields members
  | .array items => Record.ofItems? fields items
  | _ => none

namespace Outline

def string? : Outline → Option String
  | .string s => text? s
  | _ => none

/-- A number without sign, point and exponent that is at most `bound`. -/
def natural? (bound : Nat) : Outline → Option Nat
  | .number n =>
    if n.whole ∧ ¬n.negative ∧ n.exponent = 0 ∧ n.significand ≤ bound then some n.significand
    else none
  | _ => none

def items? : Outline → Option (List Outline)
  | .array items => some items
  | _ => none

def ofString (s : String) : Outline := .string ((Text.Utf8.encode s).map .byte)

def ofNat (n : Nat) : Outline := .number ⟨false, n, 0, true⟩

def ofMembers (members : List (String × Outline)) : Outline :=
  .object (members.map fun m => ((Text.Utf8.encode m.1).map .byte, m.2))

end Outline

/-- A field with a value to fall back on when it is absent. -/
def Record.orElse {α : Type} (r : Record) (name : String) (fallback : α)
    (read : Outline → Option α) : Option α :=
  match r.lookup name with
  | some o => read o
  | none => some fallback

def Record.required {α : Type} (r : Record) (name : String) (read : Outline → Option α) :
    Option α :=
  match r.lookup name with
  | some o => read o
  | none => none

end MetricRing.Json
