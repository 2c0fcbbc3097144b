import MetricRing.Failure
import MetricRing.Json.Printer

/-!
# Value rows

The answer to a metric query: rows of a time stamp and the values measured then, by name.
-/

namespace MetricRing

open Json

structure Row where
  timestamp : Float
  values : List (String × Value)

namespace Row

/-- The value of this name, if it is a number. -/
def number? (r : Row) (name : String) : Option Float := (r.values.lookup name).bind Value.float?

def ofValue : Value → Except Failure Row
  | .array [stamp, values] =>
    match stamp.float? with
    | none => .error (.protocol ("row timestamp is not a number: " ++ stamp.text))
    | some timestamp =>
      match values with
      | .object members => .ok ⟨timestamp, members⟩
      | .null => .ok ⟨timestamp, []⟩
      | other => .error (.protocol ("row values are not an object: " ++ other.text))
  | other =>
    .error (.protocol ("expected a [timestamp, values] pair, got " ++ other.text))

def ofItems : List Value → Except Failure (List Row)
  | [] => .ok []
  | v :: rest =>
    match ofValue v with
    | .error e => .error e
    | .ok row =>
      match ofItems rest with
      | .error e => .error e
      | .ok rows => .ok (row :: rows)

def parse (bytes : List UInt8) : Except Failure (List Row) :=
  match Value.parse? bytes with
  | some (.array items) => ofItems items
  | some _ => .error (.protocol "row payload is not an array")
  | none => .error (.protocol "invalid row payload: not JSON")

end Row
end MetricRing
