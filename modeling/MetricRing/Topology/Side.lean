import MetricRing.Text.Blank
import MetricRing.Topology.Error
import MetricRing.Topology.Location

/-!
# Sides

A member may declare one of two sides. Its slots then lie in the half of the ring that belongs
to the side: `a` has the lower half and `b` the upper one.
-/

namespace MetricRing.Topology

inductive Side where
  | none
  | a
  | b
  deriving DecidableEq, Repr, Inhabited

namespace Side

def isDeclared (s : Side) : Bool := s != .none

/-- The byte that stands for the side in a digest. -/
def digestByte : Side → UInt8
  | .none => 0
  | .a => 1
  | .b => 2

def pin : Side → Location → Location
  | .none, l => l
  | .a, l => l.lower
  | .b, l => l.upper

/-- How documents write the side. -/
def code : Side → String
  | .none => ""
  | .a => "a"
  | .b => "b"

/-- How reports show the side. -/
def label : Side → String
  | .none => "none"
  | .a => "a"
  | .b => "b"

def parse (s : String) : Except Error Side :=
  let t := Text.trim s
  if t = "" then .ok .none
  else if t = "a" ∨ t = "A" then .ok .a
  else if t = "b" ∨ t = "B" then .ok .b
  else .error (.parse ("invalid side '" ++ t ++ "'"))

/-- An absent side is none. -/
def ofOption : Option String → Except Error Side
  | some s => parse s
  | .none => .ok .none

end Side
end MetricRing.Topology
