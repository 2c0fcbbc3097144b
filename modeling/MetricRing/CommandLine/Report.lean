import MetricRing.Node
import MetricRing.Failure
import MetricRing.Topology.Ring

/-!
# What the tool prints

Nodes and owners are printed in columns, where an empty text shows as a dash. A complaint names
what was attempted and then the failures behind it, one below the other.
-/

namespace MetricRing.CommandLine

def padded (width : Nat) (s : String) : String :=
  s ++ String.ofList (List.replicate (width - s.length) ' ')

def orDash (s : String) : String := if s = "" then "-" else s

def nodeLine (n : Node) : String :=
  "  " ++ padded 38 (orDash n.id) ++ " " ++ padded 28 n.address ++ " topology=" ++
    orDash n.currentTopology ++ " version=" ++ orDash n.semver ++ "\n"

def nodeTable (label : String) (nodes : List Node) : String :=
  label ++ " (" ++ toString nodes.length ++ "):\n" ++ String.join (nodes.map nodeLine)

def ownerLine (role : String) (m : Topology.Member) : String :=
  "  " ++ padded 8 role ++ " " ++ padded 38 m.id ++ " " ++ m.apiUrl ++ " side=" ++
    m.side.label ++ "\n"

/-- The owners of a metric, the primary first. -/
def ownerTable : List Topology.Member → String
  | [] => ""
  | first :: rest =>
    ownerLine "primary" first ++ String.join (rest.map (ownerLine "replica"))

/-- What could not be done, and why. -/
structure Complaint where
  attempt : String
  failure : Option Failure := none

namespace Complaint

/-- The texts of a failure and of the failure inside it. -/
def causes : Failure → List String
  | .topology cause => [(Failure.topology cause).message, cause.message]
  | f => [f.message]

/-- A text whose further lines start with blanks. -/
def indented (blanks : String) (s : String) : String :=
  String.ofList (s.toList.flatMap fun c => if c = '\n' then '\n' :: blanks.toList else [c])

def numbered : Nat → List String → String
  | _, [] => ""
  | n, s :: rest =>
    let number := toString n
    let blanks := String.ofList (List.replicate (5 - number.length) ' ')
    "\n" ++ blanks ++ number ++ ": " ++ indented "       " s ++ numbered (n + 1) rest

def causesText : List String → String
  | [] => ""
  | [s] => "\n\nCaused by:\n    " ++ indented "    " s
  | ss => "\n\nCaused by:" ++ numbered 0 ss

def text (c : Complaint) : String :=
  "Error: " ++ c.attempt ++ causesText ((c.failure.map causes).getD []) ++ "\n"

end Complaint
end MetricRing.CommandLine
