import MetricRing.Json.Printer
import MetricRing.Failure

/-!
# Nodes

What is known about one node of the cluster. Its id is kept in lower case. A report of a node
about itself replaces the id and what is next, and everything else that it does not leave open.
-/

namespace MetricRing

structure Node where
  id : String := ""
  address : String
  currentTopology : String := ""
  nextTopology : String := ""
  semver : String := ""
  deriving DecidableEq, Repr, Inhabited

/-- What a node says about itself. -/
structure NodeState where
  identity : String
  semver : String
  currentTopology : String
  nextTopology : String
  deriving DecidableEq, Repr

namespace NodeState

open Json

def member? (path : List String) (v : Value) : Option Value :=
  path.foldl (fun v key => v.bind fun v => v.get? key) (some v)

/-- A text that is not empty, or a number as it prints. -/
def plainText? : Value → Option String
  | .string s => if s = "" then none else some s
  | .number n => some n.text
  | _ => none

/-- The first text among the places it may stand in. -/
def firstText (v : Value) (paths : List (List String)) : String :=
  (paths.findSome? fun path => (member? path v).bind plainText?).getD ""

/-- A dash stands for no topology. -/
def topologyHash (s : String) : String := if s = "-" then "" else Text.lowercase s

def ofValue (v : Value) : Except Failure NodeState :=
  let identity := firstText v [["identity"], ["id"]]
  if identity = "" then .error (.protocol "node state is missing its identity")
  else .ok
    { identity
      semver := firstText v [["semver"], ["version"]]
      currentTopology := topologyHash (firstText v [["topology", "current"], ["current"]])
      nextTopology := topologyHash (firstText v [["topology", "next"], ["next"]]) }

def parse (bytes : List UInt8) : Except Failure NodeState :=
  match Value.parse? bytes with
  | some v => ofValue v
  | none => .error (.protocol "invalid node state: not JSON")

end NodeState

namespace Node

def setId (n : Node) (id : String) : Node := { n with id := Text.lowercase id }

def withId (id address : String) : Node := setId { address } id

def setAddress (n : Node) (address : String) : Node := { n with address }

def setCurrentTopology (n : Node) (hash : String) : Node := { n with currentTopology := hash }

/-- No id matches a node without one. -/
def hasId (n : Node) (id : String) : Bool := n.id != "" && Text.sameIgnoringCase n.id id

def hasAddress (n : Node) (address : String) : Bool := n.address == address

def applyState (n : Node) (s : NodeState) : Node :=
  { n with
    id := Text.lowercase s.identity
    semver := if s.semver = "" then n.semver else s.semver
    currentTopology := if s.currentTopology = "" then n.currentTopology else s.currentTopology
    nextTopology := s.nextTopology }

/-- Where the node serves a path. -/
def url (n : Node) (path : String) : String :=
  if Text.startsWith path "/" then n.address ++ path else n.address ++ "/" ++ path

end Node
end MetricRing
