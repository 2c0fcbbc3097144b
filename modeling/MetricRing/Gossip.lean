import MetricRing.Decimal.Reader
import MetricRing.Failure
import MetricRing.Json.Value
import MetricRing.Text.Blank

/-!
# Gossip

What the nodes tell about one another: for each node how long ago it was heard of, and how far
it is from its peers. A node that was heard of recently counts as fresh.
-/

namespace MetricRing

open Json

structure GossipEntry where
  id : String
  time : Float
  age : Float
  currentTopology : String
  nextTopology : String
  topologyState : String
  latency : List (String × Float)

namespace GossipEntry

def maxAge : Float := 10.0

def isFresh (e : GossipEntry) : Bool := e.age < maxAge

/-- A number, or a text that spells one. -/
def decimal? : Value → Option Float
  | .string s => Decimal.read? (Text.trim s)
  | v => v.float?

def textOf (v : Value) (key : String) : String := ((v.get? key).bind Value.string?).getD ""

/-- Keeps one value for each key, the last one given. -/
def putLatency (peer : String) (x : Float) : List (String × Float) → List (String × Float)
  | [] => [(peer, x)]
  | (p, y) :: rest => if p = peer then (p, x) :: rest else (p, y) :: putLatency peer x rest

def latencies : List (String × Value) → List (String × Float) → List (String × Float)
  | [], known => known
  | (peer, v) :: rest, known =>
    match decimal? v with
    | some x => latencies rest (putLatency (Text.lowercase peer) x known)
    | none => latencies rest known

def latencyOf (v : Value) : List (String × Float) :=
  match v.get? "latency" with
  | some (.object peers) => latencies peers []
  | _ => []

/-- An entry without an age has never been heard of. -/
def ageField (id : String) (v : Value) : Except Failure Float :=
  match v.get? "gossip_age" with
  | none => .ok Decimal.infinity
  | some a =>
    match decimal? a with
    | some x => .ok x
    | none => .error (.protocol ("gossip entry " ++ id ++ " has an invalid age"))

def ofValue (v : Value) : Except Failure GossipEntry :=
  let id := textOf v "id"
  if id = "" then .error (.protocol "gossip entry is missing its id")
  else match ageField id v with
    | .error e => .error e
    | .ok age => .ok
      { id := Text.lowercase id
        time := ((v.get? "gossip_time").bind decimal?).getD 0.0
        age
        currentTopology := textOf v "topo_current"
        nextTopology := textOf v "topo_next"
        topologyState := textOf v "topo_state"
        latency := latencyOf v }

end GossipEntry

namespace Gossip

def ofItems : List Value → Except Failure (List GossipEntry)
  | [] => .ok []
  | v :: rest =>
    match GossipEntry.ofValue v with
    | .error e => .error e
    | .ok entry =>
      match ofItems rest with
      | .error e => .error e
      | .ok entries => .ok (entry :: entries)

def parse (bytes : List UInt8) : Except Failure (List GossipEntry) :=
  match Value.parse? bytes with
  | some (.array items) => ofItems items
  | some _ => .error (.protocol "gossip document is not an array")
  | none => .error (.protocol "invalid gossip document: not JSON")

/-- The age in the first entry of a node. -/
def ageOf (entries : List GossipEntry) (id : String) : Option Float :=
  (entries.find? fun e => Text.sameIgnoringCase e.id id).map fun e => e.age

end Gossip
end MetricRing
