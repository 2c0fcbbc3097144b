import MetricRing.Client.Exchange
import MetricRing.Gossip
import MetricRing.Topology.Document

/-!
# What nodes report

The three documents that every node serves: its own state, the gossip, and its topologies.
-/

namespace MetricRing.Client

open MetricRing.Topology (Document)

def fetchState (c : Config) (node : NodeRef) : Op (Except Failure NodeState) := do
  match ← nodeRequest c node (Request.get "/state") with
  | .error f => return .error f
  | .ok response => return NodeState.parse response.body

def fetchGossip (c : Config) (node : NodeRef) : Op (Except Failure (List GossipEntry)) := do
  match ← nodeRequest c node (Request.get "/gossip/json") with
  | .error f => return .error f
  | .ok response => return Gossip.parse response.body

def documentPath (hash : String) : String := "/topology/json/" ++ hash

def readDocument (body : List UInt8) : Except Failure Document :=
  match Document.parse body with
  | .ok d => .ok d
  | .error e => .error (.topology e)

def fetchDocument (c : Config) (node : NodeRef) (hash : String) :
    Op (Except Failure Document) := do
  match ← nodeRequest c node (Request.get (documentPath hash)) with
  | .error f => return .error f
  | .ok response => return readDocument response.body

end MetricRing.Client
