import MetricRing.Client.Attempts
import MetricRing.Client.Reports

/-!
# Who owns a metric

The ring of the topology in force is loaded on demand, by one caller at a time: the others wait
and then find it. The active nodes are asked in turn until one hands out a document with the
right digest.
-/

namespace MetricRing.Client

open MetricRing.Topology (Document Ring Member)

def compileDocument (d : Document) (hash : String) : Except Failure Ring :=
  match d.compile (some hash) with
  | .ok ring => .ok ring
  | .error e => .error (.topology e)

/-- Compiles a document, and keeps in mind under which digest. -/
def compile (d : Document) (hash : String) : Op (Except Failure Ring) := do
  Op.modify fun s => s.noteCompilation ⟨d, hash⟩
  return compileDocument d hash

/-- Asks one node for a topology, and compiles what it hands out. -/
def loadFrom (c : Config) (node : NodeRef) (hash : String) : Op (Except Failure Ring) := do
  match ← fetchDocument c node hash with
  | .error f => return .error f
  | .ok d => compile d hash

/-- Asks the nodes in turn, each for `wanted`, or for its own topology if that is empty. -/
def loadFirst (c : Config) (wanted : String) :
    List NodeRef → List Failure → Op (Except Failure Compiled)
  | [], failures => return .error (Failure.combine failures .noActiveNodes)
  | node :: rest, failures => do
    let own ← Op.read fun s => (s.node node).currentTopology
    let hash := if wanted = "" then own else wanted
    if hash = "" then loadFirst c wanted rest failures
    else match ← loadFrom c node hash with
      | .ok ring =>
        let compiled ← Op.update fun s => s.install ring
        return .ok compiled
      | .error f =>
        if f.isCancellation then return .error f
        else loadFirst c wanted rest (failures ++ [f])

/-- Loads the ring while holding the lock, unless another caller has just done so. -/
def loadLocked (c : Config) : Op (Except Failure Compiled) := do
  match ← Op.read State.compiled with
  | some compiled => return .ok compiled
  | none =>
    let wanted ← Op.read State.currentTopology
    let nodes ← Op.read fun s => s.candidates wanted
    loadFirst c wanted nodes []

/-- The ring of the topology in force. -/
def topology (c : Config) : Op (Except Failure Compiled) := do
  match ← Op.read State.compiled with
  | some compiled => return .ok compiled
  | none =>
    match ← Op.lock with
    | .error i => return .error i.failure
    | .ok () =>
      let result ← loadLocked c
      Op.unlock
      return result

def ownersIn (ring : Ring) (owner metric : String) : Except Failure (List Member) :=
  match ring.findMetric owner metric with
  | .ok members => .ok members
  | .error e => .error (.topology e)

/-- The members that hold a metric, the primary first. -/
def locate (c : Config) (owner metric : String) : Op (Except Failure (List Member)) := do
  match ← topology c with
  | .error f => return .error f
  | .ok compiled => return ownersIn compiled.ring owner metric

/-- The active node that comes first among the wanted ids, or else any active node. -/
def activeNode (ids : List String) : Op (Option NodeRef) := do
  match ← Op.read fun s => (s.pool.preferred s.nodes ids, s.pool.active) with
  | (some r, _) => return some r
  | (none, active) => Op.oneOf active

/-- The node to send requests for a metric to. -/
def preferredNode (c : Config) (owner metric : String) :
    Op (Except Failure (Option NodeRef)) := do
  match ← topology c with
  | .error f => return .error f
  | .ok compiled =>
    match compiled.ring.findMetricIds owner metric with
    | .error e => return .error (.topology e)
    | .ok ids =>
      let node ← activeNode ids
      return .ok node

/-- Sends a request that concerns a metric, to an owner of the metric if one is known. -/
def metricRequest (c : Config) (owner metric : String) (r : Request) : Op Outcome := do
  if r.preferred.isSome then request c r
  else match ← preferredNode c owner metric with
    | .ok node => request c { r with preferred := node }
    | .error f => if f.isCancellation then return .error f else request c r

end MetricRing.Client
