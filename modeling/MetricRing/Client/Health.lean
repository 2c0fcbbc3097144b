import MetricRing.Client.Membership

/-!
# The health of nodes

A node is healthy if it serves the gossip and was itself heard of recently. A round checks the
inactive nodes first and then the active ones, and moves each to the list it belongs to. Nothing
moves once a check has been cancelled.
-/

namespace MetricRing.Client

/-- Whether the gossip tells of the node as fresh. -/
def isHeard (entries : List GossipEntry) (id : String) : Bool :=
  match Gossip.ageOf entries id with
  | some age => age < GossipEntry.maxAge
  | none => false

def checkGossip (c : Config) (node : NodeRef) : Op (Except Failure Bool) := do
  match ← fetchGossip c node with
  | .error f => if f.isCancellation then return .error f else return .ok false
  | .ok entries =>
    let id ← Op.read fun s => (s.node node).id
    return .ok (isHeard entries id)

/-- Whether a node is healthy; one without an id is asked for it first. -/
def isHealthy (c : Config) (node : NodeRef) : Op (Except Failure Bool) := do
  let id ← Op.read fun s => (s.node node).id
  if id ≠ "" then checkGossip c node
  else match ← fetchState c node with
    | .error f => if f.isCancellation then return .error f else return .ok false
    | .ok report =>
      Op.modify fun s => s.applyState node report
      checkGossip c node

/-- Checks inactive nodes. Returns whether all could be checked. -/
def checkInactive (c : Config) : List NodeRef → Op Bool
  | [] => return true
  | node :: rest => do
    match ← isHealthy c node with
    | .error _ => return false
    | .ok healthy =>
      if healthy then Op.modify fun s => s.activate node
      Op.modify fun s => s.notify node healthy
      checkInactive c rest

/-- Checks active nodes. -/
def checkActive (c : Config) : List NodeRef → Op Unit
  | [] => return ()
  | node :: rest => do
    match ← isHealthy c node with
    | .error _ => return ()
    | .ok healthy =>
      if !healthy then Op.modify fun s => s.deactivate node
      Op.modify fun s => s.notify node healthy
      checkActive c rest

/-- Discovery before a round, if it is wanted. Returns whether the round may go on. -/
def discoverBefore (c : Config) : Op Bool := do
  if c.discover then
    let found ← discover c
    return (cancellation? found).isNone
  else return true

/-- One round over all nodes. -/
def checkNodes (c : Config) : Op Unit := do
  if ← discoverBefore c then
    let inactive ← Op.read fun s => s.pool.inactive
    if ← checkInactive c inactive then
      let active ← Op.read fun s => s.pool.active
      checkActive c active

end MetricRing.Client
