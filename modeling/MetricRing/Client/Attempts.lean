import MetricRing.Client.Exchange

/-!
# Requests to any node

A request makes one attempt after another, with growing pauses between them. Within an attempt a
node that cannot be connected to is replaced by another active node, each address at most once,
as long as the budget allows. What may not be retried is returned as it is.
-/

namespace MetricRing.Client

/-- Which node an attempt starts with: a fixed one, or one of several. -/
inductive Start where
  | node (r : NodeRef)
  | oneOf (rs : List NodeRef)
  deriving DecidableEq, Repr

/-- The preferred node leads the first attempt, and later ones while it is active. -/
def startOf (s : State) (preferred : Option NodeRef) (attempt : Nat) : Start :=
  match preferred with
  | none => .oneOf s.pool.active
  | some r =>
    if attempt = 0 ∨ s.pool.isActive s.nodes (s.node r).address then .node r
    else if s.pool.active.isEmpty then .node r
    else .oneOf s.pool.active

def selectNode (preferred : Option NodeRef) (attempt : Nat) : Op (Option NodeRef) := do
  match ← Op.read fun s => startOf s preferred attempt with
  | .node r => return some r
  | .oneOf rs => Op.oneOf rs

/-- The budget left after one more node. -/
def spend? : Option Nat → Option (Option Nat)
  | none => some none
  | some 0 => none
  | some (n + 1) => some (some n)

/-- Sends the request to the next node of a failover, and goes on if it cannot be reached. -/
def failoverStep (c : Config) (f : Failover) : Op (Outcome × Nat) := do
  let address ← Op.read fun s => (s.node f.node).address
  let tried := f.tried ++ [address]
  let contacted := f.contacted + 1
  match ← sendOnce c f.node f.request with
  | .ok response => return (.ok response, contacted)
  | .error e =>
    if !e.isConnection then return (.error e, contacted)
    else match spend? f.budget with
      | none => return (.error e, contacted)
      | some budget =>
        let others ← Op.read fun s => s.pool.activeExcluding s.nodes tried
        match ← Op.oneOf others with
        | none => return (.error e, contacted)
        | some node =>
          .failover { request := f.request, node, tried, budget, contacted } .done

/-- One attempt; `contacted` counts the nodes that the whole call has turned to. -/
def tryOnce (c : Config) (r : Request) (attempt contacted : Nat) : Op (Outcome × Nat) := do
  match ← selectNode r.preferred attempt with
  | none => return (.error .noActiveNodes, contacted)
  | some node =>
    .failover
      { request := r, node, budget := (RetryPolicy.ofConfig c).connectRetries, contacted } .done

/-- Up to `left` more attempts after one that failed. -/
def retry (c : Config) (r : Request) : Nat → Nat → Nat → Failure → Op Outcome
  | 0, _, contacted, last => return .error (.exhausted contacted last)
  | left + 1, attempt, contacted, _ => do
    match ← Op.wait r.deadline ((RetryPolicy.ofConfig c).backoff attempt).toMillis with
    | .error i => return .error i.failure
    | .ok () =>
      let (outcome, contacted) ← tryOnce c r attempt contacted
      match outcome with
      | .ok response => return .ok response
      | .error e =>
        if e.isRetryable then retry c r left (attempt + 1) contacted e else return .error e

/-- Sends a request to the cluster. -/
def request (c : Config) (r : Request) : Op Outcome := do
  match ← prepare c r with
  | .error f => return .error f
  | .ok r =>
    let (outcome, contacted) ← tryOnce c r 0 0
    match outcome with
    | .ok response => return .ok response
    | .error e =>
      if e.isRetryable then retry c r (RetryPolicy.ofConfig c).retries 1 contacted e
      else return .error e

end MetricRing.Client
