import MetricRing.Client.Ownership

/-!
# Which nodes there are

A client starts from its seeds: it asks each for its state and keeps the ones that answer. With
discovery it learns the other nodes from the topology document of an active one. Members that do
not answer are kept as inactive.
-/

namespace MetricRing.Client

open MetricRing.Topology (Document Member)

/-! ### Discovery -/

/-- The topology of a node, which is asked for its state if it is not known. -/
def knownHash (c : Config) (node : NodeRef) : Op (Except Failure String) := do
  let hash ← Op.read fun s => (s.node node).currentTopology
  if hash ≠ "" then return .ok hash
  else match ← fetchState c node with
    | .error f => return .error f
    | .ok report =>
      Op.modify fun s => s.applyState node report
      let hash ← Op.read fun s => (s.node node).currentTopology
      return .ok hash

/-- The first document that one of the nodes hands out for its own topology. -/
def firstDocument (c : Config) :
    List NodeRef → List Failure → Op (Except Failure (NodeRef × Document))
  | [], failures => return .error (Failure.combine failures .noActiveNodes)
  | node :: rest, failures => do
    match ← knownHash c node with
    | .error f =>
      if f.isCancellation then return .error f else firstDocument c rest (failures ++ [f])
    | .ok hash =>
      if hash = "" then firstDocument c rest failures
      else match ← fetchDocument c node hash with
        | .ok d => return .ok (node, d)
        | .error f =>
          if f.isCancellation then return .error f else firstDocument c rest (failures ++ [f])

/-- Takes over what a node says about itself, and activates it. -/
def welcome (node : NodeRef) (report : NodeState) : Op Unit := do
  Op.modify fun s => s.applyState node report
  Op.modify fun s => s.activate node

/-- What became of a member. -/
inductive Merge where
  | known
  | added
  | addedInactive (f : Failure)

def mergeMember (c : Config) (m : Member) : Op (Except Failure Merge) := do
  match Address.normalize m.apiUrl with
  | .error f => return .error f
  | .ok address =>
    match ← Op.update fun s => s.merge m.id address with
    | none => return .ok .known
    | some node =>
      match ← fetchState c node with
      | .ok report =>
        welcome node report
        return .ok .added
      | .error f => if f.isCancellation then return .error f else return .ok (.addedInactive f)

/-- How many members were new, how many can be reached, and what failed. -/
structure Tally where
  added : Nat := 0
  reachable : Nat := 0
  failures : List Failure := []

def Tally.count (t : Tally) : Except Failure Merge → Tally
  | .ok .known => { t with reachable := t.reachable + 1 }
  | .ok .added => { t with added := t.added + 1, reachable := t.reachable + 1 }
  | .ok (.addedInactive f) => { t with added := t.added + 1, failures := t.failures ++ [f] }
  | .error f => { t with failures := t.failures ++ [f] }

def cancellation? {α : Type} : Except Failure α → Option Failure
  | .error f => if f.isCancellation then some f else none
  | .ok _ => none

def mergeAll (c : Config) : List Member → Tally → Op (Except Failure Tally)
  | [], t => return .ok t
  | m :: rest, t => do
    let merged ← mergeMember c m
    match cancellation? merged with
    | some f => return .error f
    | none => mergeAll c rest (t.count merged)

/-- Compiles the document that the members came from, and keeps the ring. -/
def installDocument (d : Document) (hash : String) : Op (List Failure) := do
  match ← compile d hash with
  | .ok ring =>
    let _ ← Op.update fun s => s.install ring
    return []
  | .error f => return [f]

/-- Brings the members of the cluster's topology into the pool, and counts the new ones. -/
def discover (c : Config) : Op (Except Failure Nat) := do
  let nodes ← Op.read fun s => s.pool.active
  match ← firstDocument c nodes [] with
  | .error f => return .error f
  | .ok (source, d) =>
    let hash ← Op.read fun s => (s.node source).currentTopology
    match ← mergeAll c d.members {} with
    | .error f => return .error f
    | .ok t =>
      let failures := t.failures ++ (← installDocument d hash)
      if t.reachable = 0 ∧ !failures.isEmpty then return .error (.multiple failures)
      else return .ok t.added

/-! ### Start -/

/-- Asks each seed for its state. Returns the failures, or the one that ended all work. -/
def probeSeeds (c : Config) : List String → List Failure → Op (Except Failure (List Failure))
  | [], failures => return .ok failures
  | address :: rest, failures => do
    match ← Op.update fun s => s.seed address with
    | none => probeSeeds c rest failures
    | some node =>
      match ← fetchState c node with
      | .ok report =>
        welcome node report
        probeSeeds c rest failures
      | .error f =>
        if f.isCancellation then return .error f else probeSeeds c rest (failures ++ [f])

/-- Puts the topology of the first active node in force, if it has one. -/
def adoptFirst : Op Unit := do
  match ← Op.read fun s => s.pool.active with
  | [] => return ()
  | first :: _ =>
    let hash ← Op.read fun s => (s.node first).currentTopology
    if hash ≠ "" then Op.modify fun s => s.setTopology hash

/-- Discovery at the start; only a cancellation counts as its failure. -/
def discoverAtStart (c : Config) : Op (Option Failure) := do
  let active ← Op.read fun s => s.pool.active
  if c.discover ∧ !active.isEmpty then
    let found ← discover c
    return cancellation? found
  else return none

def bootstrap (c : Config) : Op (Except Failure Unit) := do
  match c.serverAddresses with
  | .error f => return .error f
  | .ok addresses =>
    match ← probeSeeds c addresses [] with
    | .error f => return .error f
    | .ok failures =>
      adoptFirst
      match ← discoverAtStart c with
      | some f => return .error f
      | none =>
        let active ← Op.read fun s => s.pool.active
        if active.isEmpty then return .error (Failure.combine failures .noActiveNodes)
        else return .ok ()

/-- A client that knows no node yet. -/
def create (c : Config) : Except Failure State :=
  match c.validate with
  | .error f => .error f
  | .ok () => .ok {}

end MetricRing.Client
