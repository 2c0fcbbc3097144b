import MetricRing.Config
import MetricRing.Request
import MetricRing.Topology.Document
import MetricRing.Topology.Walk

/-!
# The state of a client

All that the calls of one client share: the nodes and the pool, the hash of the topology in force
and the ring compiled for it, the hooks, and a journal of what the hooks and the log were told
and of the documents that were compiled. Each function here is one section that nothing
interrupts. A ring is kept only as long as its hash is the one in force.
-/

namespace MetricRing

/-- A compiled ring, numbered so that two compilations of one document can be told apart. -/
structure Compiled where
  ring : Topology.Ring
  serial : Nat
  deriving DecidableEq, Inhabited

/-- A document that was to be compiled, and the digest it was declared with. -/
structure Compilation where
  document : Topology.Document
  declared : String
  deriving DecidableEq, Repr

abbrev RequestHook := Request → Except String Request

/-- What the watch hook is told: a node and whether it is healthy. -/
structure Verdict where
  id : String
  address : String
  healthy : Bool
  deriving DecidableEq, Repr

inductive Event where
  | requestDump (method url body : String)
  | responseDump (status : Nat) (body : String)
  | requestTrace (method node path : String) (elapsed : Time) (ok : Bool)
  deriving DecidableEq, Repr

structure State where
  nodes : Directory := []
  pool : Pool := {}
  currentTopology : String := ""
  compiled : Option Compiled := none
  serials : Nat := 0
  compilations : List Compilation := []
  hook : Option RequestHook := none
  watching : Bool := false
  verdicts : List Verdict := []
  events : List Event := []
  deriving Inhabited

namespace State

def node (s : State) (r : NodeRef) : Node := s.nodes.node r

def updateNode (s : State) (r : NodeRef) (f : Node → Node) : State :=
  { s with nodes := s.nodes.update r f }

/-- Makes a node, which is not in the pool yet. -/
def makeNode (s : State) (n : Node) : State × NodeRef :=
  ({ s with nodes := s.nodes ++ [n] }, s.nodes.length)

def addNode (s : State) (r : NodeRef) : State := { s with pool := s.pool.add s.nodes [r] }

def activate (s : State) (r : NodeRef) : State := { s with pool := s.pool.activate s.nodes [r] }

def deactivate (s : State) (r : NodeRef) : State :=
  { s with pool := s.pool.deactivate s.nodes [r] }

def record (s : State) (e : Event) : State := { s with events := s.events ++ [e] }

/-- Tells the watch hook about a node. -/
def notify (s : State) (r : NodeRef) (healthy : Bool) : State :=
  if s.watching then
    { s with verdicts := s.verdicts ++ [⟨(s.node r).id, (s.node r).address, healthy⟩] }
  else s

/-! ### The topology in force -/

/-- Puts a topology in force; another one than before drops the compiled ring. -/
def setTopology (s : State) (hash : String) : State :=
  let hash := Text.lowercase hash
  if s.currentTopology = hash then s
  else { s with currentTopology := hash, compiled := none }

/-- Whether `setTopology` changes anything. -/
def changes (s : State) (hash : String) : Bool := s.currentTopology != Text.lowercase hash

def invalidate (s : State) : State := { s with compiled := none }

/-- Numbers a ring, and keeps it if its topology is in force or none is. -/
def install (s : State) (ring : Topology.Ring) : State × Compiled :=
  let c : Compiled := ⟨ring, s.serials⟩
  let hash := if s.currentTopology = "" then ring.hash else s.currentTopology
  let kept := if hash = ring.hash then some c else s.compiled
  ({ s with currentTopology := hash, compiled := kept, serials := s.serials + 1 }, c)

def topologyHeader : String := "x-topo-0"

/-- The topology that a response announces. -/
def announced? (headers : Headers) : Option String :=
  match headers.text? topologyHeader with
  | some value => if Text.trim value = "" then none else some (Text.trim value)
  | none => none

/-- Keeps in mind that a document is about to be compiled. -/
def noteCompilation (s : State) (c : Compilation) : State :=
  { s with compilations := s.compilations ++ [c] }

/-- The active nodes to ask for a topology, those that have it already first. -/
def candidates (s : State) (wanted : String) : List NodeRef :=
  let has := fun r => (s.node r).currentTopology == wanted
  s.pool.active.filter has ++ s.pool.active.filter fun r => !has r

/-! ### Membership -/

/-- Makes and adds a node for a seed address, unless the address is known. -/
def seed (s : State) (address : String) : State × Option NodeRef :=
  match s.pool.findByAddress s.nodes address with
  | some _ => (s, none)
  | none =>
    let (s, r) := s.makeNode { address }
    (s.addNode r, some r)

def applyState (s : State) (r : NodeRef) (report : NodeState) : State :=
  s.updateNode r (·.applyState report)

/-- The node that stands for a member: by its id, or else by its address. -/
def known? (s : State) (id address : String) : Option NodeRef :=
  (s.pool.findById s.nodes id).or (s.pool.findByAddress s.nodes address)

/-- Gives a node an id, unless it has one. -/
def nameUnnamed (s : State) (r : NodeRef) (id : String) : State :=
  if (s.node r).id = "" then s.updateNode r (·.setId id) else s

/-- Moves a node to an address, unless some node of the pool is there. -/
def relocate (s : State) (r : NodeRef) (address : String) : State :=
  if !(s.node r).hasAddress address && (s.pool.findByAddress s.nodes address).isNone then
    s.updateNode r (·.setAddress address)
  else s

/-- Names a known node after the member it stands for, and moves it to the member's address. -/
def rename (s : State) (r : NodeRef) (id address : String) : State :=
  (s.nameUnnamed r id).relocate r address

/-- Brings a member into the pool. Returns the node made for it, if it was not known. -/
def merge (s : State) (id address : String) : State × Option NodeRef :=
  match s.known? id address with
  | some r => (s.rename r id address, none)
  | none =>
    let (s, r) := s.makeNode (Node.withId id address)
    (s.addNode r, some r)

end State
end MetricRing
