import MetricRing.Node

/-!
# The node pool

A pool keeps the nodes of a cluster in two lists, active and inactive. It knows nodes by number
and compares them by the address that each has at the moment, so that all functions take the
directory of the nodes. The node registered first keeps its address.
-/

namespace MetricRing

abbrev NodeRef := Nat

/-- All nodes ever made, by number. -/
abbrev Directory := List Node

namespace Directory

def node (d : Directory) (r : NodeRef) : Node := (d[r]?).getD { address := "" }

def update (d : Directory) (r : NodeRef) (f : Node → Node) : Directory := d.modify r f

def address (d : Directory) (r : NodeRef) : String := (d.node r).address

end Directory

structure Pool where
  active : List NodeRef := []
  inactive : List NodeRef := []
  deriving DecidableEq, Repr, Inhabited

namespace Pool

variable (d : Directory)

def hasAddress (address : String) (r : NodeRef) : Bool := (d.node r).hasAddress address

/-- Moves a node to the end of `target`, unless its address is there already. Returns `source` and
`target` without and with it; of a node in `source` the one registered there moves. -/
def move (source target : List NodeRef) (r : NodeRef) : List NodeRef × List NodeRef :=
  let here := hasAddress d (d.address r)
  if target.any here then (source.filter fun s => !here s, target)
  else match source.find? here with
    | some first => (source.eraseP here, target ++ [first])
    | none => (source, target ++ [r])

def members (p : Pool) : List NodeRef := p.active ++ p.inactive

def addNode (p : Pool) (r : NodeRef) : Pool :=
  if p.members.any (hasAddress d (d.address r)) then p
  else { p with inactive := p.inactive ++ [r] }

def activateNode (p : Pool) (r : NodeRef) : Pool :=
  let (inactive, active) := move d p.inactive p.active r
  ⟨active, inactive⟩

def deactivateNode (p : Pool) (r : NodeRef) : Pool :=
  let (active, inactive) := move d p.active p.inactive r
  ⟨active, inactive⟩

def add (p : Pool) (rs : List NodeRef) : Pool := rs.foldl (addNode d) p

def activate (p : Pool) (rs : List NodeRef) : Pool := rs.foldl (activateNode d) p

def deactivate (p : Pool) (rs : List NodeRef) : Pool := rs.foldl (deactivateNode d) p

def isActive (p : Pool) (address : String) : Bool := p.active.any (hasAddress d address)

def findByAddress (p : Pool) (address : String) : Option NodeRef :=
  p.members.find? (hasAddress d address)

def findById (p : Pool) (id : String) : Option NodeRef :=
  p.members.find? fun r => (d.node r).hasId id

/-- The active node that comes first in the order of the wanted ids. -/
def preferred (p : Pool) (ids : List String) : Option NodeRef :=
  ids.findSome? fun id => p.active.find? fun r => (d.node r).hasId id

/-- The active nodes at none of these addresses. -/
def activeExcluding (p : Pool) (addresses : List String) : List NodeRef :=
  p.active.filter fun r => !addresses.any fun a => hasAddress d a r

end Pool

/-- Number `pick` of the candidates, counted around. -/
def choose (candidates : List NodeRef) (pick : Nat) : Option NodeRef :=
  candidates[pick % candidates.length]?

end MetricRing
