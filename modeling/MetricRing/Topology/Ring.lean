import MetricRing.Text.Lowercase
import MetricRing.Topology.Digest

/-!
# Compiled topologies

A ring holds one slot for each unit of weight of its members, in the order of their places.
Compiling checks the weights first, then the declared digest.
-/

namespace MetricRing.Topology

structure Slot where
  location : Location
  node : Nat
  replica : Nat
  deriving DecidableEq, Repr, Inhabited

namespace Slot

def isUpper (s : Slot) : Bool := s.location.isUpper

/-- The order of the ring: by place, then by member, then by replica. -/
def le (s t : Slot) : Bool :=
  s.location < t.location ||
    (s.location == t.location && (s.node < t.node || (s.node == t.node && s.replica ≤ t.replica)))

end Slot

structure Ring where
  hash : String
  writeCopies : UInt8
  sided : Bool
  members : List Member
  slots : Array Slot
  deriving DecidableEq, Inhabited

def maxWeight : Nat := 65535

def Member.lowered (m : Member) : Member := { m with id := Text.lowercase m.id }

/-- Lower-cases the ids in order, up to the first member that is too heavy. -/
def normalized : List Member → Except Error (List Member)
  | [] => .ok []
  | m :: rest =>
    if m.weight.toNat > maxWeight then
      .error (.invalidNode m.lowered.id
        ("weight " ++ toString m.weight.toNat ++ " exceeds " ++ toString maxWeight))
    else match normalized rest with
      | .ok members => .ok (m.lowered :: members)
      | .error e => .error e

def isSided (members : List Member) : Bool := members.any fun m => m.side.isDeclared

def Member.slots (m : Member) (node : Nat) : List Slot :=
  (List.range m.weight.toNat).map fun r => ⟨slotLocation m.id (UInt16.ofNat r) m.side, node, r⟩

/-- The slots of the members from position `node` on. -/
def slotsFrom (node : Nat) : List Member → List Slot
  | [] => []
  | m :: rest => m.slots node ++ slotsFrom (node + 1) rest

namespace Ring

def build (members : List Member) (hash : String) (sided : Bool) (writeCopies : UInt8) : Ring where
  hash := hash
  writeCopies := writeCopies
  sided := sided
  members := members
  slots := ((slotsFrom 0 members).mergeSort Slot.le).toArray

/-- Compiles members under the digest they are declared with; an empty one declares nothing. -/
def compile (members : List Member) (declared : Option String) (writeCopies : UInt8) :
    Except Error Ring :=
  match normalized members with
  | .error e => .error e
  | .ok members =>
    let sided := isSided members
    let computed := digest members sided writeCopies
    match declared.filter fun d => d != "" with
    | some d =>
      if Text.sameIgnoringCase d computed then .ok (build members computed sided writeCopies)
      else .error (.integrity d computed)
    | none => .ok (build members computed sided writeCopies)

/-- Rings come from compiling and from nowhere else. -/
def IsCompiled (r : Ring) : Prop :=
  ∃ members declared writeCopies, compile members declared writeCopies = .ok r

/-- The member with this id, whatever its case. -/
def member? (r : Ring) (id : String) : Option Member :=
  r.members.find? fun m => m.id == Text.lowercase id

end Ring
end MetricRing.Topology
