import MetricRing.Topology.Ring

/-!
# Owners of a key

`Ring.findN` walks clockwise from the key's place to the first slot of a member not met before,
and from there on alternates between the two halves of the ring, one member at a time. In a
sided ring each step stays in the half it looks in.
-/

namespace MetricRing.Topology

/-- Where a metric is placed: its owner in lower case and its name. -/
def metricKey (owner metric : String) : String := Text.lowercase owner ++ "-" ++ metric

namespace Ring

/-- Halves the interval `lo … hi` around the first slot at or after `l`, `fuel` times. -/
def bisect (r : Ring) (l : Location) : Nat → Nat → Nat → Nat
  | 0, lo, _ => lo
  | fuel + 1, lo, hi =>
    if lo < hi then
      let middle := (lo + hi) / 2
      match r.slots[middle]? with
      | some s => if s.location < l then r.bisect l fuel (middle + 1) hi
        else r.bisect l fuel lo middle
      | none => lo
    else lo

/-- The index of the first slot at or after `l`, or the first slot of all. -/
def search (r : Ring) (l : Location) : Nat :=
  let i := r.bisect l r.slots.size 0 r.slots.size
  if i = r.slots.size then 0 else i

/-- A slot serves a place if its member is new and, in a sided ring, it lies in the same half. -/
def serves (r : Ring) (selected : List Nat) (l : Location) (s : Slot) : Bool :=
  !selected.contains s.node && (!r.sided || s.isUpper == l.isUpper)

/-- The first of `steps` slots from index `i` on that serves `l`, the ring being a circle. -/
def walk (r : Ring) (selected : List Nat) (l : Location) : Nat → Nat → Option Nat
  | 0, _ => none
  | steps + 1, i =>
    match r.slots[i % r.slots.size]? with
    | some s => if r.serves selected l s then some s.node else r.walk selected l steps (i + 1)
    | none => none

/-- Adds up to `wanted` members to those selected so far. -/
def select (r : Ring) : Nat → Location → List Nat → List Nat
  | 0, _, selected => selected
  | wanted + 1, l, selected =>
    match r.walk selected l (2 * r.slots.size) (r.search l) with
    | some node => r.select wanted l.opposite (selected ++ [node])
    | none => selected

/-- The positions of at most `n` members that own the key, nearest first. -/
def owners (r : Ring) (key : String) (n : Nat) : List Nat :=
  r.select (min n r.members.length) (Location.ofKey key) []

def findN (r : Ring) (key : String) (n : Nat) : Except Error (List Member) :=
  if r.slots.isEmpty then .error .emptyTopology
  else .ok ((r.owners key n).filterMap fun i => r.members[i]?)

def findMetric (r : Ring) (owner metric : String) : Except Error (List Member) :=
  r.findN (metricKey owner metric) r.writeCopies.toNat

def findMetricIds (r : Ring) (owner metric : String) : Except Error (List String) :=
  match r.findMetric owner metric with
  | .ok members => .ok (members.map fun m => m.id)
  | .error e => .error e

end Ring
end MetricRing.Topology
