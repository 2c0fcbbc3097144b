import MetricRing.Text.Hex
import MetricRing.Topology.Member

/-!
# Topology digests and slot places

`digestBytes` is the byte string whose SHA-256 names a topology: one record for each member in
order, and a trailer unless two copies are written. A record is the padded id, two zero bytes
and the weight, and in sided topologies the side.
-/

namespace MetricRing.Topology

def idWidth : Nat := 36

/-- The first bytes of the id, filled up with zeros. -/
def paddedId (id : String) : List UInt8 :=
  let bytes := id.toUTF8.toList.take idWidth
  bytes ++ List.replicate (idWidth - bytes.length) 0

def bigEndian16 (n : UInt16) : List UInt8 := [(n >>> 8).toUInt8, n.toUInt8]

/-- The place of one slot of a member, in the half of the member's side. -/
def slotLocation (id : String) (replica : UInt16) (side : Side) : Location :=
  side.pin (Hash.Sha256.digestBits (paddedId id ++ bigEndian16 replica))

def digestRecord (sided : Bool) (m : Member) : List UInt8 :=
  paddedId m.id ++ [0, 0] ++ bigEndian16 m.weight.toUInt16 ++
    if sided then [m.side.digestByte] else []

def nativeWriteCopies : UInt8 := 2

def digestTrailer (writeCopies : UInt8) : List UInt8 :=
  if writeCopies = nativeWriteCopies then [] else List.replicate 38 0 ++ [writeCopies]

def digestBytes (members : List Member) (sided : Bool) (writeCopies : UInt8) : List UInt8 :=
  members.flatMap (digestRecord sided) ++ digestTrailer writeCopies

/-- The name of a topology, in lower-case digits. -/
def digest (members : List Member) (sided : Bool) (writeCopies : UInt8) : String :=
  Text.hex (Hash.Sha256.digest (digestBytes members sided writeCopies))

end MetricRing.Topology
