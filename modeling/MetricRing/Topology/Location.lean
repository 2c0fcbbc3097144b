import MetricRing.Hash.Sha256

/-!
# Places on the ring

A place is a number of 256 bits. The top bit divides the ring into a lower and an upper half,
and `opposite` is the same place in the other half.
-/

namespace MetricRing.Topology

abbrev Location := BitVec 256

namespace Location

def topBit : Location := BitVec.ofNat 256 (Nat.pow 2 255)

def isUpper (l : Location) : Bool := l.msb

def lower (l : Location) : Location := l &&& ~~~topBit

def upper (l : Location) : Location := l ||| topBit

def opposite (l : Location) : Location := l ^^^ topBit

def ofBytes (bytes : List UInt8) : Location :=
  BitVec.ofNat 256 (bytes.foldl (fun n b => n * 256 + b.toNat) 0)

def bytes (l : Location) : List UInt8 := Hash.Sha256.bigEndian 32 l.toNat

/-- The place of a key. -/
def ofKey (key : String) : Location := Hash.Sha256.digestBits key.toUTF8.toList

end Location
end MetricRing.Topology
