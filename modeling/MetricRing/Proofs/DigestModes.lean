import MetricRing.Proofs.DigestBytes

/-!
# Digests of the two modes

Nothing in the bytes under a digest says whether the topology is sided. What keeps the modes
apart is arithmetic: records of 41 bytes and records of 40, with or without a trailer of 39,
fill the same length only when a single sided member faces two members without sides, or when
both lists have 39 members at least. In the second case the zeros before each weight run through
the sided records byte by byte: they take the whole id of the 37th member.
-/

namespace MetricRing

namespace Topology

variable {members members' : List Member} {writeCopies writeCopies' : UInt8}

/-! ### Where the modes can meet -/

theorem Collide.symm {bytes bytes' : List UInt8} (h : Collide bytes bytes') :
    Collide bytes' bytes := ⟨h.1.symm, h.2.symm⟩

def named : Member := { id := "n", address := "10.0.0.1", weight := 1 }

def single : List Member := [{ id := "n", address := "10.0.0.1", weight := 1, side := .a }]

def blank : Member := { id := "", address := "10.0.0.1" }

def blanks : List Member := List.replicate 39 blank ++ [{ blank with weight := 256 }, blank]

end Topology
end MetricRing
