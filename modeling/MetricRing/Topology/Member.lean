import MetricRing.Topology.Side

/-!
# Members of a topology

What a topology says about one of its nodes: who it is, where it answers, and how much of the
ring it takes.
-/

namespace MetricRing.Topology

structure Member where
  id : String
  address : String
  port : UInt16 := 0
  apiPort : UInt16 := 0
  weight : UInt32 := 0
  side : Side := .none
  deriving DecidableEq, Repr, Inhabited

/-- Where the member serves requests. -/
def Member.apiUrl (m : Member) : String :=
  "http://" ++ m.address ++ ":" ++ toString m.apiPort.toNat

end MetricRing.Topology
