/-!
# Why a topology is refused

The causes, and the text that reports each of them.
-/

namespace MetricRing.Topology

inductive Error where
  | integrity (declared computed : String)
  | emptyTopology
  | invalidNode (id reason : String)
  | parse (message : String)
  deriving DecidableEq, Repr

def Error.message : Error → String
  | .integrity declared computed =>
    "Topology integrity check failed: declared " ++ declared ++ ", computed " ++ computed
  | .emptyTopology => "Empty topology"
  | .invalidNode id reason => "Invalid node '" ++ id ++ "': " ++ reason
  | .parse message => "Parse error: " ++ message

end MetricRing.Topology
