import MetricRing.Text.Lowercase
import MetricRing.Text.Search
import MetricRing.Topology.Error

/-!
# What can go wrong in a cluster

The failures of operations on a cluster, the text of each, and the two classes that decide what
happens next: a retryable failure may be tried again, and a cancellation ends all work at once.
-/

namespace MetricRing

inductive Failure where
  | configuration (message : String)
  | connection (node message : String)
  | timeout (node : String)
  | transport (node message : String)
  | server (node : String) (status : Nat) (message : String)
  | topology (cause : Topology.Error)
  | protocol (message : String)
  | cancelled
  | deadlineExceeded
  | noActiveNodes
  | hook (message : String)
  | multiple (failures : List Failure)
  | exhausted (attempts : Nat) (last : Failure)
  deriving Inhabited

namespace Failure

mutual

def message : Failure → String
  | .configuration m => "Configuration error: " ++ m
  | .connection node m => "Connection to " ++ node ++ " failed: " ++ m
  | .timeout node => "Request to " ++ node ++ " timed out"
  | .transport node m => "Transport error on " ++ node ++ ": " ++ m
  | .server node status m => "Server " ++ node ++ " returned " ++ toString status ++ ": " ++ m
  | .topology cause => "Topology error: " ++ cause.message
  | .protocol m => "Protocol error: " ++ m
  | .cancelled => "Request cancelled"
  | .deadlineExceeded => "Request deadline exceeded"
  | .noActiveNodes => "No active nodes available"
  | .hook m => "Request rejected by hook: " ++ m
  | .multiple failures => toString failures.length ++ " error(s) occurred:" ++ listed failures
  | .exhausted attempts last =>
    "Request failed after " ++ toString attempts ++ " attempt(s): " ++ last.message

def listed : List Failure → String
  | [] => ""
  | f :: rest => " [" ++ f.message ++ "]" ++ listed rest

end

def isConnection : Failure → Bool
  | .connection _ _ => true
  | _ => false

def isCancellation : Failure → Bool
  | .cancelled => true
  | .deadlineExceeded => true
  | _ => false

/-- The status of the answer that failed, also of the last one of several. -/
def status? : Failure → Option Nat
  | .server _ status _ => some status
  | .exhausted _ last => last.status?
  | _ => none

/-- Words in a server's answer that say the request itself is at fault. -/
def finalMarkers : List String := ["unable to parse", "unparsable", "user error"]

def isFinalMessage (m : String) : Bool :=
  finalMarkers.any fun marker => Text.contains (Text.lowercase m) marker

def isRetryable : Failure → Bool
  | .connection _ _ => true
  | .timeout _ => true
  | .transport _ _ => true
  | .noActiveNodes => true
  | .server _ status m => !(400 ≤ status && status < 500) && !isFinalMessage m
  | _ => false

/-- Several failures as one: the only one itself, and `fallback` for none. -/
def combine (failures : List Failure) (fallback : Failure) : Failure :=
  match failures with
  | [] => fallback
  | [f] => f
  | _ => .multiple failures

end Failure
end MetricRing
