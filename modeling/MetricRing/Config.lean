import MetricRing.Address.Normalize
import MetricRing.Span

/-!
# Configuration

What a client is told before it starts: its seed servers, its time limits, and how often it may
try again. `validate` names the first setting that is out of range.
-/

namespace MetricRing

structure Config where
  dialTimeout : Span := Span.ofMillis 500
  timeout : Span := Span.ofMillis 10000
  watchInterval : Span := Span.ofMillis 30000
  retries : Int := 0
  connectRetries : Int := -1
  servers : List String := []
  discover : Bool := false
  dumpRequests : Option String := none
  traceRequests : Option String := none
  deriving DecidableEq, Repr, Inhabited

namespace Config

def maxTimeout : Span := 600 * Span.second

/-- How often a request is tried again; a negative setting means never. -/
def effectiveRetries (c : Config) : Nat := c.retries.toNat

/-- How many further nodes one attempt may turn to; a negative setting means all. -/
def connectBudget (c : Config) : Option Nat :=
  if c.connectRetries < 0 then none else some c.connectRetries.toNat

def normalizeAll : List String → Except Failure (List String)
  | [] => .ok []
  | s :: rest =>
    match Address.normalize s with
    | .error e => .error e
    | .ok address =>
      match normalizeAll rest with
      | .error e => .error e
      | .ok addresses => .ok (address :: addresses)

def serverAddresses (c : Config) : Except Failure (List String) := normalizeAll c.servers

def checkTimeout (name : String) (t : Span) : Except Failure Unit :=
  if t = 0 ∨ maxTimeout < t then
    .error (.configuration (name ++ " must be within (0, 600s], got " ++ t.text))
  else .ok ()

def checkRetries (c : Config) : Except Failure Unit :=
  if c.connectRetries < -1 then
    .error (.configuration
      ("connect_retries must be -1 or greater, got " ++ toString c.connectRetries))
  else .ok ()

def checkServers (c : Config) : Except Failure Unit :=
  if c.servers.isEmpty then .error (.configuration "at least one server address is required")
  else match c.serverAddresses with
    | .error e => .error e
    | .ok _ => .ok ()

def validate (c : Config) : Except Failure Unit := do
  checkTimeout "dial_timeout" c.dialTimeout
  checkTimeout "timeout" c.timeout
  checkRetries c
  checkServers c

end Config
end MetricRing
