import MetricRing.Decimal.Fixed
import MetricRing.Op
import MetricRing.Retry

/-!
# Exchanges with one node

A request is prepared once: it tells the node how much time is left, and the request hook sees
it. It is then sent to one node. An answer that is no success is a failure, and every answer may
announce a topology.
-/

namespace MetricRing.Client

def timeoutHeader : String := "x-snowth-timeout"

/-- Nine tenths of a span, in seconds with three decimals. -/
def timeoutHint (budget : Span) : String :=
  let seconds (s : Span) : Float :=
    Decimal.toFloat false (s / Span.second) 0 + Decimal.toFloat false (s % Span.second) 0 / 1e9
  let hint : Span := Decimal.scaled (0.9 * seconds budget) 9
  Decimal.fixed (seconds hint) 3

/-- How long a request may take from now on. -/
def timeLeft (c : Config) (r : Request) (now : Time) : Span :=
  match r.deadline with
  | some d => min (Span.ofMillis (d - now)) c.timeout
  | none => c.timeout

def withHint (c : Config) (r : Request) (now : Time) : Request :=
  if r.headers.contains timeoutHeader then r
  else { r with
    headers := r.headers.insert timeoutHeader (Text.Utf8.encode (timeoutHint (timeLeft c r now))) }

def prepare (c : Config) (r : Request) : Op (Except Failure Request) := do
  let r := withHint c r (← Op.now)
  match ← Op.read State.hook with
  | none => return .ok r
  | some hook =>
    match hook r with
    | .ok r => return .ok r
    | .error m => return .error (.hook m)

/-- Whether a setting selects the paths that start like this one. -/
def selects (setting : Option String) (path : String) : Bool :=
  match setting with
  | some start => Text.startsWith path start
  | none => false

/-- What an answer means for the call: its response, or the failure it reports. -/
def judge (response : Response) : Outcome :=
  if response.isSuccess then .ok response
  else .error (.server response.node response.status (Text.trim response.text))

/-- Records an event of a request if the setting selects the request's path. -/
def note (setting : Option String) (path : String) (event : State → Event) : Op Unit :=
  if selects setting path then Op.modify fun s => s.record (event s) else return ()

def noteRequest (c : Config) (node : NodeRef) (r : Request) : Op Unit :=
  note c.dumpRequests r.path fun s => .requestDump r.method ((s.node node).url r.path) r.bodyText

def noteAnswer (c : Config) (node : NodeRef) (r : Request) (elapsed : Time) (ok : Bool) :
    Op Unit :=
  note c.traceRequests r.path fun s =>
    .requestTrace r.method (s.node node).address r.path elapsed ok

def noteResponse (c : Config) (r : Request) (response : Response) : Op Unit :=
  note c.dumpRequests r.path fun _ => .responseDump response.status response.text

/-- Takes over the topology that a response of a node announces: for the node first, then for
the client. -/
def observe (node : NodeRef) (headers : Headers) : Op Unit :=
  match State.announced? headers with
  | none => return ()
  | some hash => do
    let own ← Op.read fun s => (s.node node).currentTopology
    if !Text.sameIgnoringCase own hash then
      Op.modify fun s => s.updateNode node (·.setCurrentTopology (Text.lowercase hash))
    Op.modify fun s => s.setTopology hash

/-- Sends a prepared request to a node, once. -/
def sendOnce (c : Config) (node : NodeRef) (r : Request) : Op Outcome := do
  noteRequest c node r
  let started ← Op.now
  match ← Op.send node r with
  | .error i => return .error i.failure
  | .ok answer =>
    let ended ← Op.now
    noteAnswer c node r (ended - started) answer.isOk
    match answer with
    | .error f => return .error f
    | .ok response =>
      observe node response.headers
      noteResponse c r response
      return judge response

/-- Prepares a request and sends it to this node only. -/
def nodeRequest (c : Config) (node : NodeRef) (r : Request) : Op Outcome := do
  match ← prepare c r with
  | .error f => return .error f
  | .ok r => sendOnce c node r

end MetricRing.Client
