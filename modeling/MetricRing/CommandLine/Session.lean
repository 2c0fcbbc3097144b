import MetricRing.CommandLine.Help
import MetricRing.CommandLine.Report
import MetricRing.Config.File
import MetricRing.Run.Solo

/-!
# Sessions of the tool

A command line is read, the configuration is put together from a file and from options, a client
is connected, and the command is carried out in its world.
-/

namespace MetricRing.CommandLine

/-- How a session ends: its status, and what it writes to the two outputs. -/
structure Finish where
  status : Nat
  output : String := ""
  complaint : String := ""
  deriving DecidableEq, Repr

/-- A file name, and what reading the file gives. -/
abbrev Reader := String → Except FileError (List UInt8)

def complain {α : Type} (attempt : String) : Except Failure α → Except Complaint α
  | .ok a => .ok a
  | .error f => .error ⟨attempt, some f⟩

/-- The settings in the file that the command line names, or the usual ones. -/
def fileSettings (read : Reader) : Option String → Except Complaint Config
  | none => .ok {}
  | some name => complain ("Failed to load config from " ++ name) (Config.ofFile (read name))

/-- Options win over the file. -/
def settings (read : Reader) (i : Invocation) : Except Complaint Config := do
  let c ← fileSettings read i.config
  let c := if i.servers.isEmpty then c else { c with servers := i.servers }
  let c := if i.discover then { c with discover := true } else c
  if c.servers.isEmpty then .error ⟨"No servers given; use --server or a config file", none⟩
  else match i.command with
    | .watch _ (some millis) => return { c with watchInterval := Span.ofMillis millis }
    | _ => return c

variable (e : Setting) (fuel : Nat)

/-- A world with a connected client; none if the fuel is used up. -/
def connect? : Option (Except Complaint World) :=
  let attempt := "Failed to connect to the cluster"
  match Client.create e.config with
  | .error f => some (complain attempt (.error f))
  | .ok state =>
    (run e none fuel (Client.bootstrap e.config) { state }).map fun (result, w) =>
      complain attempt (result.map fun _ => w)

def poolTables (s : State) : String :=
  nodeTable "active" (s.pool.active.map s.node) ++ nodeTable "inactive" (s.pool.inactive.map s.node)

/-- Carries out a command; none if the fuel is used up. -/
def perform? (w : World) : Command → Option (Except Complaint String)
  | .nodes =>
    some (.ok (poolTables w.state ++ "topology: " ++ orDash w.state.currentTopology ++ "\n"))
  | .locate owner metric =>
    (run e none fuel (Client.locate e.config owner metric) w).map fun (owners, _) => do
      let owners ← complain "Failed to locate metric" owners
      return Topology.metricKey owner metric ++ "\n" ++ ownerTable owners
  | .watch seconds _ =>
    (watch e (w.now + 1000 * seconds) fuel w).map fun (enabled, w) =>
      if enabled then .ok (poolTables w.state)
      else .error ⟨"Watch interval is zero; nothing to do", none⟩
  | .get path =>
    (run e none fuel (Client.request e.config (Request.get path)) w).map fun (response, _) => do
      let response ← complain "Request failed" response
      return response.text ++ "\n"

def Finish.ofResult : Except Complaint String → Finish
  | .ok output => { status := 0, output }
  | .error c => { status := 1, complaint := c.text }

/-- Runs a command line that has been read. -/
def session? (read : Reader) (transport : Transport) (pick : Nat → Nat) (i : Invocation) :
    Option Finish :=
  match settings read i with
  | .error c => some (Finish.ofResult (.error c))
  | .ok config => do
    let e : Setting := ⟨config, transport, pick⟩
    match ← connect? e fuel with
    | .error c => return Finish.ofResult (.error c)
    | .ok w => return Finish.ofResult (← perform? e fuel w i.command)

def halted : Halt → Finish
  | .help page => { status := 0, output := page.text }
  | .version => { status := 0, output := versionText }
  | .misuse => { status := 2, complaint := Page.top.usage }

/-- Runs the tool with these words. -/
def run? (read : Reader) (transport : Transport) (pick : Nat → Nat) (words : List String) :
    Option Finish :=
  match parse words with
  | .error h => some (halted h)
  | .ok i => session? fuel read transport pick i

end MetricRing.CommandLine
