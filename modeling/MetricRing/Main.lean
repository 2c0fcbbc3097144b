import MetricRing.CommandLine.Session

/-!
# The tool

Reads the file that the command line names and runs the session. No network is at hand here: every
connection is refused.
-/

namespace MetricRing.CommandLine

/-- The system's number of an error, which may come negated. -/
def errorNumber (code : UInt32) : Nat := min code.toNat (0 - code).toNat

def fileErrorOf : IO.Error → FileError
  | .noFileOrDirectory _ _ _ => .missing
  | .inappropriateType _ code _ => if errorNumber code = 20 then .notDirectory else .isDirectory
  | .invalidArgument _ code _ => if errorNumber code = 36 then .longName else .nulCharacter
  | _ => .denied

def readFile (name : String) : IO (Except FileError (List UInt8)) := do
  try
    let bytes ← IO.FS.readBinFile name
    return .ok bytes.toList
  catch error => return .error (fileErrorOf error)

/-- A transport without a network. -/
def offline : Transport := fun _ x => { outcome := .error (.connection x.node "no network") }

/-- More than any session without answers needs. -/
def offlineFuel : Nat := 100000

def runOffline (words : List String) : IO Finish := do
  match parse words with
  | .error h => return halted h
  | .ok i =>
    let contents ← match i.config with
      | some name => readFile name
      | none => pure (.error .missing)
    return (session? offlineFuel (fun _ => contents) offline (fun _ => 0) i).getD { status := 1 }

end MetricRing.CommandLine

def main (words : List String) : IO UInt32 := do
  let finish ← MetricRing.CommandLine.runOffline words
  IO.print finish.output
  IO.eprint finish.complaint
  return UInt32.ofNat finish.status
