import MetricRing.Run.World

/-!
# Scripted transports

A script is a list of rules. The first rule that fits a request and is not used up answers it;
a request that no rule fits finds nobody to connect to.
-/

namespace MetricRing

/-- How a rule answers: with a response, whose node is the one asked unless `node` says
otherwise, or with a failure of the exchange. -/
inductive Answer where
  | response (status : Nat) (headers : Headers) (body : List UInt8) (node : Option String)
  | refused (message : String)
  | timedOut
  | broken (message : String)
  | malformed (message : String)
  | cancelled
  deriving DecidableEq, Repr

structure Rule where
  node : Option String := none
  path : Option String := none
  pathStart : Option String := none
  method : Option String := none
  times : Option Nat := none
  delay : Time := 0
  answer : Answer
  deriving DecidableEq, Repr

abbrev Script := List Rule

def Answer.outcome (a : Answer) (address : String) : Outcome :=
  match a with
  | .response status headers body node =>
    .ok { status, headers, body, node := node.getD address }
  | .refused message => .error (.connection address message)
  | .timedOut => .error (.timeout address)
  | .broken message => .error (.transport address message)
  | .malformed message => .error (.protocol message)
  | .cancelled => .error .cancelled

namespace Rule

def isAbsentOr {α : Type} (condition : Option α) (holds : α → Bool) : Bool :=
  match condition with
  | some a => holds a
  | none => true

def fits (r : Rule) (x : Exchange) : Bool :=
  r.times != some 0 && isAbsentOr r.node (· == x.node) &&
    isAbsentOr r.path (· == x.request.path) &&
    isAbsentOr r.pathStart (fun start => Text.startsWith x.request.path start) &&
    isAbsentOr r.method (· == x.request.method)

def spend (r : Rule) : Rule := { r with times := r.times.map (· - 1) }

end Rule

namespace Script

/-- Answers a request, and uses up the rule that does. -/
def serve : Script → Exchange → Reply × Script
  | [], x => (⟨0, .error (.connection x.node "no rule")⟩, [])
  | r :: rest, x =>
    if r.fits x then (⟨r.delay, r.answer.outcome x.node⟩, r.spend :: rest)
    else
      let (reply, rest) := serve rest x
      (reply, r :: rest)

/-- What is left of a script after the requests, which come last first. -/
def after (s : Script) (sent : List Exchange) : Script := sent.foldr (fun x s => (s.serve x).2) s

def transport (s : Script) : Transport := fun sent x => ((s.after sent).serve x).1

end Script
end MetricRing
