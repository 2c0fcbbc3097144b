import MetricRing.Client.State

/-!
# Operations

An operation is a tree of what a client asks of the world, one thing at a time: to change the
state in one go, to pick one of several nodes, to know the time, to send a request, to wait, or
to hold the lock under which topologies are loaded. Between two exchanges, pauses or waits for
the lock nothing else runs. A failover goes on as long as there are nodes to turn to; it is a
constructor of its own, which a run unfolds.
-/

namespace MetricRing

/-- Why an exchange, a pause or a wait ended before its time. -/
inductive Interrupt where
  | cancelled
  | deadline
  deriving DecidableEq, Repr

def Interrupt.failure : Interrupt → Failure
  | .cancelled => .cancelled
  | .deadline => .deadlineExceeded

abbrev Outcome := Except Failure Response

/-- A request on its way from node to node: the next node, the addresses tried so far, how many
more nodes may be tried, and how many have been contacted by the whole call. -/
structure Failover where
  request : Request
  node : NodeRef
  tried : List String := []
  budget : Option Nat
  contacted : Nat
  deriving DecidableEq, Repr

inductive Op (α : Type) : Type where
  | done (a : α)
  | act (f : State → State) (next : State → Op α)
  | choose (candidates : Nat) (next : Nat → Op α)
  | clock (next : Time → Op α)
  | exchange (node : NodeRef) (request : Request) (next : Except Interrupt Outcome → Op α)
  | pause (deadline : Option Time) (delay : Time) (next : Except Interrupt Unit → Op α)
  | acquire (next : Except Interrupt Unit → Op α)
  | release (next : Op α)
  | failover (f : Failover) (next : Outcome × Nat → Op α)

namespace Op

def bind {α β : Type} : Op α → (α → Op β) → Op β
  | .done a, f => f a
  | .act g next, f => .act g fun s => (next s).bind f
  | .choose n next, f => .choose n fun i => (next i).bind f
  | .clock next, f => .clock fun t => (next t).bind f
  | .exchange node request next, f => .exchange node request fun r => (next r).bind f
  | .pause deadline delay next, f => .pause deadline delay fun r => (next r).bind f
  | .acquire next, f => .acquire fun r => (next r).bind f
  | .release next, f => .release (next.bind f)
  | .failover c next, f => .failover c fun r => (next r).bind f

theorem bind_assoc {α β γ : Type} (op : Op α) (f : α → Op β) (g : β → Op γ) :
    (op.bind f).bind g = op.bind fun a => (f a).bind g := by
  induction op with
  | done a => rfl
  | act h next ih => exact congrArg (Op.act h) (funext ih)
  | choose n next ih => exact congrArg (Op.choose n) (funext ih)
  | clock next ih => exact congrArg Op.clock (funext ih)
  | exchange node r next ih => exact congrArg (Op.exchange node r) (funext ih)
  | pause deadline delay next ih => exact congrArg (Op.pause deadline delay) (funext ih)
  | acquire next ih => exact congrArg Op.acquire (funext ih)
  | release next ih => exact congrArg Op.release ih
  | failover f next ih => exact congrArg (Op.failover f) (funext ih)

theorem bind_done {α : Type} (op : Op α) : op.bind .done = op := by
  induction op with
  | done a => rfl
  | act h next ih => exact congrArg (Op.act h) (funext ih)
  | choose n next ih => exact congrArg (Op.choose n) (funext ih)
  | clock next ih => exact congrArg Op.clock (funext ih)
  | exchange node r next ih => exact congrArg (Op.exchange node r) (funext ih)
  | pause deadline delay next ih => exact congrArg (Op.pause deadline delay) (funext ih)
  | acquire next ih => exact congrArg Op.acquire (funext ih)
  | release next ih => exact congrArg Op.release ih
  | failover f next ih => exact congrArg (Op.failover f) (funext ih)

instance : Monad Op where
  pure := Op.done
  bind := Op.bind

variable {α : Type}

/-- Looks at the state, which is handed on as it was before `f`. -/
def read (g : State → α) : Op α := .act id fun s => .done (g s)

def modify (f : State → State) : Op Unit := .act f fun _ => .done ()

/-- Changes the state and hands on what the change tells. -/
def update (f : State → State × α) : Op α := .act (fun s => (f s).1) fun s => .done (f s).2

def now : Op Time := .clock .done

def send (node : NodeRef) (request : Request) : Op (Except Interrupt Outcome) :=
  .exchange node request .done

def wait (deadline : Option Time) (delay : Time) : Op (Except Interrupt Unit) :=
  .pause deadline delay .done

def lock : Op (Except Interrupt Unit) := .acquire .done

def unlock : Op Unit := .release (.done ())

/-- One of the candidates, or none if there are none. -/
def oneOf (candidates : List NodeRef) : Op (Option NodeRef) :=
  if candidates.isEmpty then .done none
  else .choose candidates.length fun i => .done candidates[i]?

end Op
end MetricRing
