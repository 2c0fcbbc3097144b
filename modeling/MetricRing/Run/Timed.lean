import MetricRing.Run.Interleaved
import MetricRing.Run.World

/-!
# Runs in time

A run of an operation that nothing else interferes with, as a relation. `op.Ends e cancel w a w₁ t`
says that the operation, begun in the world `w`, ends with the result `a` in the world `w₁`, and
that `t` is what happened in between and when. There is one rule for each kind of step; a failover
unfolds into its next exchange, for as long as there is one.
-/

namespace MetricRing

/-- Something that happens in a run. -/
inductive Mark where
  | change (time : Time) (before after : State)
  | barred (time : Time) (i : Interrupt)
  | exchange (node : NodeRef) (x : Exchange) (result : Except Interrupt Outcome) (ended : Time)
  | pause (began : Time) (result : Except Interrupt Unit) (ended : Time)

namespace Mark

/-- When it begins. -/
def time : Mark → Time
  | .change time _ _ => time
  | .barred time _ => time
  | .exchange _ x _ _ => x.time
  | .pause began _ _ => began

/-- What can be seen of it from outside. -/
def label? : Mark → Option Label
  | .exchange node x result _ => some (.contact ⟨node, x.request, result⟩)
  | .pause _ result _ => some (.pause result)
  | _ => none

/-- What cut it short. -/
def interrupt? : Mark → Option Interrupt
  | .barred _ i => some i
  | .exchange _ _ (.error i) _ => some i
  | .pause _ (.error i) _ => some i
  | _ => none

/-- The exchange that began. -/
def exchange? : Mark → Option Exchange
  | .exchange _ x _ _ => some x
  | _ => none

end Mark

/-! ### Deeds -/

/-- What calls may change for others to see: the nodes and the pool, the topology in force with
its ring, and what the watch hook was told. -/
structure Facts where
  nodes : Directory
  pool : Pool
  currentTopology : String
  compiled : Option Compiled
  verdicts : List Verdict
  deriving DecidableEq

def State.facts (s : State) : Facts where
  nodes := s.nodes
  pool := s.pool
  currentTopology := s.currentTopology
  compiled := s.compiled
  verdicts := s.verdicts

/-- Something that a call did: it began an exchange, or it changed the facts. -/
inductive Deed where
  | exchange (node : NodeRef) (x : Exchange)
  | change (time : Time) (before after : Facts)
  deriving DecidableEq

def Deed.time : Deed → Time
  | .exchange _ x => x.time
  | .change time _ _ => time

def Mark.deed? : Mark → Option Deed
  | .change time s t => if s.facts = t.facts then none else some (.change time s.facts t.facts)
  | .exchange node x _ _ => some (.exchange node x)
  | _ => none

def deeds (t : List Mark) : List Deed := t.filterMap Mark.deed?

/-! ### Runs -/

/-- What keeps an exchange from being begun now. -/
def barrier? (cancel deadline : Option Time) (now : Time) : Option Interrupt :=
  if isPast cancel now then some .cancelled
  else if isPast deadline now then some .deadline
  else none

namespace World

variable (e : Setting) (cancel : Option Time) (node : NodeRef) (r : Request) (w : World)

/-- The request as it is sent now. -/
def sending : Exchange := ⟨w.now, (w.state.node node).address, r⟩

/-- How an exchange that begins now ends, and when. -/
def settled : Except Interrupt Unit × Time :=
  settle cancel r.deadline w.now (w.now + (e.transport w.sent (w.sending node r)).delay)

def answer : Except Interrupt Outcome :=
  (w.settled e cancel node r).1.map fun _ => (e.transport w.sent (w.sending node r)).outcome

/-- The world in which an exchange that begins now has ended. -/
def after : World :=
  { w with sent := w.sending node r :: w.sent, now := (w.settled e cancel node r).2 }

end World

inductive Op.Ends (e : Setting) (cancel : Option Time) :
    {α : Type} → Op α → World → α → World → List Mark → Prop
  | done {α : Type} (a : α) (w : World) : Ends e cancel (.done a) w a w []
  | act {α : Type} {f : State → State} {next : State → Op α} {w w₁ : World} {a : α}
    {t : List Mark} (rest : Ends e cancel (next w.state) { w with state := f w.state } a w₁ t) :
    Ends e cancel (.act f next) w a w₁ (.change w.now w.state (f w.state) :: t)
  | choose {α : Type} {n : Nat} {next : Nat → Op α} {w w₁ : World} {a : α} {t : List Mark}
    (rest : Ends e cancel (next (e.pick w.picks % n)) { w with picks := w.picks + 1 } a w₁ t) :
    Ends e cancel (.choose n next) w a w₁ t
  | clock {α : Type} {next : Time → Op α} {w w₁ : World} {a : α} {t : List Mark}
    (rest : Ends e cancel (next w.now) w a w₁ t) : Ends e cancel (.clock next) w a w₁ t
  | barred {α : Type} {node : NodeRef} {r : Request} {next : Except Interrupt Outcome → Op α}
    {w w₁ : World} {a : α} {t : List Mark} {i : Interrupt}
    (barrier : barrier? cancel r.deadline w.now = some i)
    (rest : Ends e cancel (next (.error i)) w a w₁ t) :
    Ends e cancel (.exchange node r next) w a w₁ (.barred w.now i :: t)
  | exchange {α : Type} {node : NodeRef} {r : Request} {next : Except Interrupt Outcome → Op α}
    {w w₁ : World} {a : α} {t : List Mark} (free : barrier? cancel r.deadline w.now = none)
    (rest : Ends e cancel (next (w.answer e cancel node r)) (w.after e cancel node r) a w₁ t) :
    Ends e cancel (.exchange node r next) w a w₁
      (.exchange node (w.sending node r) (w.answer e cancel node r)
        (w.after e cancel node r).now :: t)
  | pause {α : Type} {deadline : Option Time} {delay : Time} {next : Except Interrupt Unit → Op α}
    {w w₁ : World} {a : α} {t : List Mark} {result : Except Interrupt Unit} {ended : Time}
    (settled : settle cancel deadline w.now (w.now + delay) = (result, ended))
    (rest : Ends e cancel (next result) { w with now := ended } a w₁ t) :
    Ends e cancel (.pause deadline delay next) w a w₁ (.pause w.now result ended :: t)
  | acquire {α : Type} {next : Except Interrupt Unit → Op α} {w w₁ : World} {a : α}
    {t : List Mark}
    (rest : Ends e cancel (next (if isPast cancel w.now then .error .cancelled else .ok ()))
      w a w₁ t) : Ends e cancel (.acquire next) w a w₁ t
  | release {α : Type} {next : Op α} {w w₁ : World} {a : α} {t : List Mark}
    (rest : Ends e cancel next w a w₁ t) : Ends e cancel (.release next) w a w₁ t
  | failover {α : Type} {f : Failover} {next : Outcome × Nat → Op α} {w w₁ w₂ : World}
    {result : Outcome × Nat} {a : α} {t t' : List Mark}
    (first : Ends e cancel (Client.failoverStep e.config f) w result w₁ t)
    (rest : Ends e cancel (next result) w₁ a w₂ t') :
    Ends e cancel (.failover f next) w a w₂ (t ++ t')

end MetricRing
