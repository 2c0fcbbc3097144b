import Mathlib.Logic.Relation
import MetricRing.Client.Health

/-!
# Interleaved calls

Calls of one client that are under way at once share its state. A step carries one of them over
one constructor of its operation, so that a section of the state is one step. The world answers
exchanges, pauses, waits for the lock and choices as it likes, and it decides whose turn it is:
no claim about these systems depends on a transport, on a clock or on a schedule.
-/

namespace MetricRing

open MetricRing.Topology (Document Member Ring)

/-! ### Steps of one operation -/

/-- An exchange that began, and how it ended. -/
structure Contact where
  node : NodeRef
  request : Request
  result : Except Interrupt Outcome

/-- What can be seen of a step from outside: an exchange, or a pause with its end. -/
inductive Label where
  | contact (x : Contact)
  | pause (result : Except Interrupt Unit)

def Label.contact? : Label → Option Contact
  | .contact x => some x
  | .pause _ => none

/-- The exchanges among what was seen. -/
def contacts (t : List Label) : List Contact := t.filterMap Label.contact?

theorem contacts_append (t t' : List Label) : contacts (t ++ t') = contacts t ++ contacts t' :=
  List.filterMap_append

/-- Steps over one constructor. An exchange that is cut short before it begins is `barred`, and a
failover unfolds into its next exchange. -/
inductive Op.Step (c : Config) {α : Type} : State → Op α → Option Label → State → Op α → Prop
  | act (s : State) (f : State → State) (next : State → Op α) :
    Step c s (.act f next) none (f s) (next s)
  | choose (s : State) (n i : Nat) (next : Nat → Op α) :
    Step c s (.choose n next) none s (next (i % n))
  | clock (s : State) (now : Time) (next : Time → Op α) : Step c s (.clock next) none s (next now)
  | exchange (s : State) (x : Contact) (next : Except Interrupt Outcome → Op α) :
    Step c s (.exchange x.node x.request next) (some (.contact x)) s (next x.result)
  | barred (s : State) (node : NodeRef) (r : Request) (i : Interrupt)
    (next : Except Interrupt Outcome → Op α) :
    Step c s (.exchange node r next) none s (next (.error i))
  | pause (s : State) (deadline : Option Time) (delay : Time) (result : Except Interrupt Unit)
    (next : Except Interrupt Unit → Op α) :
    Step c s (.pause deadline delay next) (some (.pause result)) s (next result)
  | acquire (s : State) (result : Except Interrupt Unit) (next : Except Interrupt Unit → Op α) :
    Step c s (.acquire next) none s (next result)
  | release (s : State) (next : Op α) : Step c s (.release next) none s next
  | failover (s : State) (f : Failover) (next : Outcome × Nat → Op α) :
    Step c s (.failover f next) none s ((Client.failoverStep c f).bind next)

/-- Steps one after another, with nothing else going on in between. -/
inductive Op.Steps (c : Config) {α : Type} : State → Op α → List Label → State → Op α → Prop
  | refl (s : State) (op : Op α) : Steps c s op [] s op
  | step {s s₁ s₂ : State} {op op₁ op₂ : Op α} {l : Option Label} {t : List Label}
    (first : op.Step c s l s₁ op₁) (rest : Steps c s₁ op₁ t s₂ op₂) :
    Steps c s op (l.toList ++ t) s₂ op₂

/-- What is seen of an operation in `n` steps, while others change the state at will. -/
inductive Op.Trace (c : Config) {α : Type} : Nat → Op α → List Label → Op α → Prop
  | refl (op : Op α) : Trace c 0 op [] op
  | step {n : Nat} {op op₁ op₂ : Op α} {l : Option Label} {t : List Label} {s s₁ : State}
    (first : op.Step c s l s₁ op₁) (rest : op₁.Trace c n t op₂) :
    Trace c (n + 1) op (l.toList ++ t) op₂

/-! ### Calls -/

/-- What can be asked of a client by its callers, its watcher and the parts of itself. -/
inductive Call where
  | bootstrap
  | discover
  | checkNodes
  | topology
  | locate (owner metric : String)
  | preferredNode (owner metric : String)
  | request (r : Request)
  | nodeRequest (node : NodeRef) (r : Request)
  | metricRequest (owner metric : String) (r : Request)
  | isHealthy (node : NodeRef)
  | fetchState (node : NodeRef)
  | fetchGossip (node : NodeRef)
  | fetchDocument (node : NodeRef) (hash : String)
  | setTopology (hash : String)
  | install (ring : { r : Ring // r.IsCompiled })
  | invalidate
  | observe (node : NodeRef) (headers : Headers)
  | makeNode (n : Node)
  | setHook (hook : Option RequestHook)
  | setWatching (watching : Bool)

namespace Call

abbrev Result : Call → Type
  | .bootstrap => Except Failure Unit
  | .discover => Except Failure Nat
  | .checkNodes => Unit
  | .topology => Except Failure Compiled
  | .locate _ _ => Except Failure (List Member)
  | .preferredNode _ _ => Except Failure (Option NodeRef)
  | .request _ => Outcome
  | .nodeRequest _ _ => Outcome
  | .metricRequest _ _ _ => Outcome
  | .isHealthy _ => Except Failure Bool
  | .fetchState _ => Except Failure NodeState
  | .fetchGossip _ => Except Failure (List GossipEntry)
  | .fetchDocument _ _ => Except Failure Document
  | .setTopology _ => Bool
  | .install _ => Compiled
  | .invalidate => Unit
  | .observe _ _ => Unit
  | .makeNode _ => NodeRef
  | .setHook _ => Unit
  | .setWatching _ => Unit

def op (c : Config) : (k : Call) → Op k.Result
  | .bootstrap => Client.bootstrap c
  | .discover => Client.discover c
  | .checkNodes => Client.checkNodes c
  | .topology => Client.topology c
  | .locate owner metric => Client.locate c owner metric
  | .preferredNode owner metric => Client.preferredNode c owner metric
  | .request r => Client.request c r
  | .nodeRequest node r => Client.nodeRequest c node r
  | .metricRequest owner metric r => Client.metricRequest c owner metric r
  | .isHealthy node => Client.isHealthy c node
  | .fetchState node => Client.fetchState c node
  | .fetchGossip node => Client.fetchGossip c node
  | .fetchDocument node hash => Client.fetchDocument c node hash
  | .setTopology hash => Op.update fun s => (s.setTopology hash, s.changes hash)
  | .install ring => Op.update fun s => s.install ring.1
  | .invalidate => Op.modify State.invalidate
  | .observe node headers => Client.observe node headers
  | .makeNode n => Op.update fun s => s.makeNode n
  | .setHook hook => Op.modify fun s => { s with hook := hook }
  | .setWatching watching => Op.modify fun s => { s with watching := watching }

end Call

/-! ### Systems -/

/-- A call, and what is left of its operation. -/
structure Task where
  call : Call
  op : Op call.Result

/-- A client and the calls made of it so far, those that have ended included. -/
structure System where
  state : State := {}
  tasks : List Task := []

namespace System

inductive Step (c : Config) : System → System → Prop
  | start (y : System) (k : Call) : Step c y ⟨y.state, y.tasks ++ [⟨k, k.op c⟩]⟩
  | move {s s₁ : State} {k : Call} {op op₁ : Op k.Result} {l : Option Label}
    (before after : List Task) (h : op.Step c s l s₁ op₁) :
    Step c ⟨s, before ++ ⟨k, op⟩ :: after⟩ ⟨s₁, before ++ ⟨k, op₁⟩ :: after⟩

abbrev Steps (c : Config) : System → System → Prop := Relation.ReflTransGen (Step c)

/-- What a client that knows no node yet can come to. -/
def Reachable (c : Config) (y : System) : Prop := Steps c {} y

end System
end MetricRing
