import Mathlib.Logic.Function.Basic
import MetricRing.Run.Interleaved

/-!
# Contention for the lock

Callers of one client that are under way at once, and the lock under which topologies are loaded.
A turn carries one caller over one constructor of its operation. A caller gets the lock when nobody
holds it, whoever asked first, and may be cancelled until then. It may also be dropped where it
stands, and then the lock is free if it was its own. Whatever else goes on in the client is a change
of the state of any kind at any time.
-/

namespace MetricRing

variable {α : Type}

/-- Whether an operation asks for the lock next, or gives it back. -/
def Op.isLocking : Op α → Bool
  | .acquire _ => true
  | .release _ => true
  | _ => false

/-- The callers that are there, with what is left of their operations, and who holds the lock. -/
structure Contest (α : Type) where
  state : State
  callers : Nat → Option (Op α)
  holder : Option Nat := none

inductive Turn where
  | elsewhere
  | goes (i : Nat) (l : Option Label)
  | enters (i : Nat)
  | leaves (i : Nat)
  | givesUp (i : Nat)
  | dropped (i : Nat)

namespace Turn

/-- The caller that gets on in a turn. -/
def mover? : Turn → Option Nat
  | .goes i _ => some i
  | .enters i => some i
  | .leaves i => some i
  | _ => none

/-- The caller that is cancelled in a turn, unless the world tells it so in an exchange. -/
def cancelled? : Turn → Option Nat
  | .givesUp i => some i
  | .dropped i => some i
  | _ => none

/-- The caller that has to do with a turn. -/
def caller? (t : Turn) : Option Nat := t.mover?.or t.cancelled?

/-- A caller that is not cancelled gets on in a turn of its own. -/
theorem mover?_of_caller? {t : Turn} {i : Nat} (h : t.caller? = some i)
    (hc : t.cancelled? ≠ some i) : t.mover? = some i :=
  (Option.or_eq_some_iff.1 h).elim id fun h => absurd h.2 hc

end Turn

namespace Contest

def start (s : State) (ops : List (Op α)) : Contest α := { state := s, callers := fun i => ops[i]? }

inductive Step (c : Config) : Contest α → Turn → Contest α → Prop
  | elsewhere (y : Contest α) (s : State) : Step c y .elsewhere { y with state := s }
  | goes {y : Contest α} {i : Nat} {op op₁ : Op α} {l : Option Label} {s₁ : State}
    (hi : y.callers i = some op) (hop : op.isLocking = false) (h : op.Step c y.state l s₁ op₁) :
    Step c y (.goes i l) ⟨s₁, Function.update y.callers i (some op₁), y.holder⟩
  | enters {y : Contest α} {i : Nat} {next : Except Interrupt Unit → Op α}
    (hi : y.callers i = some (.acquire next)) (hfree : y.holder = none) :
    Step c y (.enters i) ⟨y.state, Function.update y.callers i (some (next (.ok ()))), some i⟩
  | leaves {y : Contest α} {i : Nat} {next : Op α} (hi : y.callers i = some (.release next)) :
    Step c y (.leaves i) ⟨y.state, Function.update y.callers i (some next), none⟩
  | givesUp {y : Contest α} {i : Nat} {next : Except Interrupt Unit → Op α}
    (hi : y.callers i = some (.acquire next)) :
    Step c y (.givesUp i)
      ⟨y.state, Function.update y.callers i (some (next (.error .cancelled))), y.holder⟩
  | dropped {y : Contest α} {i : Nat} {op : Op α} (hi : y.callers i = some op) :
    Step c y (.dropped i)
      ⟨y.state, Function.update y.callers i none, if y.holder = some i then none else y.holder⟩

/-- Turns one after another, where `P` holds of each of them and of what it leads to. -/
inductive Runs (c : Config) (P : Turn → Contest α → Prop) :
    Contest α → List Turn → Contest α → Prop
  | refl (y : Contest α) : Runs c P y [] y
  | tail {x y z : Contest α} {ts : List Turn} {t : Turn} (h : Runs c P x ts y)
    (hstep : Step c y t z) (ht : P t z) : Runs c P x (ts ++ [t]) z

/-- Some turns lead from the one to the other. -/
def Leads (c : Config) (y z : Contest α) : Prop := ∃ ts, Runs c (fun _ _ => True) y ts z

/-- The caller has an exchange to begin or under way. -/
def Exchanges (y : Contest α) (i : Nat) : Prop :=
  ∃ node r next, y.callers i = some (.exchange node r next)

/-- The caller waits for the lock. -/
def Waits (y : Contest α) (i : Nat) : Prop := ∃ next, y.callers i = some (.acquire next)

/-- There is a turn in which the caller gets on. -/
def CanMove (c : Config) (y : Contest α) (i : Nat) : Prop :=
  ∃ t z, Step c y t z ∧ t.mover? = some i

/-- What any number of callers of `topology` can come to. -/
def Reachable (c : Config) (y : Contest (Except Failure Compiled)) : Prop :=
  ∃ s n, Leads c (start s (List.replicate n (Client.topology c))) y

end Contest
end MetricRing
