import MetricRing.Client.Health
import MetricRing.Run.World

/-!
# Running one operation

An operation that runs alone is a function of the world. The lock is free then. A failover is
unfolded step by step, with fuel for the steps; nothing else needs any.
-/

namespace MetricRing

variable {α : Type} (e : Setting) (cancel : Option Time)

/-- Runs an operation, given how failovers end. -/
def runWith (unfold : Failover → World → Option ((Outcome × Nat) × World)) :
    Op α → World → Option (α × World)
  | .done a, w => some (a, w)
  | .act f next, w => runWith unfold (next w.state) { w with state := f w.state }
  | .choose n next, w =>
    runWith unfold (next (e.pick w.picks % n)) { w with picks := w.picks + 1 }
  | .clock next, w => runWith unfold (next w.now) w
  | .exchange node r next, w =>
    let (result, time, w) := w.exchange e cancel node r
    runWith unfold (next result) { w with now := time }
  | .pause deadline delay next, w =>
    let (result, time) := settle cancel deadline w.now (w.now + delay)
    runWith unfold (next result) { w with now := time }
  | .acquire next, w =>
    runWith unfold (next (if isPast cancel w.now then .error .cancelled else .ok ())) w
  | .release next, w => runWith unfold next w
  | .failover f next, w =>
    match unfold f w with
    | some (result, w) => runWith unfold (next result) w
    | none => none

/-- Runs a failover of at most `fuel` steps. -/
def unfoldFailover : Nat → Failover → World → Option ((Outcome × Nat) × World)
  | 0, _, _ => none
  | fuel + 1, f, w =>
    runWith e cancel (unfoldFailover fuel) (Client.failoverStep e.config f) w

/-- Runs an operation with failovers of at most `fuel` steps. -/
def run (fuel : Nat) (op : Op α) (w : World) : Option (α × World) :=
  runWith e cancel (unfoldFailover e cancel fuel) op w

/-! ### The health watcher -/

def ceilMillis (s : Span) : Time := (s + 999999) / 1000000

/-- How late a round may start without shifting those after it. -/
def watchTolerance : Span := Span.ofMillis 5

/-- When the round after one that was due at `due` and started at `tick` is due. -/
def nextRound (period due : Span) (tick : Time) : Span :=
  if due + watchTolerance < Span.ofMillis tick then Span.ofMillis tick + period else due + period

/-- Runs up to `rounds` rounds before `finish`; `due` is when the next one is due. -/
def watchFrom (finish : Time) (fuel : Nat) (period : Span) : Nat → Span → World → Option World
  | 0, _, _ => none
  | rounds + 1, due, w =>
    let tick := max w.now (ceilMillis due)
    if finish ≤ tick then some { w with now := max w.now finish }
    else match run e (some finish) fuel (Client.checkNodes e.config) { w with now := tick } with
      | some (_, w) => watchFrom finish fuel period rounds (nextRound period due tick) w
      | none => none

/-- One round more than can start before `finish`, since each is due a period after another. -/
def roundsBefore (finish : Time) (period : Span) : Nat := Span.ofMillis finish / period + 2

/-- Watches the nodes until `finish`. The result says whether the watcher is enabled. -/
def watch (finish : Time) (fuel : Nat) (w : World) : Option (Bool × World) :=
  let period := e.config.watchInterval
  if period = 0 then some (false, w)
  else
    let rounds := roundsBefore finish period
    (watchFrom e finish fuel period rounds (Span.ofMillis w.now + period) w).map fun w => (true, w)

end MetricRing
