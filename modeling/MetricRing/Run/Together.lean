import MetricRing.Run.Solo

/-!
# Several operations at once

Callers of one client take turns. Each goes on until it waits, in a fixed order, and time moves
on when all of them wait. The lock is handed over in the order in which it was asked for; a
caller that is cancelled while it waits leaves its place.
-/

namespace MetricRing

variable {α : Type}

inductive Stage (α : Type) where
  | ready (op : Op α)
  | asleep (wake : Time) (op : Op α)
  | queued (next : Except Interrupt Unit → Op α)
  | finished (a : α)

structure Caller (α : Type) where
  cancel : Option Time
  stage : Stage α

/-- Who holds the lock, and who waits for it. -/
structure Lock where
  holder : Option Nat := none
  queue : List Nat := []

namespace Lock

def handOver (l : Lock) : Lock := ⟨l.queue.head?, l.queue.tail⟩

/-- Gives up a place in the queue, or the lock itself if it has been handed over already. -/
def leave (l : Lock) (i : Nat) : Lock :=
  if l.holder = some i then l.handOver else { l with queue := l.queue.erase i }

end Lock

structure Shared where
  world : World
  lock : Lock := {}

variable (e : Setting)

/-- Runs caller `i` until it waits, for at most `fuel` steps. -/
def advance (i : Nat) (cancel : Option Time) : Nat → Op α → Shared → Stage α × Shared
  | 0, op, s => (.ready op, s)
  | fuel + 1, op, s =>
    let w := s.world
    match op with
    | .done a => (.finished a, s)
    | .act f next =>
      advance i cancel fuel (next w.state) { s with world := { w with state := f w.state } }
    | .choose n next =>
      advance i cancel fuel (next (e.pick w.picks % n))
        { s with world := { w with picks := w.picks + 1 } }
    | .clock next => advance i cancel fuel (next w.now) s
    | .exchange node r next =>
      let (result, time, w) := w.exchange e cancel node r
      if time = w.now then advance i cancel fuel (next result) { s with world := w }
      else (.asleep time (next result), { s with world := w })
    | .pause deadline delay next =>
      let (result, time) := settle cancel deadline w.now (w.now + delay)
      if time = w.now then advance i cancel fuel (next result) s
      else (.asleep time (next result), s)
    | .acquire next =>
      if isPast cancel w.now then advance i cancel fuel (next (.error .cancelled)) s
      else match s.lock.holder with
        | none =>
          advance i cancel fuel (next (.ok ())) { s with lock := { s.lock with holder := some i } }
        | some _ =>
          (.queued next, { s with lock := { s.lock with queue := s.lock.queue ++ [i] } })
    | .release next => advance i cancel fuel next { s with lock := s.lock.handOver }
    | .failover f next => advance i cancel fuel ((Client.failoverStep e.config f).bind next) s

/-- Lets caller `i` go on if it can. Returns whether it could. -/
def visit (fuel i : Nat) (c : Caller α) (s : Shared) : Bool × Caller α × Shared :=
  let go (op : Op α) (s : Shared) : Bool × Caller α × Shared :=
    let (stage, s) := advance e i c.cancel fuel op s
    (true, { c with stage }, s)
  match c.stage with
  | .finished _ => (false, c, s)
  | .ready op => go op s
  | .asleep wake op => if wake ≤ s.world.now then go op s else (false, c, s)
  | .queued next =>
    if isPast c.cancel s.world.now then
      go (next (.error .cancelled)) { s with lock := s.lock.leave i }
    else if s.lock.holder = some i then go (next (.ok ())) s
    else (false, c, s)

/-- Visits the callers from number `i` on, once each. -/
def visitAll (fuel : Nat) : Nat → List (Caller α) → Shared → Bool × List (Caller α) × Shared
  | _, [], s => (false, [], s)
  | i, c :: rest, s =>
    let (moved, c, s) := visit e fuel i c s
    let (others, rest, s) := visitAll fuel (i + 1) rest s
    (moved || others, c :: rest, s)

/-- Visits the callers until none of them can go on at this moment. -/
def settleCallers (fuel : Nat) : Nat → List (Caller α) → Shared → List (Caller α) × Shared
  | 0, cs, s => (cs, s)
  | rounds + 1, cs, s =>
    let (moved, cs, s) := visitAll e fuel 0 cs s
    if moved then settleCallers fuel rounds cs s else (cs, s)

/-- When a waiting caller goes on at the latest. -/
def Caller.wake (c : Caller α) : Option Time :=
  match c.stage with
  | .asleep wake _ => some wake
  | .queued _ => c.cancel
  | _ => none

def nextWake (cs : List (Caller α)) : Option Time := (cs.filterMap Caller.wake).min?

def Caller.result? (c : Caller α) : Option α :=
  match c.stage with
  | .finished a => some a
  | _ => none

/-- Runs the callers to their ends. -/
def runCallers (fuel : Nat) : Nat → List (Caller α) → Shared → Option (List α × World)
  | 0, _, _ => none
  | moments + 1, cs, s =>
    let (cs, s) := settleCallers e fuel fuel cs s
    match cs.mapM Caller.result? with
    | some results => some (results, s.world)
    | none =>
      match nextWake cs with
      | some t => runCallers fuel moments cs { s with world := { s.world with now := t } }
      | none => none

/-- Runs operations at once, each with its own moment of cancellation. -/
def runTogether (fuel : Nat) (ops : List (Option Time × Op α)) (w : World) :
    Option (List α × World) :=
  runCallers e fuel fuel (ops.map fun o => ⟨o.1, .ready o.2⟩) { world := w }

end MetricRing
