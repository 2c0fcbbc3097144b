import MetricRing.Op

/-!
# The world around a client

A transport decides how each request is answered, and when, from the requests that were sent
before. An exchange or a pause in progress ends at the first of three moments: its cancellation,
its deadline and its end; at one moment a cancellation comes before a deadline, and both before
the end.
-/

namespace MetricRing

/-- A request as it was sent: when, where to, and what. -/
structure Exchange where
  time : Time
  node : String
  request : Request
  deriving DecidableEq, Repr

structure Reply where
  delay : Time := 0
  outcome : Outcome

/-- The requests sent before come last first. -/
abbrev Transport := List Exchange → Exchange → Reply

/-- What a run depends on beside the state: random choice number `i` falls on `pick i`. -/
structure Setting where
  config : Config
  transport : Transport
  pick : Nat → Nat

structure World where
  state : State := {}
  now : Time := 0
  sent : List Exchange := []
  picks : Nat := 0
  deriving Inhabited

/-- Whether a moment has come. -/
def isPast (moment : Option Time) (now : Time) : Bool :=
  match moment with
  | some t => t ≤ now
  | none => false

/-- The first moment from `now` on at which something that would last until `finish` ends. -/
def settle (cancel deadline : Option Time) (now finish : Time) : Except Interrupt Unit × Time :=
  let stop (moment : Option Time) (finish : Time) : Option Time :=
    match moment with
    | some t => if max now t ≤ finish then some (max now t) else none
    | none => none
  let (result, finish) := match stop deadline finish with
    | some t => (.error .deadline, t)
    | none => (.ok (), finish)
  match stop cancel finish with
  | some t => (.error .cancelled, t)
  | none => (result, finish)

/-- Begins an exchange, unless it is cut short at once. Returns its result, when that is known,
and the world with the request sent. -/
def World.exchange (e : Setting) (cancel : Option Time) (node : NodeRef) (r : Request)
    (w : World) : Except Interrupt Outcome × Time × World :=
  if isPast cancel w.now then (.error .cancelled, w.now, w)
  else if isPast r.deadline w.now then (.error .deadline, w.now, w)
  else
    let x : Exchange := ⟨w.now, (w.state.node node).address, r⟩
    let reply := e.transport w.sent x
    let (result, time) := settle cancel r.deadline w.now (w.now + reply.delay)
    (result.map fun _ => reply.outcome, time, { w with sent := x :: w.sent })

end MetricRing
