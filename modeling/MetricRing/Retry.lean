import MetricRing.Config

/-!
# Retrying

How often a request is tried again, and how long to wait before: a base span that doubles with
each attempt, up to a limit.
-/

namespace MetricRing

structure RetryPolicy where
  retries : Nat
  connectRetries : Option Nat
  base : Span := Span.ofMillis 50
  limit : Span := Span.ofMillis 5000
  deriving DecidableEq, Repr

namespace RetryPolicy

def ofConfig (c : Config) : RetryPolicy where
  retries := c.effectiveRetries
  connectRetries := c.connectBudget

/-- Doublings stop to grow here. -/
def maxDoublings : Nat := 20

/-- The pause before attempt number `attempt`. -/
def backoff (p : RetryPolicy) (attempt : Nat) : Span :=
  min (Span.clamp (p.base * Nat.pow 2 (min (attempt - 1) maxDoublings))) p.limit

end RetryPolicy
end MetricRing
