import MetricRing.Config
import MetricRing.Files
import MetricRing.Text.Utf8
import MetricRing.Toml.Document

/-!
# Configuration files

A configuration is written as a TOML document with one value for each setting. Settings that are
left out keep their defaults, and other values are passed over.
-/

namespace MetricRing

namespace Config

open Toml

/-- Reads one setting from the top table; an absent one is `fallback`. -/
def setting {α : Type} (es : Entries) (name : String) (fallback : α) (read : Value → Option α) :
    Option α :=
  match es.lookup name with
  | none => some fallback
  | some e => read e.toValue

def integer? : Value → Option Int
  | .scalar (.integer n) => some n
  | _ => none

def millis? (v : Value) : Option Span :=
  (integer? v).bind fun n => if 0 ≤ n then some (Span.ofMillis n.toNat) else none

def string? : Value → Option String
  | .string s => some s
  | _ => none

def strings? : Value → Option (List String)
  | .array items => items.mapM string?
  | _ => none

def bool? : Value → Option Bool
  | .bool b => some b
  | _ => none

def ofEntries? (es : Entries) : Option Config := do
  let usual : Config := {}
  let dialTimeout ← setting es "dial_timeout_ms" usual.dialTimeout millis?
  let timeout ← setting es "timeout_ms" usual.timeout millis?
  let watchInterval ← setting es "watch_interval_ms" usual.watchInterval millis?
  let retries ← setting es "retries" usual.retries integer?
  let connectRetries ← setting es "connect_retries" usual.connectRetries integer?
  let servers ← setting es "servers" usual.servers strings?
  let discover ← setting es "discover" usual.discover bool?
  let dumpRequests ← setting es "dump_requests" usual.dumpRequests fun v => (string? v).map some
  let traceRequests ← setting es "trace_requests" usual.traceRequests fun v => (string? v).map some
  return { dialTimeout, timeout, watchInterval, retries, connectRetries, servers, discover,
           dumpRequests, traceRequests }

def parse (text : String) : Except Failure Config :=
  match (Toml.parse? text).bind ofEntries? with
  | some c => .ok c
  | none => .error (.configuration "Failed to parse config: not a configuration")

/-- The configuration in a file that has been read, or the failure to read it. -/
def ofFile (contents : Except FileError (List UInt8)) : Except Failure Config :=
  let unreadable (e : FileError) : Except Failure Config :=
    .error (.configuration ("Failed to read config file: " ++ e.message))
  match contents with
  | .error e => unreadable e
  | .ok bytes =>
    match Text.Utf8.decode? bytes with
    | none => unreadable .notText
    | some text => parse text

end Config
end MetricRing
