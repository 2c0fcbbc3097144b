/-!
# Command lines

How the words of a command line are read. An option may stand before the command and behind it;
where both give it, the one behind the command counts, and only seeds may be given twice in one
place. A value is checked when the next option or argument begins, so that a call for help that
comes first is answered first.
-/

namespace MetricRing.CommandLine

inductive Command where
  | nodes
  | locate (owner metric : String)
  | watch (seconds : Nat) (intervalMillis : Option Nat)
  | get (path : String)
  deriving DecidableEq, Repr

structure Invocation where
  config : Option String := none
  servers : List String := []
  discover : Bool := false
  command : Command
  deriving DecidableEq, Repr

/-- Where a word stands: before the command, or behind one. -/
inductive Page where
  | top
  | nodes
  | locate
  | watch
  | get
  | help
  deriving DecidableEq, Repr

inductive Key where
  | config
  | server
  | discover
  | seconds
  | interval
  | help
  | version
  deriving DecidableEq, Repr

/-- Why no command is carried out. -/
inductive Halt where
  | help (page : Page)
  | version
  | misuse
  deriving DecidableEq, Repr

namespace Key

def long : Key → String
  | .config => "config"
  | .server => "server"
  | .discover => "discover"
  | .seconds => "seconds"
  | .interval => "interval-ms"
  | .help => "help"
  | .version => "version"

def short? : Key → Option Char
  | .config => some 'c'
  | .server => some 's'
  | .interval => some 'i'
  | .help => some 'h'
  | .version => some 'V'
  | .discover => none
  | .seconds => none

/-- What the value of an option stands for; flags have none. -/
def value? : Key → Option String
  | .config => some "CONFIG"
  | .server => some "SERVERS"
  | .seconds => some "SECONDS"
  | .interval => some "INTERVAL_MS"
  | _ => none

def takesValue (k : Key) : Bool := k.value?.isSome

end Key

/-- A number that fits 64 bits. -/
def natural? (s : String) : Option Nat :=
  let digits : List Char := match s.toList with
    | '+' :: rest => rest
    | cs => cs
  let n := digits.foldl (fun n c => 10 * n + (c.toNat - '0'.toNat)) 0
  if !digits.isEmpty ∧ digits.all Char.isDigit ∧ n < Nat.pow 2 64 then some n else none

namespace Page

def commands : List (String × Page) :=
  [("nodes", .nodes), ("locate", .locate), ("watch", .watch), ("get", .get), ("help", .help)]

/-- Only the first page has commands. -/
def command? (p : Page) (word : String) : Option Page :=
  if p = .top then commands.lookup word else none

def keys : Page → List Key
  | .top => [.config, .server, .discover, .help, .version]
  | .watch => [.config, .seconds, .interval, .server, .discover, .help]
  | .help => []
  | _ => [.config, .server, .discover, .help]

def longKey? (p : Page) (name : List Char) : Option Key :=
  p.keys.find? fun k => k.long.toList = name

def shortKey? (p : Page) (c : Char) : Option Key := p.keys.find? fun k => k.short? = some c

/-- How many arguments a command has. -/
def arity : Page → Nat
  | .locate => 2
  | .get => 1
  | _ => 0

end Page

/-- What has been read of a page. The value of the last option is pending until it is checked;
before that, an option may be waiting for its value. -/
structure Reading where
  values : List (Key × String) := []
  arguments : List String := []
  pending : Option (Key × String) := none
  awaiting : Option Key := none
  deriving DecidableEq, Repr

namespace Reading

/-- Whether a value is good for an option, which was given the values before. -/
def allows (r : Reading) (k : Key) (v : String) : Bool :=
  match k with
  | .server => true
  | .config => v ≠ "" && !r.values.any (·.1 = k)
  | .seconds => (natural? v).isSome && !r.values.any (·.1 = k)
  | .interval => (natural? v).isSome && !r.values.any (·.1 = k)
  | _ => !r.values.any (·.1 = k)

def add (r : Reading) (k : Key) (v : String) : Except Halt Reading :=
  if r.allows k v then .ok { r with values := r.values ++ [(k, v)] } else .error .misuse

/-- Checks the pending value. -/
def settle (r : Reading) : Except Halt Reading :=
  match r.pending with
  | none => .ok r
  | some (k, v) => { r with pending := none }.add k v

/-- An option whose value comes with it. -/
def attach (r : Reading) (k : Key) (v : String) : Except Halt Reading := do
  (← r.settle).add k v

/-- An option whose value is the next word. -/
def await (r : Reading) (k : Key) : Except Halt Reading := do
  let r ← r.settle
  return { r with awaiting := some k }

def flag (r : Reading) (p : Page) (k : Key) : Except Halt Reading := do
  let r ← r.settle
  match k with
  | .help => .error (.help p)
  | .version => .error .version
  | k => r.add k ""

def long (r : Reading) (p : Page) (body : List Char) : Except Halt Reading :=
  match p.longKey? (body.takeWhile (· ≠ '=')), body.dropWhile (· ≠ '=') with
  | none, _ => .error .misuse
  | some k, '=' :: v =>
    if k.takesValue then r.attach k (String.ofList v) else .error .misuse
  | some k, _ => if k.takesValue then r.await k else r.flag p k

/-- Flags in one word, of which the last may be an option with its value. -/
def short (p : Page) : List Char → Reading → Except Halt Reading
  | [], r => .ok r
  | c :: rest, r =>
    match p.shortKey? c with
    | none => .error .misuse
    | some k =>
      if !k.takesValue then do short p rest (← r.flag p k)
      else match rest with
        | [] => r.await k
        | '=' :: v => r.attach k (String.ofList v)
        | v => r.attach k (String.ofList v)

def argument (r : Reading) (p : Page) (word : String) : Except Halt Reading := do
  if r.arguments.length < p.arity then
    let r ← r.settle
    return { r with arguments := r.arguments ++ [word] }
  else .error .misuse

def isOption (word : String) : Bool :=
  match word.toList with
  | '-' :: _ :: _ => true
  | _ => false

/-- One word that is neither a value nor a command. -/
def word (r : Reading) (p : Page) (w : String) : Except Halt Reading :=
  match w.toList with
  | '-' :: '-' :: body => r.long p body
  | '-' :: c :: rest => short p (c :: rest) r
  | _ => r.argument p w

/-- The words behind two dashes, which are all arguments. -/
def arguments? (p : Page) : List String → Reading → Except Halt Reading
  | [], r => .ok r
  | w :: rest, r => do arguments? p rest (← r.argument p w)

/-- Reads a page up to its end or to a command, and then returns the words behind that. -/
def ofWords (p : Page) : List String → Reading → Except Halt (Reading × Option (Page × List String))
  | [], r => if r.awaiting.isSome then .error .misuse else .ok (r, none)
  | w :: rest, r =>
    match r.awaiting with
    | some k =>
      if isOption w then .error .misuse
      else ofWords p rest { r with awaiting := none, pending := some (k, w) }
    | none =>
      match p.command? w with
      | some inner => .ok (r, some (inner, rest))
      | none =>
        if w = "--" then do return (← arguments? p rest r, none)
        else do ofWords p rest (← r.word p w)

def servers (r : Reading) : List String :=
  (r.values.filter fun v => v.1 = .server).map Prod.snd

def number? (r : Reading) (k : Key) : Option Nat := (r.values.lookup k).bind natural?

end Reading

def defaultSeconds : Nat := 60

def commandOf (p : Page) (r : Reading) : Except Halt Command :=
  match p, r.arguments with
  | .nodes, _ => .ok .nodes
  | .locate, [owner, metric] => .ok (.locate owner metric)
  | .watch, _ =>
    .ok (.watch ((r.number? .seconds).getD defaultSeconds) (r.number? .interval))
  | .get, [path] => .ok (.get path)
  | _, _ => .error .misuse

/-- What a call for help with these words shows. -/
def helpOn : List String → Halt
  | [] => .help .top
  | [w] =>
    match Page.top.command? w with
    | some p => .help p
    | none => .misuse
  | _ => .misuse

def parse (words : List String) : Except Halt Invocation := do
  match ← Reading.ofWords .top words {} with
  | (_, none) => .error .misuse
  | (_, some (.help, rest)) => .error (helpOn rest)
  | (outer, some (p, rest)) =>
    let (inner, _) ← Reading.ofWords p rest {}
    let inner ← inner.settle
    let command ← commandOf p inner
    let outer ← outer.settle
    return {
      config := (inner.values.lookup .config).or (outer.values.lookup .config)
      servers := if inner.servers.isEmpty then outer.servers else inner.servers
      discover := (outer.values ++ inner.values).any (·.1 = .discover)
      command }

end MetricRing.CommandLine
