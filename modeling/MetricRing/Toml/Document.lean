import MetricRing.Toml.Table

/-!
# TOML documents

A document is a sequence of lines: values under keys, headers of tables, and comments. Arrays and
inline tables may stand inside one another up to a fixed depth, and keys have fewer parts than
that.
-/

namespace MetricRing.Toml

/-- Containers and dotted keys stay below this depth. -/
def depthLimit : Nat := 80

def isBareKey (c : Char) : Bool := c.isAlphanum || c == '_' || c == '-'

def keyPart? (s : Input) : Option (String × Input) :=
  match s with
  | [] => none
  | c :: rest =>
    if c = '"' ∨ c = '\'' then quoted? (c :: rest)
    else if isBareKey c then
      some (String.ofList ((c :: rest).takeWhile isBareKey), (c :: rest).dropWhile isBareKey)
    else none

/-- A dotted key, with the blanks around its parts. -/
def keyParts? : Nat → Input → Option (List String × Input)
  | 0, _ => none
  | fuel + 1, s => do
    let (part, s) ← keyPart? (skipWs s)
    match skipWs s with
    | '.' :: rest => do
      let (parts, rest) ← keyParts? fuel rest
      return (part :: parts, rest)
    | rest => return ([part], rest)

def key? (s : Input) : Option (List String × Input) := do
  let (parts, s) ← keyParts? (s.length + 1) s
  if parts.length < depthLimit then return (parts, s) else none

def bool? : Input → Option (Bool × Input)
  | 't' :: 'r' :: 'u' :: 'e' :: rest => some (true, rest)
  | 'f' :: 'a' :: 'l' :: 's' :: 'e' :: rest => some (false, rest)
  | _ => none

def insertAt? (parts : List String) (v : Value) (entries : Entries) : Option Entries :=
  match parts.getLast? with
  | some key => Entries.insert? key v parts.dropLast entries
  | none => none

mutual

/-- A value with room for `depth` containers inside one another. -/
def value? : Nat → Nat → Input → Option (Value × Input)
  | 0, _, _ => none
  | _, _, [] => none
  | fuel + 1, depth, c :: rest =>
    if c = '"' ∨ c = '\'' then (string? (c :: rest)).map fun (s, rest) => (.string s, rest)
    else if c = '[' then
      match depth with
      | 0 => none
      | depth + 1 => (items? fuel depth rest).map fun (items, rest) => (.array items, rest)
    else if c = '\x7b' then
      match depth with
      | 0 => none
      | depth + 1 =>
        match skipWs rest with
        | '\x7d' :: rest => some (.table [], rest)
        | rest => (inline? fuel depth [] rest).map fun (es, rest) => (.table (membersOf es), rest)
    else if c = 't' ∨ c = 'f' then (bool? (c :: rest)).map fun (b, rest) => (.bool b, rest)
    else (scalar? (c :: rest)).map fun (x, rest) => (.scalar x, rest)

/-- The items of an array up to its closing bracket. A comma may follow the last one. -/
def items? : Nat → Nat → Input → Option (List Value × Input)
  | 0, _, _ => none
  | fuel + 1, depth, s => do
    match ← skipLines s.length s with
    | ']' :: rest => return ([], rest)
    | s => do
      let (v, s) ← value? fuel depth s
      match ← skipLines s.length s with
      | ']' :: rest => return ([v], rest)
      | ',' :: rest => do
        let (vs, rest) ← items? fuel depth rest
        return (v :: vs, rest)
      | _ => none

/-- The values of an inline table up to its closing brace. -/
def inline? : Nat → Nat → Entries → Input → Option (Entries × Input)
  | 0, _, _, _ => none
  | fuel + 1, depth, entries, s => do
    let (parts, s) ← key? s
    match s with
    | '=' :: rest => do
      let (v, s) ← value? fuel depth (skipWs rest)
      let entries ← insertAt? parts v entries
      match skipWs s with
      | '\x7d' :: rest => return (entries, rest)
      | ',' :: rest => inline? fuel depth entries rest
      | _ => none
    | _ => none

end

/-- The header of a table, and whether it is one of several of its name. -/
def header? (s : Input) : Option (Bool × List String × Input) :=
  match s with
  | '[' :: '[' :: rest => do
    let (parts, rest) ← key? rest
    match rest with
    | ']' :: ']' :: rest => return (true, parts, ← lineEnd? rest)
    | _ => none
  | '[' :: rest => do
    let (parts, rest) ← key? rest
    match rest with
    | ']' :: rest => return (false, parts, ← lineEnd? rest)
    | _ => none
  | _ => none

def openHeader? (several : Bool) (parts : List String) (root : Entries) : Option Entries :=
  match parts.getLast? with
  | some key =>
    root.change? (if several then Entries.openItem? key else Entries.openTable? key) parts.dropLast
  | none => none

/-- Reads line after line; `current` is the path of the table that the lines belong to. -/
def lines? : Nat → List String → Entries → Input → Option Entries
  | 0, _, _, _ => none
  | fuel + 1, current, root, s =>
    match skipWs s with
    | [] => some root
    | '#' :: rest => (lineEnd? ('#' :: rest)).bind (lines? fuel current root)
    | '\n' :: rest => lines? fuel current root rest
    | '\r' :: rest => (newline? ('\r' :: rest)).bind (lines? fuel current root)
    | '[' :: rest => do
      let (several, parts, rest) ← header? ('[' :: rest)
      let root ← openHeader? several parts root
      lines? fuel parts root rest
    | s => do
      let (parts, s) ← key? s
      match s with
      | '=' :: rest => do
        let (v, s) ← value? (2 * rest.length + 2) (depthLimit - 1) (skipWs rest)
        let root ← root.change? (insertAt? parts v) current
        let rest ← lineEnd? s
        lines? fuel current root rest
      | _ => none

/-- The top table of a document; a byte order mark at its start is passed over. -/
def parse? (s : String) : Option Entries :=
  let s := match s.toList with
    | c :: rest => if c.toNat = 0xFEFF then rest else c :: rest
    | [] => []
  lines? (s.length + 1) [] [] s

end MetricRing.Toml
