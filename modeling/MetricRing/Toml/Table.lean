import MetricRing.Toml.Number

/-!
# TOML: values and tables

A table is open as long as dotted keys or headers may add to it. A table that a header has named
is not named again, and one that grows by dotted keys grows by nothing else. Entering a value
under a name that is taken fails.
-/

namespace MetricRing.Toml

inductive Value where
  | string (s : String)
  | bool (b : Bool)
  | scalar (x : Scalar)
  | array (items : List Value)
  | table (members : List (String × Value))
  deriving Inhabited

/-- How a table came to be: by a header of its own, on the way to a longer header, or by dotted
keys. -/
inductive Origin where
  | header
  | implied
  | dotted
  deriving DecidableEq, Repr

inductive Entry where
  | value (v : Value)
  | table (origin : Origin) (entries : List (String × Entry))
  | tables (items : List (List (String × Entry)))
  deriving Inhabited

abbrev Entries := List (String × Entry)

namespace Entries

def replace (entries : Entries) (key : String) (e : Entry) : Entries :=
  match entries with
  | [] => [(key, e)]
  | (k, d) :: rest => if k = key then (key, e) :: rest else (k, d) :: replace rest key e

/-- Changes the last of several tables. -/
def onLast? (f : Entries → Option Entries) : List Entries → Option (List Entries)
  | [] => none
  | [last] => (f last).map fun last => [last]
  | item :: rest => (onLast? f rest).map (item :: ·)

/-- Enters a value under a dotted key: `key` within the tables that `path` leads to. -/
def insert? (key : String) (v : Value) : List String → Entries → Option Entries
  | [], entries =>
    if (entries.lookup key).isSome then none else some (entries ++ [(key, .value v)])
  | step :: path, entries =>
    match entries.lookup step with
    | none => (insert? key v path []).map fun inner => entries ++ [(step, .table .dotted inner)]
    | some (.table .dotted inner) =>
      (insert? key v path inner).map fun inner => replace entries step (.table .dotted inner)
    | some (.table .implied inner) =>
      if path.isEmpty then none
      else (insert? key v path inner).map fun inner => replace entries step (.table .implied inner)
    | some (.tables items) =>
      if path.isEmpty then none
      else (onLast? (insert? key v path) items).map fun items =>
        replace entries step (.tables items)
    | _ => none

/-- Changes the table that a header's path leads to, making the tables on the way. -/
def change? (f : Entries → Option Entries) : List String → Entries → Option Entries
  | [], entries => f entries
  | step :: path, entries =>
    match entries.lookup step with
    | none => (change? f path []).map fun inner => entries ++ [(step, .table .implied inner)]
    | some (.table origin inner) =>
      (change? f path inner).map fun inner => replace entries step (.table origin inner)
    | some (.tables items) =>
      (onLast? (change? f path) items).map fun items => replace entries step (.tables items)
    | some (.value _) => none

/-- Opens the table that a header names. -/
def openTable? (key : String) (entries : Entries) : Option Entries :=
  match entries.lookup key with
  | none => some (entries ++ [(key, .table .header [])])
  | some (.table .implied inner) => some (replace entries key (.table .header inner))
  | _ => none

/-- Opens one more table of those that a header in double brackets names. -/
def openItem? (key : String) (entries : Entries) : Option Entries :=
  match entries.lookup key with
  | none => some (entries ++ [(key, .tables [[]])])
  | some (.tables items) => some (replace entries key (.tables (items ++ [[]])))
  | _ => none

end Entries

mutual

def Entry.toValue : Entry → Value
  | .value v => v
  | .table _ entries => .table (membersOf entries)
  | .tables items => .array (itemsOf items)

def membersOf : List (String × Entry) → List (String × Value)
  | [] => []
  | (key, e) :: rest => (key, e.toValue) :: membersOf rest

def itemsOf : List (List (String × Entry)) → List Value
  | [] => []
  | entries :: rest => .table (membersOf entries) :: itemsOf rest

end
end MetricRing.Toml
