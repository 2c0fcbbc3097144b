import MetricRing.CommandLine.Arguments

/-!
# Help pages

Each page of help names what it is about, how it is called, and then its commands, arguments and
options in columns.
-/

namespace MetricRing.CommandLine

def program : String := "tscluster"

def versionText : String := program ++ " 0.1.0\n"

def Key.about : Key → String
  | .config => "Path to a TOML client config file"
  | .server => "Seed node address (repeatable; overrides the config file's servers)"
  | .discover => "Learn the rest of the cluster from the topology"
  | .seconds => "How long to watch [default: " ++ toString defaultSeconds ++ "]"
  | .interval => "Check interval in milliseconds (defaults to the config's)"
  | .help => "Print help"
  | .version => "Print version"

def Key.label (k : Key) : String :=
  let short := match k.short? with
    | some c => String.ofList ['-', c, ',', ' ']
    | none => "    "
  let value := match k.value? with
    | some v => " <" ++ v ++ ">"
    | none => ""
  short ++ "--" ++ k.long ++ value

namespace Page

def about : Page → String
  | .top => "Inspect a clustered time series store"
  | .nodes => "List active and inactive nodes"
  | .locate => "Print the nodes owning a metric, primary first"
  | .watch => "Run the health watcher and log node transitions"
  | .get => "Send a GET request through the dispatcher and print the body"
  | .help => "Print this message or the help of the given subcommand(s)"

/-- The arguments of a page, and what they are. -/
def arguments : Page → List (String × String)
  | .locate => [("<OWNER>", "Owner (check) identifier"), ("<METRIC>", "Metric name")]
  | .get => [("<PATH>", "Request path, e.g. /state")]
  | .help => [("[COMMAND]...", "Print help for the subcommand(s)")]
  | _ => []

def name : Page → String
  | .top => program
  | p =>
    match commands.find? fun c => c.2 = p with
    | some c => program ++ " " ++ c.1
    | none => program

def usage (p : Page) : String :=
  let options := if p.keys.isEmpty then [] else ["[OPTIONS]"]
  let command := if p = .top then ["<COMMAND>"] else []
  "Usage: " ++ " ".intercalate (p.name :: options ++ command ++ p.arguments.map Prod.fst) ++ "\n"

/-- Two columns under a heading; nothing if they are empty. -/
def columns (heading : String) (rows : List (String × String)) : String :=
  let width := rows.foldl (fun n r => max n r.1.length) 0
  let row (r : String × String) : String :=
    "  " ++ r.1 ++ String.ofList (List.replicate (width - r.1.length) ' ') ++ "  " ++ r.2 ++ "\n"
  if rows.isEmpty then "" else "\n" ++ heading ++ ":\n" ++ String.join (rows.map row)

def text (p : Page) : String :=
  let commands := if p = .top then commands.map fun c => (c.1, c.2.about) else []
  p.about ++ "\n\n" ++ p.usage ++ columns "Commands" commands ++
    columns "Arguments" p.arguments ++
    columns "Options" (p.keys.map fun k => (k.label, k.about))

end Page
end MetricRing.CommandLine
