import CloudPolicy.Text.Search

/-! The help pages of the command line. -/

namespace CloudPolicy.Help

/-- The subcommands and what each of them does. -/
def subcommands : List (String × String) := [
  ("run-all", "Run every sandbox scenario in sequence"),
  ("owner-tagging", "Event-driven owner attribution (auto-tag-user)"),
  ("network-drift", "Inconsistent function network placement (network-location)"),
  ("elb-hygiene", "Load balancers without access logs (is-not-logging, unbind-publicips)"),
  ("topic-exposure", "Publicly writable notification topics (topic-access, topic-lts)"),
  ("run", "Run a policy document against a fixture")]

/-- Rows in two columns, the first as wide as its widest entry. -/
def columns (rows : List (String × String)) : List String :=
  let width := (rows.map (·.1.length)).foldl max 0
  rows.map fun (left, right) =>
    "  " ++ left ++ String.ofList (List.replicate (width - left.length + 2) ' ') ++ right

def helpRow (note : String) : String × String := ("-h, --help", "Print help" ++ note)

def commandRows : List String :=
  columns (subcommands ++ [("help", "Print this message or the help of the given subcommand(s)")])

def usage : List String := ["", "Usage: demo <COMMAND>", "", "Commands:"] ++ commandRows

/-- The short page of the program. -/
def short : List String :=
  ["Cirrus cloud policy plugin demo"] ++ usage
    ++ ["", "Options:"] ++ columns [helpRow " (see more with '--help')"]

/-- The long page of the program. -/
def long : List String :=
  ["Runs Cirrus sandbox scenarios, or compiles a policy document and runs",
    "it against a JSON fixture, printing matches, action reports and",
    "the remediation ledger status."] ++ usage
    ++ ["", "Options:", "  -h, --help", "          Print help (see a summary with '-h')"]

def runOptions : List (String × String) := [
  ("    --policies <POLICIES>", "TOML policy document"),
  ("    --fixture <FIXTURE>", "JSON sandbox fixture"),
  ("    --event <EVENT>", "JSON audit-trail event for event-driven policies"),
  ("    --settings <SETTINGS>", "TOML runner settings"),
  ("    --dry-run", "Evaluate filters only"),
  helpRow ""]

/-- The page of a subcommand. -/
def subcommand? (name : String) : Option (List String) :=
  (subcommands.find? (·.1 = name)).map fun (name, about) =>
    if name = "run" then
      [about, "", "Usage: demo run [OPTIONS] --policies <POLICIES> --fixture <FIXTURE>", "",
        "Options:"] ++ columns runOptions
    else [about, "", "Usage: demo " ++ name, "", "Options:"] ++ columns [helpRow ""]

end CloudPolicy.Help
