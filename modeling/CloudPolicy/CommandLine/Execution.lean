import CloudPolicy.CommandLine.Arguments
import CloudPolicy.Policy.Text

/-! What the commands do. Files come in through a reader, so that commands stay pure. -/

namespace CloudPolicy

/-- The text of the file at a path, if it can be read. -/
abbrev FileReader := String → Option String

/-- The user of an event as it was written. -/
def Event.writtenUser : Json → Json
  | .object fields => (fields.get? "user").getD .null
  | .array (user :: _) => user
  | _ => .null

/-- An event from its text, in which no field stands twice. -/
def Event.ofText? (text : String) : Option Event := do
  let written ← Json.readWritten? text.toList
  if written.writtenOnce Event.fieldNames
      ∧ (Event.writtenUser written).writtenOnce EventUser.fieldNames then
    Event.ofJson? written.normalize
  else none

namespace Command

/-- The text at a path; the error says what the file is for. -/
def readFile (files : FileReader) (what path : String) : Except Error String :=
  match files path with
  | some text => .ok text
  | none => .error (.configuration ("failed to read " ++ what ++ " '" ++ path ++ "'"))

def readSettings (files : FileReader) : Option String → Except Error Settings
  | none => .ok {}
  | some path => readFile files "settings file" path >>= Settings.ofText

def readCloud (files : FileReader) (path : String) : Except Error Cloud :=
  readFile files "fixture" path >>= Fixture.ofText >>= Cloud.ofFixture

def readEvent (files : FileReader) : Option String → Except Error (Option Event)
  | none => .ok none
  | some path => do
    match Event.ofText? (← readFile files "event" path) with
    | some event => return some event
    | none => throw (.configuration ("failed to parse event '" ++ path ++ "'"))

/-- Show the ledger's state and count the calls of services. -/
def closing (hash : HashFunction) (world : World) (now : Timestamp) : List String :=
  let snapshot := world.ledger.snapshot now
  let terminal := if snapshot.terminalHash = "" then "-" else snapshot.terminalHash
  [match world.ledger.verify hash with
    | none => "Ledger verified: " ++ toString snapshot.entries.length
        ++ " entries, terminal hash " ++ terminal
    | some sequence => "Ledger BROKEN at entry " ++ toString sequence,
   "Service calls: " ++ toString world.cloud.calls.length]

/-- Run the policies of a file against a fixture. -/
def runFiles (hash : HashFunction) (now : Timestamp) (files : FileReader) (options : RunOptions) :
    Shown Unit := do
  let settings ← readSettings files options.settings
  let settings := { settings with dryRun := settings.dryRun || options.dryRun }
  let cloud ← readCloud files options.fixture
  let event ← readEvent files options.event
  let text ← readFile files "policy file" options.policies
  let policies ← Policy.ofDocument settings (← PolicyDocument.ofText text)
  let ((outcomes, failure), world) :=
    (Policy.runAll (AuditSink.ledger hash) settings now event policies).run ⟨cloud, {}⟩
  Shown.lines ((policies.zip outcomes).flatMap fun (policy, outcome) =>
    outcome.listing policy.resourceType)
  Shown.failWith failure
  Shown.lines (closing hash world now)

def banner : List String :=
  ["", "Cirrus: cloud policy plugin", "Sandbox demo", "===========================", "",
    "Per policy run:",
    "  [1] Fetch resources of the policy's type (restricted to the event's ids)",
    "  [2] Filters run in order, each seeing what the previous kept",
    "  [3] Actions run over every matched resource",
    "  [4] Each action's report is appended to the SHA-256 ledger", ""]

/-- Do what the command line asks for. -/
def perform (hash : HashFunction) (now : Timestamp) (files : FileReader) : Command → Shown Unit
  | help page => Shown.lines page
  | scenarios list => do
    Shown.lines banner
    list.forM fun scenario => do
      let _ ← scenario.play hash now
    Shown.line "Done."
  | run options => do
    Shown.lines banner
    runFiles hash now files options
    Shown.line "Done."

/-- The files that a command reads. -/
def paths : Command → List String
  | run options =>
    [options.policies, options.fixture] ++ options.event.toList ++ options.settings.toList
  | _ => []

end Command

/-- How a program ends. -/
structure Ending where
  exitCode : UInt8
  stdout : List String
  stderr : List String
  deriving DecidableEq, Repr, Inhabited

/-- Run the program with its arguments. Wrong arguments end it with code 2, a failure with code 1,
and what stops the program with code 101. -/
def CommandLine.run (hash : HashFunction) (now : Timestamp) (files : FileReader)
    (arguments : List String) : Ending :=
  match Command.ofArguments? arguments with
  | none => ⟨2, [], Help.short⟩
  | some command =>
    match (command.perform hash now files).collect with
    | (.ok _, lines) => ⟨0, lines, []⟩
    | (.error e, lines) =>
      if e.isFatal then ⟨101, lines, [e.message]⟩
      else ⟨1, lines, ["Demo error: " ++ e.message]⟩

end CloudPolicy
