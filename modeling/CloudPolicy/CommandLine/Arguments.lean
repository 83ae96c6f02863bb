import CloudPolicy.CommandLine.Help
import CloudPolicy.Scenario

/-! The arguments of the command line. -/

namespace CloudPolicy

/-- The options of a run of a policy file: the paths of its files, and whether actions are off. -/
structure RunOptions where
  policies : String
  fixture : String
  event : Option String := none
  settings : Option String := none
  dryRun : Bool := false
  deriving DecidableEq, Repr, Inhabited

/-- What the command line asks for. -/
inductive Command where
  | scenarios (list : List Scenario)
  | run (options : RunOptions)
  | help (page : List String)

/-- Options as far as they are read. -/
structure OptionDraft where
  paths : List (String × String) := []
  dryRun : Bool := false

/-- The state of reading options. -/
inductive OptionsRead where
  | options (draft : OptionDraft)
  | helpAsked

namespace Command

/-- The options of `run` that take a path. -/
def pathOptions : List String := ["policies", "fixture", "event", "settings"]

/-- The parts of an argument such as `--name=value` after its dashes. -/
def longOption? (argument : String) : Option (String × Option String) :=
  match argument.toList with
  | '-' :: '-' :: rest =>
    let name := String.ofList (rest.takeWhile (· ≠ '='))
    match rest.dropWhile (· ≠ '=') with
    | '=' :: value => some (name, some (String.ofList value))
    | _ => some (name, none)
  | _ => none

def asksHelp (argument : String) : Bool :=
  argument = "--help" || argument.toList.take 2 = ['-', 'h']

/-- An argument that may be the value of an option: a text that is not empty and does not begin with
a dash, or a single dash. -/
def isValue (argument : String) : Bool :=
  argument = "-" || !(argument = "" || argument.toList.head? = some '-')

/-- Keep the path of an option. It is not empty, and every option is given once. -/
def keepPath? (draft : OptionDraft) (name value : String) : Option OptionDraft :=
  if value = "" ∨ name ∈ draft.paths.map (·.1) then none
  else some { draft with paths := draft.paths ++ [(name, value)] }

/-- Read the options of `run`. Two dashes may end them. -/
def readOptions (draft : OptionDraft) : List String → Option OptionsRead
  | [] => some (.options draft)
  | ["--"] => some (.options draft)
  | argument :: rest =>
    if asksHelp argument then some .helpAsked
    else
      match longOption? argument with
      | some ("dry-run", none) =>
        if draft.dryRun then none else readOptions { draft with dryRun := true } rest
      | some (name, some value) =>
        if name ∈ pathOptions then
          (keepPath? draft name value).bind fun draft => readOptions draft rest
        else none
      | some (name, none) =>
        match rest with
        | value :: rest =>
          if name ∈ pathOptions ∧ isValue value then
            (keepPath? draft name value).bind fun draft => readOptions draft rest
          else none
        | [] => none
      | none => none

/-- The options that were read, if those that are needed are there. -/
def RunOptions.ofDraft? (draft : OptionDraft) : Option RunOptions := do
  let path? (name : String) := (draft.paths.find? (·.1 = name)).map (·.2)
  let policies ← path? "policies"
  let fixture ← path? "fixture"
  some { policies, fixture, event := path? "event", settings := path? "settings",
         dryRun := draft.dryRun }

/-- The scenarios that a subcommand plays. -/
def scenarios? (name : String) : Option (List Scenario) :=
  if name = "run-all" then some Scenario.all
  else (Scenario.ofName? name).map fun scenario => [scenario]

/-- What the arguments ask for, or nothing when they are wrong. -/
def ofArguments? : List String → Option Command
  | [] => none
  | ["help"] => some (.help Help.long)
  | ["help", name] => (Help.subcommand? name).map .help
  | "run" :: arguments =>
    match readOptions {} arguments with
    | some .helpAsked => (Help.subcommand? "run").map .help
    | some (.options draft) => (RunOptions.ofDraft? draft).map .run
    | none => none
  | name :: arguments =>
    if name = "--help" then some (.help Help.long)
    else if asksHelp name then some (.help Help.short)
    else (scenarios? name).bind fun scenarios =>
      match arguments with
      | [] => some (.scenarios scenarios)
      | ["--"] => some (.scenarios scenarios)
      | argument :: _ =>
        if asksHelp argument then (Help.subcommand? name).map .help else none

end Command

end CloudPolicy
