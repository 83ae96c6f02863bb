import CloudPolicy.Ledger.Basic
import CloudPolicy.Policy.Compile

/-! Running policies: list the resources, restrict them to those that the event names, filter, act,
and record every action in the ledger. A failure ends a run where it happens, and what was recorded
before stays. -/

namespace CloudPolicy

/-- What a run changes. -/
structure World where
  cloud : Cloud
  ledger : Ledger

/-- A part of a run. -/
abbrev RunM := ExceptT Error (StateM World)

/-- Where records go. -/
structure AuditSink where
  write : Ledger → RunRecord → Except Error Ledger
  finalize : Ledger → RunId → Except Error Ledger

namespace AuditSink

/-- The ledger itself. -/
def ledger (hash : HashFunction) : AuditSink where
  write := fun ledger record => .ok (ledger.write hash record)
  finalize := Ledger.finalize

/-- A sink that takes no record. -/
def full (sink : AuditSink) : AuditSink :=
  { sink with write := fun _ _ => .error (.auditWrite "sink is full") }

/-- A sink that completes no run. -/
def unsealable (sink : AuditSink) : AuditSink :=
  { sink with finalize := fun _ _ => .error (.auditWrite "sink cannot seal") }

end AuditSink

/-- What one run did. -/
structure RunOutcome where
  runId : RunId
  policy : String
  /-- False when the policy ignored the event. -/
  triggered : Bool := true
  matched : List Resource := []
  reports : List Report := []
  deriving Inhabited

namespace RunM

/-- Do something in the cloud. -/
def inCloud {α : Type} (step : CloudM α) : RunM α :=
  ExceptT.mk fun world =>
    let (result, cloud) := step.run world.cloud
    (result, { world with cloud })

/-- Do something to the ledger. -/
def inLedger (step : Ledger → Except Error Ledger) : RunM Unit :=
  ExceptT.mk fun world =>
    match step world.ledger with
    | .ok ledger => (.ok (), { world with ledger })
    | .error e => (.error e, world)

end RunM

/-- What a policy makes of an event. -/
inductive Trigger where
  /-- The policy runs, on demand or on the event. -/
  | run (event : Option Event)
  | ignored
  /-- The policy needs an event. -/
  | missing
  deriving DecidableEq, Repr, Inhabited

namespace Policy

def trigger (policy : Policy) (event : Option Event) : Trigger :=
  match policy.mode, event with
  | .pull, _ => .run none
  | .trail _, none => .missing
  | mode, some event => if mode.accepts event.eventName then .run (some event) else .ignored

/-- The resources that an event names, or all of them without an event. -/
def restrict (event : Option Event) (resources : List Resource) : List Resource :=
  match event with
  | none => resources
  | some event => resources.filter fun r => r.id ∈ event.resourceIds

/-- Apply one filter after the other, until no resource is left. -/
def applyFilters (context : RunContext) : List Filter → List Resource → CloudM (List Resource)
  | [], resources => return resources
  | filter :: filters, resources => do
    if resources.isEmpty then return resources
    let kept ← filter.process context resources
    applyFilters context filters kept

/-- List the resources of a policy and filter them. -/
def select (policy : Policy) (context : RunContext) : CloudM (List Resource) := do
  let resources ← Cloud.list policy.resourceType
  applyFilters context policy.filters (restrict context.event resources)

/-- Run one action after the other and record each. -/
def act (sink : AuditSink) (runId : RunId) (context : RunContext) (matched : List Resource) :
    List Action → RunM (List Report)
  | [] => return []
  | action :: actions => do
    let report ← RunM.inCloud (action.process context matched)
    let record : RunRecord :=
      { runId, policy := context.policy, resourceType := context.resourceType, report,
        timestamp := context.now }
    RunM.inLedger fun ledger => sink.write ledger record
    let reports ← act sink runId context matched actions
    return report :: reports

/-- Filter, and act unless actions are off or nothing is left; then complete the run. -/
def execute (policy : Policy) (sink : AuditSink) (runId : RunId) (context : RunContext) :
    RunM RunOutcome := do
  let matched ← RunM.inCloud (policy.select context)
  let actions := if context.settings.dryRun || matched.isEmpty then [] else policy.actions
  let reports ← act sink runId context matched actions
  RunM.inLedger fun ledger => sink.finalize ledger runId
  return { runId, policy := policy.name, matched, reports }

/-- Run a policy once. Policies that run on demand take no notice of the event. -/
def run (policy : Policy) (sink : AuditSink) (settings : Settings) (now : Timestamp)
    (runId : RunId) (event : Option Event) (schedule : List Nat := []) : RunM RunOutcome :=
  match policy.trigger event with
  | .missing =>
    throw (.execution ("policy '" ++ policy.name ++ "' is event-driven and needs an event"))
  | .ignored => return { runId, policy := policy.name, triggered := false }
  | .run event => policy.execute sink runId
      { policy := policy.name, resourceType := policy.resourceType, settings, event, now, schedule }

/-- Run policies one after the other, each under an identifier that the ledger does not know yet.
The outcomes before the first failure are kept. -/
def runAll (sink : AuditSink) (settings : Settings) (now : Timestamp) (event : Option Event) :
    List Policy → StateM World (List RunOutcome × Option Error)
  | [] => return ([], none)
  | policy :: policies => do
    let runId := (← get).ledger.freshRun
    match ← (policy.run sink settings now runId event).run with
    | .error e => return ([], some e)
    | .ok outcome => do
      let (outcomes, failure) ← runAll sink settings now event policies
      return (outcome :: outcomes, failure)

end Policy

end CloudPolicy
