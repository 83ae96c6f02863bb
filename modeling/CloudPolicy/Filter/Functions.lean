import CloudPolicy.Cloud.Functions
import CloudPolicy.Filter.Values
import CloudPolicy.Pool

/-! Filters on functions: their triggers and their reserved instances. What the service tells about
a function is looked up for all functions first, by a pool of workers, and then tested with a
predicate. -/

namespace CloudPolicy

/-- The resource name of a function, or its identifier when it has none. -/
def Resource.functionUrn (r : Resource) : String :=
  ((r.text? "func_urn").filter fun urn => !urn.isEmpty).getD r.id

namespace Filter

open BlockSchema

/-! ### Look-ups -/

/-- The task of a pool that looks something up for a resource and puts it beside the resource. -/
def lookUpTask {α : Type} (look : Resource → CloudM α) : Pool.SharedTask Cloud (Resource × α) :=
  fun slot cloud =>
    match (look slot.1).run cloud with
    | (.ok found, cloud) => (((slot.1, found), none), cloud)
    | (.error e, cloud) => ((slot, some e), cloud)

/-- Look something up for every resource; `unset` stands where nothing was looked up yet. -/
def lookUpAll {α : Type} (context : RunContext) (unset : α) (look : Resource → CloudM α)
    (resources : List Resource) : CloudM (List (Resource × α)) := do
  let (slots, failure) ← ExceptT.lift (Pool.fanOutWith context.schedule (lookUpTask look)
    (resources.map fun r => (r, unset)) context.settings.maxWorkers)
  match failure with
  | some e => throw e
  | none => return slots

/-! ### Triggers -/

def triggerCodes : List String :=
  ["TIMER", "APIG", "APIC", "CTS", "DDS", "DIS", "LTS", "KAFKA", "OBS", "SMN", "OPENSOURCEKAFKA",
    "RABBITMQ", "IoTDA"]

def triggerSchema : Json :=
  ofType "trigger-type" (valueProperties ++ [("trigger_id", text),
    ("trigger_type_code", oneOf triggerCodes), ("trigger_status", oneOf ["ACTIVE", "DISABLED"])]) []

/-- Keep a function, annotated with its triggers, when one of them satisfies the predicate. -/
def keepTriggered (p : Predicate) (r : Resource) (triggers : Option (List Json)) :
    Option Resource :=
  match triggers with
  | none => none
  | some triggers =>
    if triggers.any fun trigger => p.holds (.ofRecord trigger) then
      some (r.annotate "triggers" (.array triggers))
    else none

def triggered (p : Predicate) : Filter where
  name := "trigger-type"
  process := fun context resources => do
    let looked ← lookUpAll context none
      (fun r => Cloud.listTriggers ((r.text? "func_urn").getD r.id)) resources
    return looked.filterMap fun (r, triggers) => keepTriggered p r triggers

def buildTriggered (block : Json) (context : BuildContext) : Except Error Filter :=
  return triggered (← context.rejecting (Predicate.ofBlock block))

/-! ### Reserved instances -/

def reservedSchema : Json :=
  ofType "reserved-concurrency" (valueProperties ++ [("min_count", number),
    ("qualifier_type", oneOf ["version", "alias"]), ("qualifier_name", text),
    ("idle_mode", boolean)]) []

/-- The resource name of a function's own version. -/
def qualifiedUrn (r : Resource) : String :=
  let version := ((r.text? "version").filter fun version => !version.isEmpty).getD "latest"
  Cloud.withoutLatest r.functionUrn ++ ":" ++ version

/-- The configuration of the function's own version. -/
def ownConfig (r : Resource) (configs : List Json) : Option Json :=
  configs.find? fun config => config.stringField? "function_urn" = some (qualifiedUrn r)

/-- Keep a function, annotated with the configuration of its own version, when that satisfies the
predicate. A function without one is judged by an empty record. -/
def keepReserved (p : Predicate) (r : Resource) (configs : List Json) : Option Resource :=
  match ownConfig r configs with
  | none => if p.holds ⟨∅, ∅⟩ then some r else none
  | some config =>
    if p.holds (.ofRecord config) then some (r.annotate "reserved_concurrency" config) else none

def reserved (p : Predicate) : Filter where
  name := "reserved-concurrency"
  process := fun context resources => do
    let looked ← lookUpAll context []
      (fun r => Cloud.listReservedInstances (Cloud.withoutLatest r.functionUrn)) resources
    return looked.filterMap fun (r, configs) => keepReserved p r configs

def buildReserved (block : Json) (context : BuildContext) : Except Error Filter :=
  return reserved (← context.rejecting (Predicate.ofBlock block))

end Filter

end CloudPolicy
