import CloudPolicy.Cloud.Records

/-! The function service: functions with their triggers, configurations, reserved instances,
versions and aliases. -/

namespace CloudPolicy

/-- How a function is invoked. -/
structure Invocation where
  body : Json
  asynchronous : Bool
  deriving Repr, Inhabited

/-- Zero padded to four digits. -/
def fourDigits (n : Nat) : String :=
  String.ofList (Text.padLeft 4 '0' (Number.natDigits n))

namespace Cloud

/-- The triggers of a function; nothing when the service keeps no list for it. -/
def listTriggers (function : String) : CloudM (Option (List Json)) := do
  enter "functiongraph" "list_triggers" function
  return ((← get).triggers.get? function).getD (some [])

/-- Drop one `:latest` at the end. -/
def withoutLatest (urn : String) : String := (Text.dropEnding? ":latest" urn).getD urn

/-- The function is addressed by its identifier, or by its resource name without `:latest`. -/
def isFunction (target : String) (r : Resource) : Bool :=
  r.id = target ∨ (r.text? "func_urn").map withoutLatest = some target

/-- A version record with the given resource name. -/
def isVersion (target : String) (version : Json) : Bool :=
  version.stringField? "func_urn" = some target

/-- Remove the functions and all versions that `target` addresses. -/
def deleteFunction (target : String) : CloudM Unit := do
  enter "functiongraph" "delete_function" target
  modify fun cloud =>
    let cloud := cloud.setResources .function
      ((cloud.resources .function).filter fun r => !isFunction target r)
    { cloud with versions := cloud.versions.map fun records =>
        records.filter fun version => !isVersion target version }

def updateMaxInstances (function : String) (count : Int) : CloudM Unit := do
  enter "functiongraph" "update_max_instances" function
  modify fun cloud => cloud.setResources .function
    (updateFirst (addressedBy "func_urn" function) (·.set "max_instance_num" (.int count))
      (cloud.resources .function))

def showFunctionConfig (function : String) : CloudM Json := do
  enter "functiongraph" "show_function_config" function
  match (← get).functionConfigs.get? function with
  | some config => return config
  | none => throw (notFound "functiongraph" "show_function_config" function)

/-- An update replaces the fields that it names; what is no object replaces everything. -/
def mergeConfig : Option Json → Json → Json
  | some (.object current), .object update => .object (current.insertAll update.entries)
  | _, update => update

def updateFunctionConfig (function : String) (update : Json) : CloudM Unit := do
  enter "functiongraph" "update_function_config" function
  modify fun cloud =>
    let config := mergeConfig (cloud.functionConfigs.get? function) update
    { cloud with functionConfigs := cloud.functionConfigs.insert function config }

def listReservedInstances (function : String) : CloudM (List Json) := do
  enter "functiongraph" "list_reserved_instances" function
  return ((← get).reservedInstances.get? function).getD []

def listVersions (function : String) : CloudM (List Json) := do
  enter "functiongraph" "list_versions" function
  return ((← get).versions.get? function).getD []

def listAliases (function : String) : CloudM (List Json) := do
  enter "functiongraph" "list_aliases" function
  return ((← get).aliases.get? function).getD []

/-- Invoke a function; the answer to a synchronous invocation carries a result. -/
def invoke (function : String) (invocation : Invocation) : CloudM Json := do
  enter "functiongraph" "invoke" function
  modify fun cloud =>
    { cloud with invocations := cloud.invocations ++ [(function, invocation.body)] }
  let request := ("request_id", Json.string ("req-" ++ fourDigits (← get).invocations.length))
  if invocation.asynchronous then return .obj [request]
  else return .obj [request, ("status", .nat 200), ("result", .string "ok")]

/-- The resource names of the versions that a function still has. -/
def versionsOf (cloud : Cloud) (function : String) : List String :=
  ((cloud.versions.get? function).getD []).filterMap fun version =>
    version.stringField? "func_urn"

end Cloud

end CloudPolicy
