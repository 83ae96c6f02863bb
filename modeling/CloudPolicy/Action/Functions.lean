import CloudPolicy.Action.Balancers
import CloudPolicy.Filter.Functions
import CloudPolicy.Time.Span

/-! Actions on functions. -/

namespace CloudPolicy.Action

open BlockSchema

def deleteFunction : Action :=
  ofCall "delete-function" fun r => Cloud.deleteFunction (Cloud.withoutLatest r.functionUrn)

/-! ### Configurations -/

/-- Look the configuration of each function up. -/
def showConfig : Action :=
  ofCall "show-function-config" fun r => do
    let _ ← Cloud.showFunctionConfig r.functionUrn
    return

/-- The fields of a configuration that an update carries over. -/
def updatableFields : List String :=
  ["timeout", "handler", "memory_size", "gpu_memory", "gpu_type", "user_data",
    "encrypted_user_data", "xrole", "app_xrole", "description", "func_vpc", "peering_cidr",
    "mount_config", "strategy_config", "custom_image", "extend_config", "initializer_handler",
    "initializer_timeout", "pre_stop_handler", "pre_stop_timeout", "ephemeral_storage",
    "enterprise_project_id", "log_config", "network_controller", "is_stateful_function",
    "enable_dynamic_memory", "enable_auth_in_header", "domain_names", "restore_hook_handler",
    "restore_hook_timeout", "heartbeat_handler", "enable_class_isolation", "lts_custom_tag"]

/-- The fields of an object; any other value has none. -/
def fieldsOf : Json → List (String × Json)
  | .object fields => fields.entries
  | _ => []

/-- An update: the name and the runtime of the record, what can be updated of the current
configuration, and the new properties, later parts replacing earlier ones. -/
def updateBody (r : Resource) (current properties : Json) : Json :=
  let record := ["func_name", "runtime"].filterMap fun key =>
    (r.get? key).map fun value => (key, value)
  let carried := (fieldsOf current).filter fun e => e.1 ∈ updatableFields
  .object (.ofList (record ++ carried ++ fieldsOf properties))

def updateConfigSchema : Json :=
  ofType "update-function-config" [("properties", .obj [("type", .string "object"),
    ("required", .strings ["timeout", "handler", "memory_size"])])] ["properties"]

/-- Update the configuration of a function. -/
def applyConfig (properties : Json) (r : Resource) : CloudM Unit := do
  let current ← Cloud.showFunctionConfig r.functionUrn
  Cloud.updateFunctionConfig r.functionUrn (updateBody r current properties)

def updateConfig (properties : Json) : Action :=
  ofCall "update-function-config" (applyConfig properties)

def buildUpdateConfig (block : Json) (context : BuildContext) : Except Error Action := do
  let properties ← context.require ((block.field? "properties").filter Json.isObject)
    "update-function-config requires a 'properties' table"
  match ["timeout", "handler", "memory_size"].find? fun key => (properties.field? key).isNone with
  | some missing =>
    context.reject ("update-function-config 'properties' requires '" ++ missing ++ "'")
  | none => .ok (updateConfig properties)

def updateConcurrencySchema : Json :=
  ofType "update-function-concurrency"
    [("value", .obj [("type", .string "integer"), ("minimum", .nat 0)])] ["value"]

def updateConcurrency (count : Int) : Action :=
  ofCall "update-function-concurrency" fun r => Cloud.updateMaxInstances r.functionUrn count

def buildUpdateConcurrency (block : Json) (context : BuildContext) : Except Error Action := do
  let count ← context.require ((block.field? "value").bind Json.int64?)
    "update-function-concurrency requires an integer 'value'"
  return updateConcurrency count

/-! ### Security groups -/

def modifyGroupsSchema : Json :=
  ofType "modify-security-groups" [("security_groups", textList), ("xrole", text)]
    ["security_groups", "xrole"]

/-- The properties that put a function behind other security groups; a function without a network
has none. -/
def withGroups? (groups : List String) (xrole : String) (current : Json) : Option Json :=
  match current.field? "func_vpc" with
  | some (.object vpc) =>
    let field (key : String) : String × Json := (key, (current.field? key).getD .null)
    some (.obj [field "timeout", field "handler", field "memory_size",
      ("func_vpc", .object (vpc.insert "security_groups" (.strings groups))),
      ("xrole", .string xrole)])
  | _ => none

def modifyGroupsStep (groups : List String) (xrole : String) (r : Resource) : CloudM Step := do
  let current ← Cloud.showFunctionConfig r.functionUrn
  match withGroups? groups xrole current with
  | none => return .refused "function has no VPC configuration"
  | some properties =>
    Cloud.updateFunctionConfig r.functionUrn (updateBody r current properties)
    return .done

def modifyGroups (groups : List String) (xrole : String) : Action :=
  ofStep "modify-security-groups" fun _ r => modifyGroupsStep groups xrole r

def buildModifyGroups (block : Json) (context : BuildContext) : Except Error Action := do
  let groups ← context.require (block.stringsField? "security_groups")
    "modify-security-groups requires 'security_groups'"
  let xrole ← context.require (block.textOption? "xrole")
    "modify-security-groups requires 'xrole'"
  return modifyGroups groups xrole

/-! ### Versions -/

def trimVersionsSchema : Json :=
  let flag : Json := .obj [("type", .string "boolean"), ("default", .bool true)]
  ofType "trim-versions" [("exclude-aliases", flag), ("retain-latest", flag),
    ("older-than", .obj [("type", .string "number"), ("minimum", .nat 0)])] []

/-- Which versions stay: those that an alias names, and those modified within some days. -/
structure VersionRetention where
  excludeAliases : Bool := true
  days : Option Binary64 := none
  deriving DecidableEq, Repr, Inhabited

/-- The name of a version, or of the version that an alias names. -/
def versionName (version : Json) : String := (version.stringField? "version").getD ""

/-- A version stays whatever its date: the latest one, and aliased ones if they are excluded. -/
def VersionRetention.protects (retention : VersionRetention) (aliases : List Json)
    (version : Json) : Bool :=
  versionName version = "latest"
    || retention.excludeAliases && aliases.any (fun a =>
      a.stringField? "version" = some (versionName version))

/-- The instant some days before another. -/
def daysBefore (days : Binary64) (now : Timestamp) : Except Error Timestamp := do
  now.earlier (← TimeSpan.ofSeconds (days.mul (.ofNat 86400)).toInt64)

/-- A version stays: a protected one, and one that was modified too recently or at no known date. -/
def VersionRetention.retains (retention : VersionRetention) (now : Timestamp) (aliases : List Json)
    (version : Json) : Except Error Bool :=
  if retention.protects aliases version then .ok true
  else
    match retention.days with
    | none => .ok false
    | some days => do
      let threshold ← daysBefore days now
      return match (version.stringField? "last_modified").bind Timestamp.ofRecord? with
        | some modified => !modified.notAfter threshold
        | none => true

/-- The resource names of the versions that do not stay. -/
def VersionRetention.doomed (retention : VersionRetention) (now : Timestamp)
    (aliases : List Json) : List Json → Except Error (List String)
  | [] => .ok []
  | version :: versions => do
    let stays ← retention.retains now aliases version
    let doomed ← retention.doomed now aliases versions
    return if stays then doomed else (version.stringField? "func_urn").toList ++ doomed

/-- Delete the versions of a function that do not stay. -/
def trimStep (retention : VersionRetention) (now : Timestamp) (r : Resource) : CloudM Step := do
  let urn := Cloud.withoutLatest r.functionUrn
  let versions ← Cloud.listVersions urn
  let aliases ← Cloud.listAliases urn
  let doomed ← CloudM.ofExcept (retention.doomed now aliases versions)
  forEach Cloud.deleteFunction doomed
  return if doomed.isEmpty then .skipped else .done

def trimVersions (retention : VersionRetention) : Action :=
  ofStep "trim-versions" fun context r => trimStep retention context.now r

def buildTrimVersions (block : Json) (_ : BuildContext) : Except Error Action :=
  .ok (trimVersions {
    excludeAliases := block.boolOption "exclude-aliases" true
    days := (block.numberOption? "older-than").filter Binary64.zero.less })

/-! ### Invocation -/

def invokeSchema : Json :=
  ofType "invoke-function" [("body", typed "object"),
    ("X-Cff-Log-Type", .obj [("enum", .array [.string "tail", .null])]),
    ("X-Cff-Request-Version", oneOf ["v1", "v2"]),
    ("async-invoke", .obj [("type", .string "boolean"), ("default", .bool false)])] ["body"]

def invoke (invocation : Invocation) : Action :=
  ofCall "invoke-function" fun r => do
    let _ ← Cloud.invoke r.functionUrn invocation
    return

def buildInvoke (block : Json) (context : BuildContext) : Except Error Action := do
  let body ← context.require ((block.field? "body").filter Json.isObject)
    "invoke-function requires a 'body' table"
  let version := (block.textOption? "X-Cff-Request-Version").getD "v1"
  if version = "v1" ∨ version = "v2" then
    return invoke ⟨body, block.boolOption "async-invoke" false⟩
  else context.reject ("invoke-function: unknown request version '" ++ version ++ "'")

end CloudPolicy.Action
