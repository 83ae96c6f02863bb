import CloudPolicy.Action.Basic
import CloudPolicy.Filter.Balancers

/-! Actions on load balancers and listeners. -/

namespace CloudPolicy

/-- The kinds of public addresses that can be released. -/
inductive AddressKind where
  | elastic
  | ipv6Bandwidth
  | global
  deriving DecidableEq, Repr, Inhabited

def AddressKind.ofName? : String → Option AddressKind
  | "eip" => some elastic
  | "ipv6_bandwidth" => some ipv6Bandwidth
  | "global_eip" => some global
  | _ => none

def AddressKind.all : List AddressKind := [elastic, ipv6Bandwidth, global]

/-- A log group or a log stream, named by its identifier, its name, or both. -/
structure LogReference where
  id : Option String
  name : Option String
  deriving DecidableEq, Repr, Inhabited

namespace LogReference

/-- The reference of a block, if it has one. -/
def ofBlock? (block : Json) (idKey nameKey : String) : Option LogReference :=
  match block.someTextOption? idKey, block.someTextOption? nameKey with
  | none, none => none
  | id, name => some ⟨id, name⟩

/-- The reference as it is shown in messages. -/
def shown (reference : LogReference) : String :=
  "LogRef \x7b id: " ++ Text.quotedOption reference.id ++ ", name: "
    ++ Text.quotedOption reference.name ++ " \x7d"

/-- The entry that a reference names, by its identifier if it has one. -/
def find? (reference : LogReference) (entries : List Json) (idField nameField : String) :
    Option Json :=
  match reference.id, reference.name with
  | some id, _ => entries.find? fun entry => entry.stringField? idField = some id
  | none, some name => entries.find? fun entry => entry.stringField? nameField = some name
  | none, none => none

/-- The identifier of the entry that a reference names. A name beside an identifier has to be the
entry's. -/
def resolve (reference : LogReference) (kind : String) (entries : List Json)
    (idField nameField : String) : Except Error String :=
  let entry := reference.find? entries idField nameField
  match entry, reference.id, reference.name with
  | some e, some id, some name =>
    if e.stringField? nameField = some name then .ok id
    else .error (.execution (kind ++ " '" ++ id ++ "' is not named '" ++ name ++ "'"))
  | entry, _, _ =>
    match entry.bind (·.stringField? idField) with
    | some id => .ok id
    | none => .error (.execution (kind ++ " " ++ reference.shown ++ " not found"))

end LogReference

namespace Action

open BlockSchema

/-! ### Load balancers -/

/-- The schema of an action without options. -/
def plainSchema (name : String) : Json := ofType name [] []

def deleteLoadBalancer : Action := ofCall "delete" fun r => Cloud.deleteLoadBalancer r.id

def unbindSchema : Json :=
  ofType "unbind-publicips" [("publicip_types", .obj [("type", .string "array"),
    ("items", oneOf ["eip", "ipv6_bandwidth", "global_eip"])])] []

/-- The items of an array field. -/
def itemsOf (r : Resource) (key : String) : List Json := ((r.get? key).bind Json.array?).getD []

/-- Run a call for each element. -/
def forEach {α : Type} (call : α → CloudM Unit) : List α → CloudM Unit
  | [] => return
  | x :: xs => do
    call x
    forEach call xs

/-- The addresses of one version of the protocol. -/
def addressesOf (version : Int) (r : Resource) : List Json :=
  (itemsOf r "eips").filter fun address =>
    (address.field? "ip_version").bind Json.int64? = some version

/-- Release the public addresses of the given kinds. -/
def unbind (kinds : List AddressKind) (r : Resource) : CloudM Unit := do
  if .ipv6Bandwidth ∈ kinds then
    forEach (fun _ => Cloud.removeIpv6Bandwidth r.id) (addressesOf 6 r)
  if .elastic ∈ kinds then
    forEach Cloud.disassociatePublicAddress
      ((addressesOf 4 r).filterMap fun address => address.stringField? "eip_id")
  if .global ∈ kinds then
    forEach Cloud.disassociateGlobalAddress
      ((itemsOf r "global_eips").filterMap fun address => address.stringField? "global_eip_id")

/-- Without kinds all are released. -/
def buildUnbind (block : Json) (_ : BuildContext) : Except Error Action :=
  let kinds := (block.textsOption "publicip_types").filterMap AddressKind.ofName?
  .ok (ofCall "unbind-publicips" (unbind (if kinds.isEmpty then AddressKind.all else kinds)))

def enableLoggingSchema : Json :=
  ofType "enable-logging" [("log_group_id", text), ("log_group_name", text),
    ("log_topic_id", text), ("log_topic_name", text)] []

/-- Send the access logs to a log stream, which is looked up first. -/
def enableLogging (group stream : LogReference) : Action where
  name := "enable-logging"
  process := fun context resources => do
    if resources.isEmpty then return { action := "enable-logging" }
    let groups ← Cloud.listLogGroups
    let group ← CloudM.ofExcept
      (group.resolve "log group" groups "log_group_id" "log_group_name")
    let streams ← Cloud.listLogStreams group
    let stream ← CloudM.ofExcept
      (stream.resolve "log stream" streams "log_stream_id" "log_stream_name")
    (ofCall "enable-logging" fun r => Cloud.bindAccessLog r.id group stream).process context
      resources

def buildEnableLogging (block : Json) (context : BuildContext) : Except Error Action := do
  let group ← context.require (LogReference.ofBlock? block "log_group_id" "log_group_name")
    "enable-logging requires 'log_group_id' or 'log_group_name'"
  let stream ← context.require (LogReference.ofBlock? block "log_topic_id" "log_topic_name")
    "enable-logging requires 'log_topic_id' or 'log_topic_name'"
  return enableLogging group stream

def createTransferSchema : Json :=
  ofType "create-lts-log-transfer" [("log_transfer_type", text),
    ("log_transfer_mode", oneOf ["cycle", "realTime"]),
    ("log_transfer_status", oneOf ["ENABLE", "DISABLE"]),
    ("log_storage_format", oneOf ["JSON", "RAW"]),
    ("obs_period", .obj [("type", .string "integer"), ("minimum", .nat 1)]),
    ("obs_period_unit", oneOf ["min", "hour"]), ("obs_bucket_name", text)] ["obs_bucket_name"]

/-- What the transfer jobs of a block do, with defaults for what it leaves out. -/
def transferInfo (block : Json) (bucket : String) : Json :=
  let text (key default : String) : Json := .string ((block.someTextOption? key).getD default)
  let period := (block.numberOption "obs_period" .zero).toInt64
  .obj [("log_transfer_type", text "log_transfer_type" "OBS"),
    ("log_transfer_mode", text "log_transfer_mode" "cycle"),
    ("log_transfer_status", text "log_transfer_status" "ENABLE"),
    ("log_storage_format", text "log_storage_format" "JSON"),
    ("log_transfer_detail", .obj [("obs_period", .int (if 0 < period then period else 2)),
      ("obs_period_unit", text "obs_period_unit" "min"), ("obs_bucket_name", .string bucket)])]

def transferJob (info : Json) (group stream : String) : Json :=
  .obj [("log_group_id", .string group),
    ("log_streams", .array [.obj [("log_stream_id", .string stream)]]),
    ("log_transfer_info", info)]

/-- Create the job for a load balancer's log stream, unless it is among those `created`. -/
def transferStep (info : Json) (created : List String) (r : Resource) :
    CloudM (Step × List String) := do
  if !Filter.isLogging r then return (.refused "access logging is not enabled", created)
  let stream := (r.text? "log_topic_id").getD ""
  if stream ∈ created then return (.done, created)
  Cloud.createTransfer (transferJob info ((r.text? "log_group_id").getD "") stream)
  return (.done, stream :: created)

/-- One transfer job per log stream. -/
def createTransfers (info : Json) : Action where
  name := "create-lts-log-transfer"
  process := fun _ resources =>
    eachWith (transferStep info) [] { action := "create-lts-log-transfer" } resources

def buildCreateTransfers (block : Json) (context : BuildContext) : Except Error Action := do
  let bucket ← context.require (block.someTextOption? "obs_bucket_name")
    "create-lts-log-transfer requires 'obs_bucket_name'"
  return createTransfers (transferInfo block bucket)

/-! ### Listeners -/

def deleteListenerSchema : Json := ofType "delete" [("loadbalancers", textList)] []

/-- The first load balancer of a listener. -/
def owner? (r : Resource) : Option String :=
  (itemsOf r "loadbalancers").head?.bind fun balancer => balancer.stringField? "id"

/-- Delete a listener with its default pool; a pool that cannot be deleted is left. -/
def deleteListenerStep (balancers : List String) (r : Resource) : CloudM Step := do
  if !balancers.isEmpty && !(owner? r).any (· ∈ balancers) then return .skipped
  match (r.text? "default_pool_id").filter fun pool => !pool.isEmpty with
  | some pool => tryCatch (Cloud.deletePool pool) fun _ => return
  | none => pure ()
  Cloud.deleteListener r.id
  return .done

/-- Delete the listeners of the given load balancers, or all of them when none is given. -/
def deleteListener (balancers : List String) : Action :=
  ofStep "delete" fun _ r => deleteListenerStep balancers r

def accessControlSchema : Json :=
  ofType "set-acl-ipgroup" [("ipgroup_id", textList), ("ipgroup_name", textList),
    ("enable", boolean), ("ipgroup_type", oneOf ["white", "black"])] ["ipgroup_type"]

/-- The identifiers of the address groups that are named by identifier or by name. -/
def selectedGroups (ids names : List String) (groups : List Json) : List String :=
  let selected := groups.filter fun group =>
    (group.stringField? "id").any (· ∈ ids) || (group.stringField? "name").any (· ∈ names)
  selected.filterMap fun group => group.stringField? "id"

/-- Bind address groups, which are looked up first, to the listeners. -/
def setAccessControl (ids names : List String) (enabled : Bool) (kind : AddressGroupKind) :
    Action where
  name := "set-acl-ipgroup"
  process := fun context resources => do
    if resources.isEmpty then return { action := "set-acl-ipgroup" }
    let selected := selectedGroups ids names (← Cloud.listAddressGroups)
    if selected.isEmpty then
      throw (.execution ("set-acl-ipgroup: no IP group matches ids " ++ Text.quotedList ids
        ++ " or names " ++ Text.quotedList names))
    (ofCall "set-acl-ipgroup" fun r =>
      Cloud.updateListenerAddressGroups r.id ⟨selected, enabled, kind⟩).process context resources

def addressGroupKind? (block : Json) : Option AddressGroupKind :=
  match block.textOption? "ipgroup_type" with
  | some "white" => some .white
  | some "black" => some .black
  | _ => none

def buildSetAccessControl (block : Json) (context : BuildContext) : Except Error Action := do
  let ids := block.textsOption "ipgroup_id"
  let names := block.textsOption "ipgroup_name"
  if ids.isEmpty && names.isEmpty then
    context.reject "set-acl-ipgroup requires 'ipgroup_id' or 'ipgroup_name'"
  else
    let kind ← context.require (addressGroupKind? block)
      "set-acl-ipgroup requires 'ipgroup_type' of white or black"
    return setAccessControl ids names (block.boolOption "enable" true) kind

/-- Redirect an HTTP listener to the first HTTPS listener that the target accepts. The listeners are
looked up for the first HTTP listener, and kept. -/
def redirectStep (target : RedirectTarget) (listeners : Option (List Resource)) (r : Resource) :
    CloudM (Step × Option (List Resource)) := do
  if r.text? "protocol" ≠ some "HTTP" then return (.skipped, listeners)
  let known ← match listeners with
    | some known => pure known
    | none => Cloud.list .listener
  match known.find? target.accepts with
  | none => return (.refused ("no HTTPS listener matches " ++ target.shown), some known)
  | some redirect =>
    Cloud.createRedirectPolicy r.id redirect.id
    return (.done, some known)

def redirectToHttps (target : RedirectTarget) : Action where
  name := "redirect-to-https-listener"
  process := fun _ resources =>
    eachWith (redirectStep target) none { action := "redirect-to-https-listener" } resources

end Action

end CloudPolicy
