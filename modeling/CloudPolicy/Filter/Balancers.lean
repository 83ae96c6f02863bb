import CloudPolicy.Cloud.Balancing
import CloudPolicy.Filter.Values
import CloudPolicy.Number.Shortest
import CloudPolicy.Text.Quoted

/-! Filters on load balancers and listeners: counts of public addresses and of backend members,
access logs and their transfer, and redirection to HTTPS. -/

namespace CloudPolicy

/-- The HTTPS listener that a redirection has to point at; criteria that are not set hold of any. -/
structure RedirectTarget where
  id : Option String := none
  name : Option String := none
  port : Option Binary64 := none
  deriving DecidableEq, Repr, Inhabited

namespace RedirectTarget

def ofBlock (block : Json) : RedirectTarget where
  id := block.someTextOption? "id"
  name := block.someTextOption? "name"
  port := block.numberOption? "port"

def properties : List (String × Json) :=
  [("id", BlockSchema.text), ("name", BlockSchema.text),
    ("port", .obj [("type", .string "number"), ("minimum", .nat 0)])]

/-- The listener is an HTTPS listener and meets the criteria. -/
def accepts (target : RedirectTarget) (listener : Resource) : Bool :=
  listener.text? "protocol" = some "HTTPS"
    && target.id.all (fun id => listener.id = id)
    && target.name.all (fun name => listener.text? "name" = some name)
    && target.port.all (fun port =>
      ((listener.get? "protocol_port").bind Json.float?).any (·.equal port))

/-- The criteria as they are shown in messages. -/
def shown (target : RedirectTarget) : String :=
  let port := match target.port with
    | some port => "Some(" ++ String.ofList (Number.floatText .diagnostic port) ++ ")"
    | none => "None"
  "RedirectTarget \x7b id: " ++ Text.quotedOption target.id ++ ", name: "
    ++ Text.quotedOption target.name ++ ", port: " ++ port ++ " \x7d"

end RedirectTarget

namespace Filter

open BlockSchema

/-! ### Counts -/

/-- The addresses and bandwidths bound to a load balancer. -/
def publicAddresses (r : Resource) : Nat :=
  (["eips", "ipv6_bandwidth", "global_eips"].map fun key =>
    match r.get? key with
    | some (.array items) => items.length
    | some (.object fields) => if fields.isEmpty then 0 else 1
    | _ => 0).foldl (· + ·) 0

def publicAddressCount (operator : Operator) (count : Binary64) : Filter :=
  ofTest "publicip-count" fun _ r => operator.compareNumbers (.ofNat (publicAddresses r)) count

def buildPublicAddressCount (block : Json) (context : BuildContext) : Except Error Filter := do
  let (operator, count) ← countOptions block context 0
  return publicAddressCount operator count

def backendCount (operator : Operator) (count : Binary64) : Filter where
  name := "backend-server-count"
  process := fun _ resources => keepM (fun r => do
    let members ← Cloud.memberCount r.id
    return operator.compareNumbers (.ofNat members) count) resources

def buildBackendCount (block : Json) (context : BuildContext) : Except Error Filter := do
  let (operator, count) ← countOptions block context 0
  return backendCount operator count

/-! ### Access logs -/

/-- The field holds a text that is not blank. -/
def isSet (r : Resource) (key : String) : Bool :=
  (r.text? key).any fun text => !(Text.trim text.toList).isEmpty

/-- A load balancer logs accesses when both its log group and its log stream are set. -/
def isLogging (r : Resource) : Bool := isSet r "log_group_id" && isSet r "log_topic_id"

def logging (name : String) (expected : Bool) : Filter :=
  ofTest name fun _ r => isLogging r == expected

/-- The streams that some transfer job reads. -/
def transferredStreams (transfers : List Json) : List String :=
  transfers.flatMap fun transfer =>
    (((transfer.field? "log_streams").bind Json.array?).getD []).filterMap fun stream =>
      stream.stringField? "log_stream_id"

/-- The stream of a load balancer's access log is transferred. Transfers are looked up for the first
load balancer that logs, and kept. -/
def keepTransferred (expected : Bool) : Option (List String) → List Resource →
    CloudM (List Resource)
  | _, [] => return []
  | streams, r :: rest =>
    if isLogging r then do
      let streams ← match streams with
        | some streams => pure streams
        | none => pure (transferredStreams (← Cloud.listTransfers))
      let kept ← keepTransferred expected (some streams) rest
      let transferred := (r.text? "log_topic_id").any (· ∈ streams)
      return if transferred == expected then r :: kept else kept
    else do
      let kept ← keepTransferred expected streams rest
      return if expected then kept else r :: kept

/-- Load balancers whose log stream is transferred, or all the others. -/
def transferred (expected : Bool) : Filter where
  name := if expected then "is-lts-log-transfer" else "is-not-lts-log-transfer"
  process := fun _ resources => keepTransferred expected none resources

/-! ### Redirection to HTTPS -/

def redirectAction : String := "REDIRECT_TO_LISTENER"

/-- Some policy redirects to one of the listeners that the target accepts. -/
def redirects (target : RedirectTarget) (policies : List Json) (listeners : List Resource) : Bool :=
  policies.any fun policy =>
    policy.stringField? "action" = some redirectAction &&
      ((policy.stringField? "redirect_listener_id").bind fun id =>
        listeners.find? (·.id = id)).any target.accepts

/-- Keep the HTTP listeners that redirect. All listeners are looked up for the first listener with a
policy, and kept. -/
def keepRedirecting (target : RedirectTarget) : Option (List Resource) → List Resource →
    CloudM (List Resource)
  | _, [] => return []
  | listeners, r :: rest =>
    if r.text? "protocol" = some "HTTP" then do
      let policies ← Cloud.listForwardingPolicies r.id
      if policies.isEmpty then keepRedirecting target listeners rest
      else
        let listeners ← match listeners with
          | some listeners => pure listeners
          | none => Cloud.list .listener
        let kept ← keepRedirecting target (some listeners) rest
        return if redirects target policies listeners then r :: kept else kept
    else keepRedirecting target listeners rest

def redirecting (target : RedirectTarget) : Filter where
  name := "is-redirect-to-https-listener"
  process := fun _ resources => keepRedirecting target none resources

end Filter

end CloudPolicy
