import CloudPolicy.Cloud.Records

/-! The services around load balancers: balancers and listeners with their public addresses, and the
log service that keeps their access logs. -/

namespace CloudPolicy

/-- Whether the access control of a listener lets its address groups in or keeps them out. -/
inductive AddressGroupKind where
  | white
  | black
  deriving DecidableEq, Repr, Inhabited

def AddressGroupKind.name : AddressGroupKind → String
  | white => "white"
  | black => "black"

/-- The access control of a listener. -/
structure ListenerAddressGroups where
  ids : List String
  enabled : Bool
  kind : AddressGroupKind
  deriving DecidableEq, Repr, Inhabited

def ListenerAddressGroups.toJson (groups : ListenerAddressGroups) : Json :=
  .obj [("ipgroup_id", .string (Text.join "," groups.ids)),
    ("enable_ipgroup", .bool groups.enabled), ("type", .string groups.kind.name)]

namespace Cloud

def memberCount (balancer : String) : CloudM Nat := do
  enter "elb" "member_count" balancer
  return ((← get).members.get? balancer).getD 0

def deleteLoadBalancer (balancer : String) : CloudM Unit :=
  remove "elb" "delete_loadbalancer_cascade" .loadBalancer "id" balancer

def removeIpv6Bandwidth (balancer : String) : CloudM Unit :=
  enter "elb" "remove_ipv6_bandwidth" balancer

def disassociatePublicAddress (address : String) : CloudM Unit :=
  enter "eip" "disassociate_publicip" address

def disassociateGlobalAddress (address : String) : CloudM Unit :=
  enter "geip" "disassociate_global_eip" address

def deletePool (pool : String) : CloudM Unit := enter "elb" "delete_pool_cascade" pool

def deleteListener (listener : String) : CloudM Unit :=
  remove "elb" "delete_listener_force" .listener "id" listener

/-- Send the access log of a load balancer to a log stream. -/
def bindAccessLog (balancer group stream : String) : CloudM Unit :=
  updateRecord "elb" "create_logtank" .loadBalancer balancer fun r =>
    (r.set "log_group_id" (.string group)).set "log_topic_id" (.string stream)

def listAddressGroups : CloudM (List Json) := do
  enter "elb" "list_ip_groups" anyTarget
  return (← get).ipGroups

def updateListenerAddressGroups (listener : String) (groups : ListenerAddressGroups) :
    CloudM Unit :=
  updateRecord "elb" "update_listener_ipgroup" .listener listener fun r =>
    r.set "ipgroup" groups.toJson

def forwardingPoliciesOf (cloud : Cloud) (listener : String) : List Json :=
  (cloud.forwardingPolicies.get? listener).getD []

def listForwardingPolicies (listener : String) : CloudM (List Json) := do
  enter "elb" "list_l7_policies" listener
  return (← get).forwardingPoliciesOf listener

/-- Redirect a listener to another one. -/
def createRedirectPolicy (listener target : String) : CloudM Unit := do
  enter "elb" "create_redirect_policy" listener
  let policies := (← get).forwardingPoliciesOf listener
  let id := "l7-" ++ listener ++ "-" ++ Nat.repr (policies.length + 1)
  let policy : Json := .obj [("id", .string id), ("action", .string "REDIRECT_TO_LISTENER"),
    ("listener_id", .string listener), ("redirect_listener_id", .string target)]
  modify fun cloud =>
    { cloud with
      forwardingPolicies := cloud.forwardingPolicies.insert listener (policies ++ [policy]) }

def listLogGroups : CloudM (List Json) := do
  enter "lts" "list_log_groups" anyTarget
  return (← get).logGroups

def listLogStreams (group : String) : CloudM (List Json) := do
  enter "lts" "list_log_streams" group
  return ((← get).logStreams.get? group).getD []

def listTransfers : CloudM (List Json) := do
  enter "lts" "list_transfers" anyTarget
  return (← get).transfers

/-- Add a transfer job; the call names the log group of the job. -/
def createTransfer (transfer : Json) : CloudM Unit := do
  enter "lts" "create_transfer" ((transfer.stringField? "log_group_id").getD "")
  modify fun cloud => { cloud with transfers := cloud.transfers ++ [transfer] }

end Cloud

end CloudPolicy
