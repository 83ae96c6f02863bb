import CloudPolicy.Cloud.Balancing
import CloudPolicy.Cloud.Topics

/-! The operations that the services of a cloud offer, as data: what is asked for, what is answered,
and what an observer is shown of a cloud beside the answers. -/

namespace CloudPolicy

/-- An operation of a service with its arguments. -/
inductive Operation where
  -- stored records and their tags
  | list (type : ResourceType)
  | createTags (tagTypeName : String) (ids : List String) (tags : TagSet)
  | deleteTags (tagTypeName : String) (ids keys : List String)
  -- networks
  | subnetsOf (ids : List String)
  | securityGroupsOf (ids : List String)
  -- load balancers and listeners
  | memberCount (balancer : String)
  | deleteLoadBalancer (balancer : String)
  | removeIpv6Bandwidth (balancer : String)
  | disassociatePublicAddress (address : String)
  | disassociateGlobalAddress (address : String)
  | deletePool (pool : String)
  | deleteListener (listener : String)
  | bindAccessLog (balancer group stream : String)
  | listAddressGroups
  | updateListenerAddressGroups (listener : String) (groups : ListenerAddressGroups)
  | listForwardingPolicies (listener : String)
  | createRedirectPolicy (listener target : String)
  -- logs
  | listLogGroups
  | listLogStreams (group : String)
  | listTransfers
  | createTransfer (transfer : Json)
  -- functions
  | listTriggers (function : String)
  | deleteFunction (target : String)
  | updateMaxInstances (function : String) (count : Int)
  | showFunctionConfig (function : String)
  | updateFunctionConfig (function : String) (update : Json)
  | listReservedInstances (function : String)
  | listVersions (function : String)
  | listAliases (function : String)
  | invoke (function : String) (invocation : Invocation)
  -- notifications
  | publish (topic : String) (subject : Option String) (body : MessageBody)
  | deleteTopic (topic : String)
  | listLogtanks (topic : String)
  | createLogtank (topic group stream : String)
  | deleteLogtank (topic id : String)
  | accessPolicy (topic : String)
  | updateAccessPolicy (topic : String) (policy : Option String)
  | deleteTopicAttributes (topic : String)
  deriving Inhabited

/-- What an operation answers. -/
inductive Answer where
  | done
  | count (count : Nat)
  | messageId (id : String)
  | policy (text : Option String)
  | value (value : Json)
  | values (values : List Json)
  | triggers (triggers : Option (List Json))
  | records (records : List Resource)
  | refused (failed : List FailedResource)
  deriving Inhabited

namespace Operation

def perform : Operation → CloudM Answer
  | list type => .records <$> Cloud.list type
  | createTags tagTypeName ids tags => .refused <$> Cloud.createTags tagTypeName ids tags
  | deleteTags tagTypeName ids keys => .refused <$> Cloud.deleteTags tagTypeName ids keys
  | subnetsOf ids => .records <$> Cloud.subnetsOf ids
  | securityGroupsOf ids => .records <$> Cloud.securityGroupsOf ids
  | memberCount balancer => .count <$> Cloud.memberCount balancer
  | deleteLoadBalancer balancer => done <$> Cloud.deleteLoadBalancer balancer
  | removeIpv6Bandwidth balancer => done <$> Cloud.removeIpv6Bandwidth balancer
  | disassociatePublicAddress address => done <$> Cloud.disassociatePublicAddress address
  | disassociateGlobalAddress address => done <$> Cloud.disassociateGlobalAddress address
  | deletePool pool => done <$> Cloud.deletePool pool
  | deleteListener listener => done <$> Cloud.deleteListener listener
  | bindAccessLog balancer group stream => done <$> Cloud.bindAccessLog balancer group stream
  | listAddressGroups => .values <$> Cloud.listAddressGroups
  | updateListenerAddressGroups listener groups =>
    done <$> Cloud.updateListenerAddressGroups listener groups
  | listForwardingPolicies listener => .values <$> Cloud.listForwardingPolicies listener
  | createRedirectPolicy listener target => done <$> Cloud.createRedirectPolicy listener target
  | listLogGroups => .values <$> Cloud.listLogGroups
  | listLogStreams group => .values <$> Cloud.listLogStreams group
  | listTransfers => .values <$> Cloud.listTransfers
  | createTransfer transfer => done <$> Cloud.createTransfer transfer
  | listTriggers function => .triggers <$> Cloud.listTriggers function
  | deleteFunction target => done <$> Cloud.deleteFunction target
  | updateMaxInstances function count => done <$> Cloud.updateMaxInstances function count
  | showFunctionConfig function => .value <$> Cloud.showFunctionConfig function
  | updateFunctionConfig function update => done <$> Cloud.updateFunctionConfig function update
  | listReservedInstances function => .values <$> Cloud.listReservedInstances function
  | listVersions function => .values <$> Cloud.listVersions function
  | listAliases function => .values <$> Cloud.listAliases function
  | invoke function invocation => .value <$> Cloud.invoke function invocation
  | publish topic subject body => .messageId <$> Cloud.publish topic subject body
  | deleteTopic topic => done <$> Cloud.deleteTopic topic
  | listLogtanks topic => .values <$> Cloud.listLogtanks topic
  | createLogtank topic group stream => done <$> Cloud.createLogtank topic group stream
  | deleteLogtank topic id => done <$> Cloud.deleteLogtank topic id
  | accessPolicy topic => .policy <$> Cloud.accessPolicy topic
  | updateAccessPolicy topic policy => done <$> Cloud.updateAccessPolicy topic policy
  | deleteTopicAttributes topic => done <$> Cloud.deleteTopicAttributes topic
where
  done (_ : Unit) : Answer := .done

end Operation

/-! ### Sequences -/

/-- What can be done to a cloud: an operation of a service, or one more failure to inject. -/
inductive Move where
  | perform (operation : Operation)
  | failOn (operation target : String)
  | rejectTags (id : String)
  deriving Inhabited

namespace Move

def run (move : Move) (cloud : Cloud) : Except Error Answer × Cloud :=
  match move with
  | perform operation => operation.perform.run cloud
  | failOn operation target => (.ok .done, cloud.failOn operation target)
  | rejectTags id => (.ok .done, cloud.rejectTags id)

/-- Run moves one after the other, the failing ones as well. -/
def runAll : List Move → Cloud → List (Except Error Answer) × Cloud
  | [], cloud => ([], cloud)
  | move :: moves, cloud =>
    let (outcome, cloud) := move.run cloud
    let (outcomes, cloud) := runAll moves cloud
    (outcome :: outcomes, cloud)

end Move

/-! ### Inspection -/

namespace Cloud

/-- What an observer is shown of a cloud, apart from its call log. -/
structure Inspection where
  region : String
  published : List PublishedMessage
  invocations : List (String × Json)
  transfers : List Json
  resource? : ResourceType → String → Option Resource
  tags? : ResourceType → String → Option TagSet
  functionConfig? : String → Option Json
  versionsOf : String → List String
  forwardingPoliciesOf : String → List Json
  logtanksOf : String → List Json
  accessPolicy? : String → Option String

def inspect (cloud : Cloud) : Inspection where
  region := cloud.region
  published := cloud.published
  invocations := cloud.invocations
  transfers := cloud.transfers
  resource? := cloud.resource?
  tags? := fun type id => (cloud.resource? type id).map Resource.tags
  functionConfig? := cloud.functionConfigs.get?
  versionsOf := cloud.versionsOf
  forwardingPoliciesOf := cloud.forwardingPoliciesOf
  logtanksOf := cloud.logtanksOf
  accessPolicy? := cloud.accessPolicies.get?

end Cloud

end CloudPolicy
