import CloudPolicy.Cloud.Basic
import CloudPolicy.Json.Printer
import CloudPolicy.Json.Reader

/-! Fixtures: the written contents of a cloud. -/

namespace CloudPolicy

/-- The contents of a cloud, with records by the names of their types. -/
structure Fixture where
  region : Option String := none
  resources : StringMap (List Json) := ∅
  subnets : List Json := []
  securityGroups : List Json := []
  members : StringMap Nat := ∅
  triggers : StringMap (Option (List Json)) := ∅
  functionConfigs : StringMap Json := ∅
  logtanks : StringMap (List Json) := ∅
  accessPolicies : StringMap String := ∅
  logGroups : List Json := []
  logStreams : StringMap (List Json) := ∅
  transfers : List Json := []
  ipGroups : List Json := []
  forwardingPolicies : StringMap (List Json) := ∅
  reservedInstances : StringMap (List Json) := ∅
  versions : StringMap (List Json) := ∅
  aliases : StringMap (List Json) := ∅
  deriving Repr, Inhabited

namespace Fixture

def fieldNames : List String :=
  ["region", "resources", "subnets", "security_groups", "members", "triggers", "function_configs",
    "logtanks", "access_policies", "log_groups", "log_streams", "transfers", "ip_groups",
    "l7_policies", "reserved_instances", "versions", "aliases"]

def value? (j : Json) : Option Json := some j.normalize

def values? : Json → Option (List Json) := Json.listOf? value?

def lists? : Json → Option (StringMap (List Json)) := Json.mapOf? values?

def ofJson? (j : Json) : Option Fixture := do
  let fields ← j.closedRecord? fieldNames
  let region ← Json.optional? fields "region" Json.string?
  let resources ← Json.defaulted? fields "resources" lists? ∅
  let subnets ← Json.defaulted? fields "subnets" values? []
  let securityGroups ← Json.defaulted? fields "security_groups" values? []
  let members ← Json.defaulted? fields "members" (Json.mapOf? Json.nat?) ∅
  let triggers ← Json.defaulted? fields "triggers" (Json.mapOf? (Json.nullable? values?)) ∅
  let functionConfigs ← Json.defaulted? fields "function_configs" (Json.mapOf? value?) ∅
  let logtanks ← Json.defaulted? fields "logtanks" lists? ∅
  let accessPolicies ← Json.defaulted? fields "access_policies" (Json.mapOf? Json.string?) ∅
  let logGroups ← Json.defaulted? fields "log_groups" values? []
  let logStreams ← Json.defaulted? fields "log_streams" lists? ∅
  let transfers ← Json.defaulted? fields "transfers" values? []
  let ipGroups ← Json.defaulted? fields "ip_groups" values? []
  let forwardingPolicies ← Json.defaulted? fields "l7_policies" lists? ∅
  let reservedInstances ← Json.defaulted? fields "reserved_instances" lists? ∅
  let versions ← Json.defaulted? fields "versions" lists? ∅
  let aliases ← Json.defaulted? fields "aliases" lists? ∅
  some { region, resources, subnets, securityGroups, members, triggers, functionConfigs, logtanks,
         accessPolicies, logGroups, logStreams, transfers, ipGroups, forwardingPolicies,
         reservedInstances, versions, aliases }

/-- Read a fixture from its text, in which no field stands twice. -/
def ofText (text : String) : Except Error Fixture :=
  match (Json.readWritten? text.toList).filter (·.writtenOnce fieldNames) |>.bind ofJson? with
  | some fixture => .ok fixture
  | none => .error (.configuration "failed to parse sandbox fixture")

end Fixture

namespace Cloud

/-- Add records of a type. -/
def withResources (cloud : Cloud) (type : ResourceType) (records : List Json) : Cloud :=
  cloud.setResources type (cloud.resources type ++ records.map Resource.ofRecord)

/-- A cloud with the contents of a fixture. Every type name has to be known. -/
def ofFixture (fixture : Fixture) : Except Error Cloud :=
  let empty : Cloud :=
    { region := fixture.region.getD "cn-north-4"
      subnets := fixture.subnets.map Resource.ofRecord
      securityGroups := fixture.securityGroups.map Resource.ofRecord
      members := fixture.members
      triggers := fixture.triggers
      functionConfigs := fixture.functionConfigs
      logtanks := fixture.logtanks
      accessPolicies := fixture.accessPolicies
      logGroups := fixture.logGroups
      logStreams := fixture.logStreams
      transfers := fixture.transfers
      ipGroups := fixture.ipGroups
      forwardingPolicies := fixture.forwardingPolicies
      reservedInstances := fixture.reservedInstances
      versions := fixture.versions
      aliases := fixture.aliases }
  fixture.resources.entries.foldlM (fun cloud e => do
    return cloud.withResources (← ResourceType.ofName e.1) e.2) empty

/-! ### Filling a cloud piece by piece -/

def withSubnets (cloud : Cloud) (records : List Json) : Cloud :=
  { cloud with subnets := cloud.subnets ++ records.map Resource.ofRecord }

def withSecurityGroups (cloud : Cloud) (records : List Json) : Cloud :=
  { cloud with securityGroups := cloud.securityGroups ++ records.map Resource.ofRecord }

def withMembers (cloud : Cloud) (balancer : String) (count : Nat) : Cloud :=
  { cloud with members := cloud.members.insert balancer count }

def withTriggers (cloud : Cloud) (function : String) (triggers : Option (List Json)) : Cloud :=
  { cloud with triggers := cloud.triggers.insert function triggers }

def withFunctionConfig (cloud : Cloud) (function : String) (config : Json) : Cloud :=
  { cloud with functionConfigs := cloud.functionConfigs.insert function config }

def withLogtanks (cloud : Cloud) (topic : String) (logtanks : List Json) : Cloud :=
  { cloud with logtanks := cloud.logtanks.insert topic logtanks }

def withAccessPolicy (cloud : Cloud) (topic : String) (policy : Json) : Cloud :=
  { cloud with accessPolicies := cloud.accessPolicies.insert topic policy.text }

/-- Add a log group; its streams are kept when the group has an identifier. -/
def withLogGroup (cloud : Cloud) (group : Json) (streams : List Json) : Cloud :=
  { cloud with
    logGroups := cloud.logGroups ++ [group]
    logStreams := match group.stringField? "log_group_id" with
      | some id => cloud.logStreams.insert id streams
      | none => cloud.logStreams }

def withTransfers (cloud : Cloud) (transfers : List Json) : Cloud :=
  { cloud with transfers := cloud.transfers ++ transfers }

def withAddressGroups (cloud : Cloud) (groups : List Json) : Cloud :=
  { cloud with ipGroups := cloud.ipGroups ++ groups }

def withForwardingPolicies (cloud : Cloud) (listener : String) (policies : List Json) : Cloud :=
  { cloud with forwardingPolicies := cloud.forwardingPolicies.insert listener policies }

def withReservedInstances (cloud : Cloud) (function : String) (configs : List Json) : Cloud :=
  { cloud with reservedInstances := cloud.reservedInstances.insert function configs }

def withVersions (cloud : Cloud) (function : String) (versions aliases : List Json) : Cloud :=
  { cloud with
    versions := cloud.versions.insert function versions
    aliases := cloud.aliases.insert function aliases }

end Cloud

end CloudPolicy
