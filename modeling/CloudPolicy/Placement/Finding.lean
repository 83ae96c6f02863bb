import CloudPolicy.Json.Record

/-! Findings on the network placement of a resource: why it is inconsistent, and with which values
of its attachments. -/

namespace CloudPolicy

/-- Why a placement is inconsistent. -/
inductive LocationReason where
  | subnetLocationAbsent
  | subnetLocationCardinality
  | securityGroupLocationAbsent
  | securityGroupLocationCardinality
  | locationMismatch
  | resourceLocationAbsent
  | resourceLocationMismatch
  | securityGroupMismatch
  deriving DecidableEq, Repr, Inhabited

namespace LocationReason

def all : List LocationReason :=
  [subnetLocationAbsent, subnetLocationCardinality, securityGroupLocationAbsent,
    securityGroupLocationCardinality, locationMismatch, resourceLocationAbsent,
    resourceLocationMismatch, securityGroupMismatch]

def name : LocationReason → String
  | subnetLocationAbsent => "SubnetLocationAbsent"
  | subnetLocationCardinality => "SubnetLocationCardinality"
  | securityGroupLocationAbsent => "SecurityGroupLocationAbsent"
  | securityGroupLocationCardinality => "SecurityGroupLocationCardinality"
  | locationMismatch => "LocationMismatch"
  | resourceLocationAbsent => "ResourceLocationAbsent"
  | resourceLocationMismatch => "ResourceLocationMismatch"
  | securityGroupMismatch => "SecurityGroupMismatch"

def ofName? (name : String) : Option LocationReason := all.find? fun reason => reason.name = name

/-- The place in the order of reasons. -/
def rank : LocationReason → Nat
  | subnetLocationAbsent => 0
  | subnetLocationCardinality => 1
  | securityGroupLocationAbsent => 2
  | securityGroupLocationCardinality => 3
  | locationMismatch => 4
  | resourceLocationAbsent => 5
  | resourceLocationMismatch => 6
  | securityGroupMismatch => 7

theorem ofName?_name (reason : LocationReason) : ofName? reason.name = some reason := by
  cases reason <;> rfl

end LocationReason

/-- The value of each attachment, by its identifier; an attachment may lack one. -/
abbrev ValueMap := StringMap (Option String)

/-- One inconsistency, with the values of the attachments that show it. The resource's own value, or
its absence, is given for reasons about the resource. -/
structure LocationFinding where
  reason : LocationReason
  subnets : Option ValueMap := none
  securityGroups : Option ValueMap := none
  resource : Option (Option String) := none
  deriving DecidableEq, Repr, Inhabited

namespace LocationFinding

def valuesToJson (values : ValueMap) : Json := .object (values.map Json.ofString?)

def text? : Json → Option (Option String)
  | .null => some none
  | .string text => some (some text)
  | _ => none

def valuesOfJson? : Json → Option ValueMap := Json.mapOf? text?

def toJson (finding : LocationFinding) : Json :=
  .obj ([("reason", .string finding.reason.name)]
    ++ (finding.subnets.map fun values => ("subnets", valuesToJson values)).toList
    ++ (finding.securityGroups.map fun values => ("security-groups", valuesToJson values)).toList
    ++ (finding.resource.map fun value => ("resource", Json.ofString? value)).toList)

def fieldNames : List String := ["reason", "subnets", "security-groups", "resource"]

/-- A resource without a value and a finding without a resource are read alike: null is no value. -/
def ofJson? (j : Json) : Option LocationFinding := do
  let fields ← j.openRecord? fieldNames
  let reason ← Json.required? fields "reason" fun value =>
    (Json.variantName? value).bind LocationReason.ofName?
  let subnets ← Json.optional? fields "subnets" valuesOfJson?
  let securityGroups ← Json.optional? fields "security-groups" valuesOfJson?
  let resource ← Json.optional? fields "resource" Json.string?
  some { reason, subnets, securityGroups, resource := resource.map some }

end LocationFinding

end CloudPolicy
