import CloudPolicy.Json.Record

/-! Events of the audit trail, which trigger event-driven policies. -/

namespace CloudPolicy

/-- The kinds of actors that a policy can name. -/
inductive UserType where
  | iamUser
  | assumedRole
  | federatedUser
  deriving DecidableEq, Repr, Inhabited

namespace UserType

def all : List UserType := [iamUser, assumedRole, federatedUser]

def name : UserType → String
  | iamUser => "IAMUser"
  | assumedRole => "AssumedRole"
  | federatedUser => "FederatedUser"

def ofName? (name : String) : Option UserType := all.find? fun type => type.name = name

def ofJson? (j : Json) : Option UserType := (Json.variantName? j).bind ofName?

end UserType

/-- The actor of an event. The kind is a text, for a trail may name kinds that no policy knows. -/
structure EventUser where
  userType : String := ""
  name : Option String := none
  principalId : Option String := none
  deriving DecidableEq, Repr, Inhabited

namespace EventUser

def knownType? (user : EventUser) : Option UserType := UserType.ofName? user.userType

def fieldNames : List String := ["type", "name", "principal_id"]

def ofJson? (j : Json) : Option EventUser := do
  let fields ← j.openRecord? fieldNames
  let userType ← Json.required? fields "type" Json.string?
  let name ← Json.optional? fields "name" Json.string?
  let principalId ← Json.optional? fields "principal_id" Json.string?
  some { userType, name, principalId }

def toJson (user : EventUser) : Json :=
  .obj [("type", .string user.userType), ("name", .ofString? user.name),
    ("principal_id", .ofString? user.principalId)]

end EventUser

/-- One event and the identifiers of the resources that it touched. -/
structure Event where
  user : EventUser := {}
  sourceIp : Option String := none
  eventName : Option String := none
  resourceIds : List String := []
  deriving DecidableEq, Repr, Inhabited

namespace Event

def fieldNames : List String := ["user", "source_ip", "event_name", "resource_ids"]

def ofJson? (j : Json) : Option Event := do
  let fields ← j.openRecord? fieldNames
  let user ← Json.required? fields "user" EventUser.ofJson?
  let sourceIp ← Json.optional? fields "source_ip" Json.string?
  let eventName ← Json.optional? fields "event_name" Json.string?
  let resourceIds ← Json.defaulted? fields "resource_ids" (Json.listOf? Json.string?) []
  some { user, sourceIp, eventName, resourceIds }

def toJson (event : Event) : Json :=
  .obj [("user", event.user.toJson), ("source_ip", .ofString? event.sourceIp),
    ("event_name", .ofString? event.eventName), ("resource_ids", .strings event.resourceIds)]

end Event

end CloudPolicy
