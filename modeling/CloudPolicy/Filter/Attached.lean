import CloudPolicy.Cloud.Records
import CloudPolicy.Filter.Values

/-! The network attachments of resources, and filters that test them with a predicate. Attachments
are looked up once for a whole batch. -/

namespace CloudPolicy

/-- The kinds of network attachments. -/
inductive Attachment where
  | subnet
  | securityGroup
  deriving DecidableEq, Repr, Inhabited

namespace Attachment

def name : Attachment → String
  | subnet => "subnet"
  | securityGroup => "security-group"

/-- The annotation that lists the attachments that matched. -/
def annotation : Attachment → String
  | subnet => "matched-subnets"
  | securityGroup => "matched-security-groups"

/-- The keys under which a resource lists its attachments. -/
def keys : Attachment → ResourceType → List String
  | subnet, .loadBalancer => ["vip_subnet_cidr_id", "elb_virsubnet_ids"]
  | subnet, .function => ["func_vpc.subnet_id"]
  | securityGroup, .function => ["func_vpc.security_groups"]
  | _, _ => []

/-- Add the texts that are not there yet. -/
def addNew (known new : List String) : List String :=
  new.foldl (fun known id => if id ∈ known then known else known ++ [id]) known

/-- The different attachments that a resource lists, in their order. -/
def ids (attachment : Attachment) (type : ResourceType) (r : Resource) : List String :=
  (attachment.keys type).foldl (fun known key => addNew known (r.textList key)) []

/-- The different attachments that a batch lists. -/
def batchIds (attachment : Attachment) (type : ResourceType) (resources : List Resource) :
    List String :=
  resources.foldl (fun known r => addNew known (attachment.ids type r)) []

/-- Look attachments up in the network service. -/
def lookUp (ids : List String) : Attachment → CloudM (List Resource)
  | subnet => Cloud.subnetsOf ids
  | securityGroup => Cloud.securityGroupsOf ids

/-- The attachments that a batch lists and the network service knows, by their identifiers. There is
no call when the batch lists none. -/
def fetch (attachment : Attachment) (type : ResourceType) (resources : List Resource) :
    CloudM (StringMap Resource) := do
  let ids := attachment.batchIds type resources
  if ids.isEmpty then return ∅
  let found ← attachment.lookUp ids
  return .ofList (found.map fun r => (r.id, r))

/-- The known attachments of a resource. -/
def known (attachment : Attachment) (type : ResourceType) (fetched : StringMap Resource)
    (r : Resource) : List Resource :=
  (attachment.ids type r).filterMap fetched.get?

end Attachment

namespace Filter

open BlockSchema

def attachedSchema (attachment : Attachment) : Json :=
  ofType attachment.name (valueProperties ++ [("operator", oneOf ["or", "and"])]) ["key"]

/-- Keep a resource when one of its known attachments satisfies the predicate, or when all do and
there is one. -/
def keepAttached (attachment : Attachment) (p : Predicate) (all : Bool) (type : ResourceType)
    (fetched : StringMap Resource) (r : Resource) : Option Resource :=
  let known := attachment.known type fetched r
  let matching := known.filter p.holds
  if known.isEmpty then none
  else if if all then matching.length = known.length else !matching.isEmpty then
    some (r.annotate attachment.annotation (.strings (matching.map (·.id))))
  else none

def attached (attachment : Attachment) (p : Predicate) (all : Bool) : Filter where
  name := attachment.name
  process := fun context resources => do
    let fetched ← attachment.fetch context.resourceType resources
    return resources.filterMap (keepAttached attachment p all context.resourceType fetched)

/-- A block without the field `key`. -/
def dropField (key : String) : Json → Json
  | .object fields => .object (fields.erase key)
  | other => other

def buildAttached (attachment : Attachment) (block : Json) (context : BuildContext) :
    Except Error Filter := do
  let p ← context.rejecting (Predicate.ofBlock (dropField "operator" block))
  return attached attachment p (block.textOption? "operator" = some "and")

end Filter

end CloudPolicy
