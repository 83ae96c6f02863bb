import CloudPolicy.Cloud.Basic
import CloudPolicy.Resource.Path

/-! Listing, removing and changing stored records, the tag service, and the look-up of subnets and
security groups. -/

namespace CloudPolicy.Cloud

/-- All stored records of a type. -/
def list (type : ResourceType) : CloudM (List Resource) := do
  enter "resources" "list" type.name
  return (← get).resources type

/-- The record has the identifier `target`, or `target` in the field `urnField`. -/
def addressedBy (urnField target : String) (r : Resource) : Bool :=
  r.id = target ∨ r.text? urnField = some target

/-- Remove the records that `target` addresses; there has to be one. -/
def remove (service operation : String) (type : ResourceType) (urnField target : String) :
    CloudM Unit := do
  enter service operation target
  let stored := (← get).resources type
  let left := stored.filter fun r => !addressedBy urnField target r
  modify (·.setResources type left)
  if left.length = stored.length then throw (notFound service operation target)

/-- Change the record with the identifier `target`; there has to be one. -/
def updateRecord (service operation : String) (type : ResourceType) (target : String)
    (f : Resource → Resource) : CloudM Unit := do
  enter service operation target
  let stored := (← get).resources type
  if stored.any fun r => r.id = target then
    modify fun cloud => cloud.setResources type (updateFirst (·.id = target) f stored)
  else throw (notFound service operation target)

/-- The type of resources that the tag service knows under a name. -/
def tagType? (name : String) : Option ResourceType :=
  ResourceType.all.find? fun type => type.tagServiceName? = some name

/-- Change the tags of a record. -/
def retag (f : TagSet → TagSet) (r : Resource) : Resource := r.set "tags" (f r.tags).toJson

/-- Change the tags of the resources `ids` in `stored` one after the other, and report those that
are refused or not there. -/
def retagAll (f : TagSet → TagSet) (rejected : List String) :
    List String → List Resource → List FailedResource × List Resource
  | [], stored => ([], stored)
  | id :: ids, stored =>
    if id ∈ rejected then
      let (failed, stored) := retagAll f rejected ids stored
      (⟨id, "tag quota exceeded"⟩ :: failed, stored)
    else if stored.any fun r => r.id = id then
      retagAll f rejected ids (updateFirst (·.id = id) (retag f) stored)
    else
      let (failed, stored) := retagAll f rejected ids stored
      (⟨id, "resource not found"⟩ :: failed, stored)

/-- Change the tags of a batch of resources. A name that the tag service does not know is refused
before the call. -/
def writeTags (operation tagTypeName : String) (ids : List String) (f : TagSet → TagSet) :
    CloudM (List FailedResource) := do
  match tagType? tagTypeName with
  | none => throw (.serviceCall "tms" "tags" ("unknown tag resource type '" ++ tagTypeName ++ "'"))
  | some type =>
    enter "tms" operation (Text.join "," ids)
    let cloud ← get
    let (failed, stored) := retagAll f cloud.rejectedTagTargets ids (cloud.resources type)
    set (cloud.setResources type stored)
    return failed

/-- Set tags on a batch of resources. -/
def createTags (tagTypeName : String) (ids : List String) (tags : TagSet) :
    CloudM (List FailedResource) :=
  writeTags "create_tags" tagTypeName ids fun current => current.insertAll tags.toList

/-- Remove tags by their keys from a batch of resources. -/
def deleteTags (tagTypeName : String) (ids keys : List String) : CloudM (List FailedResource) :=
  writeTags "delete_tags" tagTypeName ids fun current => current.filterKeys fun key => key ∉ keys

/-- The subnets with the given identifiers; unknown ones are left out. -/
def subnetsOf (ids : List String) : CloudM (List Resource) := do
  enter "vpc" "subnets" (Text.join "," ids)
  return (← get).subnets.filter fun r => r.id ∈ ids

/-- The security groups with the given identifiers; unknown ones are left out. -/
def securityGroupsOf (ids : List String) : CloudM (List Resource) := do
  enter "vpc" "security_groups" (Text.join "," ids)
  return (← get).securityGroups.filter fun r => r.id ∈ ids

end CloudPolicy.Cloud
