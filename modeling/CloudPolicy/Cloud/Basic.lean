import CloudPolicy.Report
import CloudPolicy.Resource.Basic

/-! The cloud that policies act on: what its services store, the calls they received, and failures
to inject. An operation of a service is a step from cloud to cloud that may fail; of a failed
operation nothing but its call can be told afterwards. -/

namespace CloudPolicy

/-- One call of a service. -/
structure ServiceCall where
  service : String
  operation : String
  target : String
  deriving DecidableEq, Repr, Inhabited

def ServiceCall.toJson (call : ServiceCall) : Json :=
  .obj [("service", .string call.service), ("operation", .string call.operation),
    ("target", .string call.target)]

/-- A message that the notification service took. -/
structure PublishedMessage where
  topic : String
  subject : Option String
  /-- The text, the document, or the variables of a template. -/
  message : String
  messageId : String
  templateName : Option String := none
  structured : Bool := false
  deriving DecidableEq, Repr, Inhabited

def PublishedMessage.toJson (m : PublishedMessage) : Json :=
  .obj ([("topic_urn", .string m.topic), ("subject", .ofString? m.subject),
      ("message", .string m.message), ("message_id", .string m.messageId),
      ("structured", .bool m.structured)]
    ++ (m.templateName.map fun name => ("template_name", Json.string name)).toList)

/-- The state of a cloud. -/
structure Cloud where
  region : String := "cn-north-4"
  resources : ResourceType → List Resource := fun _ => []
  subnets : List Resource := []
  securityGroups : List Resource := []
  /-- Backend members per load balancer. -/
  members : StringMap Nat := ∅
  /-- Triggers per function; a function may lack a list of triggers altogether. -/
  triggers : StringMap (Option (List Json)) := ∅
  functionConfigs : StringMap Json := ∅
  /-- Log bindings per topic. -/
  logtanks : StringMap (List Json) := ∅
  /-- The text of the access policy per topic. -/
  accessPolicies : StringMap String := ∅
  logGroups : List Json := []
  /-- Log streams per log group. -/
  logStreams : StringMap (List Json) := ∅
  transfers : List Json := []
  ipGroups : List Json := []
  /-- Forwarding policies per listener. -/
  forwardingPolicies : StringMap (List Json) := ∅
  reservedInstances : StringMap (List Json) := ∅
  versions : StringMap (List Json) := ∅
  aliases : StringMap (List Json) := ∅
  invocations : List (String × Json) := []
  published : List PublishedMessage := []
  calls : List ServiceCall := []
  /-- Operations that fail, each with the target that it fails for. -/
  failures : List (String × String) := []
  /-- Resources whose tags the tag service refuses to write. -/
  rejectedTagTargets : List String := []
  deriving Inhabited

/-- A step of the cloud's services. -/
abbrev CloudM := ExceptT Error (StateM Cloud)

/-- Lift an outcome that needs no cloud. -/
def CloudM.ofExcept {α : Type} : Except Error α → CloudM α
  | .ok value => return value
  | .error e => throw e

namespace Cloud

/-- The target that stands for every target of a failing operation, and for an operation without
a target. -/
def anyTarget : String := "*"

def isFailing (cloud : Cloud) (operation target : String) : Bool :=
  (operation, target) ∈ cloud.failures ∨ (operation, anyTarget) ∈ cloud.failures

def record (cloud : Cloud) (service operation target : String) : Cloud :=
  { cloud with calls := cloud.calls ++ [⟨service, operation, target⟩] }

/-- Every operation starts here: the call is recorded and fails if that was asked for. -/
def enter (service operation target : String) : CloudM Unit := do
  modify (·.record service operation target)
  if (← get).isFailing operation target then
    throw (.serviceCall service operation ("injected failure for '" ++ target ++ "'"))

/-- The error of an operation whose target is not there. -/
def notFound (service operation target : String) : Error :=
  .serviceCall service operation ("'" ++ target ++ "' not found")

def setResources (cloud : Cloud) (type : ResourceType) (stored : List Resource) : Cloud :=
  { cloud with resources := fun other => if other = type then stored else cloud.resources other }

/-- Make an operation fail for a target, or for every target. -/
def failOn (cloud : Cloud) (operation target : String) : Cloud :=
  { cloud with failures := cloud.failures ++ [(operation, target)] }

/-- Let the tag service refuse a resource while the rest of its batch succeeds. -/
def rejectTags (cloud : Cloud) (id : String) : Cloud :=
  { cloud with rejectedTagTargets := cloud.rejectedTagTargets ++ [id] }

/-- The stored record with an identifier, if there is one. -/
def resource? (cloud : Cloud) (type : ResourceType) (id : String) : Option Resource :=
  (cloud.resources type).find? fun r => r.id = id

def callsTo (cloud : Cloud) (operation : String) : List ServiceCall :=
  cloud.calls.filter fun call => call.operation = operation

/-- Change the first element that satisfies `p`. -/
def updateFirst {α : Type} (p : α → Bool) (f : α → α) : List α → List α
  | [] => []
  | x :: xs => if p x then f x :: xs else x :: updateFirst p f xs

@[simp] theorem resources_setResources_self (cloud : Cloud) (type : ResourceType)
    (stored : List Resource) : (cloud.setResources type stored).resources type = stored := by
  simp [setResources]

theorem resources_setResources_of_ne (cloud : Cloud) {type other : ResourceType} (h : other ≠ type)
    (stored : List Resource) :
    (cloud.setResources type stored).resources other = cloud.resources other := by
  simp [setResources, h]

theorem setResources_self (cloud : Cloud) (type : ResourceType) :
    cloud.setResources type (cloud.resources type) = cloud := by
  have hresources : (fun other => if other = type then cloud.resources type
      else cloud.resources other) = cloud.resources := by
    funext other
    split
    next h => rw [h]
    next => rfl
  rw [setResources, hresources]

theorem setResources_setResources (cloud : Cloud) (type : ResourceType)
    (before after : List Resource) :
    (cloud.setResources type before).setResources type after = cloud.setResources type after := by
  simp only [setResources, Cloud.mk.injEq, true_and, and_true]
  funext other
  split <;> rfl

end Cloud

end CloudPolicy
